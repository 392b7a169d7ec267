import TextMacros.Display.Literal.Reader
import TextMacros.Text.Blank
import TextMacros.Text.Quoted

/-!
# TextMacros.Display.Handler

The values of the tags that name a handler.

The value of such a tag is a literal, or the name of a handler with its parameters in brackets,
which may be missing.  Main statement: `check_of_name`, by which a name alone is a good value.
-/

namespace TextMacros.Display.Handler

/-! ## faults -/

/-- Why a tag has no good value. -/
inductive Fault where
  /-- The parameters in its value are no expression. -/
  | badParameters (parameters value : Text) (fault : Literal.Fault)
  /-- The parameters in its value are no literal. -/
  | noValue (value : Text) (trouble : Literal.Trouble)
  deriving DecidableEq, Repr

/-- What is said of an expression that has no value. -/
def troubleMessage : Literal.Trouble → Text
  | .noLiteral => .ofString "malformed node or string on line 1"
  | .unhashable kind => .ofString "unhashable type: '" ++ .ofString kind ++ ['\'']

/-- The text of a fault. -/
def Fault.message : Fault → Text
  | badParameters parameters value fault =>
    .ofString "error parsing " ++ parameters.quoted ++ .ofString " in " ++ value.quoted ++
      .ofString "; " ++ fault.message
  | noValue value trouble =>
    .ofString "error parsing " ++ value.quoted ++ .ofString "; " ++ troubleMessage trouble

/-! ## values -/

/-- Whether a character may stand in the name of a handler. -/
def inName (c : Char) : Bool := Text.isWordChar c || c == '.'

/-- The parameters in a value without blanks around it: what stands in brackets behind a name, on
one line, or else the whole value. -/
def parametersOf (value : Text) : Text :=
  match value.dropWhile inName with
  | [] => ['(', ')']
  | '(' :: rest =>
    if rest.getLast? = some ')' && !rest.contains '\n' then '(' :: rest else value
  | _ => value

/-- Checks the value of a tag. -/
def check (value : Text) : Except Fault Unit :=
  let parameters := parametersOf (Text.trim value)
  match Literal.check parameters with
  | .ok () => .ok ()
  | .error (.fault fault) => .error (.badParameters parameters value fault)
  | .error (.trouble trouble) => .error (.noValue value trouble)

theorem dropWhile_inName {name : Text} (h : name.all inName) : name.dropWhile inName = [] := by
  induction name with
  | nil => rfl
  | cons c cs ih =>
    simp only [List.all_cons, Bool.and_eq_true] at h
    simp [h.1, ih h.2]

theorem check_of_name {value : Text} (h : (Text.trim value).all inName) : check value = .ok () := by
  have hparameters : parametersOf (Text.trim value) = ['(', ')'] := by
    simp [parametersOf, dropWhile_inName h]
  have hcheck : Literal.check ['(', ')'] = .ok () := by rfl
  simp [check, hparameters, hcheck]

end TextMacros.Display.Handler
