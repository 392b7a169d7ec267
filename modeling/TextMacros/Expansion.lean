import TextMacros.Token

/-!
# TextMacros.Expansion

Expanding the tokens of a text, step by step.

The expander keeps a working text and an offset.  Each step takes the next token at or behind
the offset and does one of four things with it:

* `skip`: the name is not a name; the scan goes on behind the token's opener;
* `leave`: the name has no value and the token no default; the scan goes on likewise;
* `splice`: the value, or else the default, takes the token's place; the scan starts anew;
* `restart`: the value refers to its own name; the default, or else the value, becomes the whole
  text; the scan starts anew.

A run ends `settled` when no token is left, or `exceeded` when its budget of steps is used up.
A run is recorded in full: which names were looked up, what was reported and what came out are
all read off its steps.

The report of an exceeded run holds the bound, and every bound is written out in it, however long.
A system that does not write integers of more than 4300 digits has a fault in place of that report;
here there is none.
-/

namespace TextMacros

/-- What an expansion depends on besides its text: the values of the names, and which texts are
names at all. -/
structure Rules where
  /-- The value of a name, if it has one. -/
  value? : Text → Option Text
  /-- Whether a text is a name. -/
  isName : Text → Bool

/-- What a step does with its token. -/
inductive Action where
  /-- The token's name is not a name. -/
  | skip
  /-- The token stays as it is, for want of a value. -/
  | leave
  /-- The replacement becomes the whole text. -/
  | restart (replacement : Text)
  /-- The replacement takes the token's place. -/
  | splice (replacement : Text)
  deriving DecidableEq, Repr

/-- A step: the token it met, and what it did with it. -/
structure Step where
  /-- The token at which the step was made. -/
  token : Token
  /-- What was done with it. -/
  action : Action
  deriving DecidableEq, Repr

/-- The working text, and the offset from which it is scanned. -/
structure Expansion where
  /-- The working text. -/
  text : Text
  /-- Where the scan for the next token starts. -/
  offset : Nat
  deriving DecidableEq, Repr

/-! ## one step -/

/-- Whether the first token of a value bears the name itself. -/
def refersTo (name : Text) (value : Text) : Bool :=
  (Token.find? value 0).map Token.name == some name

/-- What is to be done with a token. -/
def Action.of (rules : Rules) (token : Token) : Action :=
  if !rules.isName token.name then skip
  else match rules.value? token.name with
    | some value =>
      if refersTo token.name value then restart (token.default?.getD value) else splice value
    | none =>
      match token.default? with
      | some value => splice value
      | none => leave

/-- Whether the values are asked for the token's name: for every name, and for nothing else. -/
def Action.looksUp : Action → Bool
  | skip => false
  | _ => true

namespace Expansion

/-- An expansion starts at the front of its text. -/
def start (text : Text) : Expansion := ⟨text, 0⟩

/-- What an action makes of the working text. -/
def apply (e : Expansion) (token : Token) : Action → Expansion
  | .skip | .leave => ⟨e.text, token.start + 2⟩
  | .restart replacement => start replacement
  | .splice replacement => start (TextMacros.splice e.text token.span replacement)

/-- The next step and what it leads to; `none` once no token is left. -/
def step? (rules : Rules) (e : Expansion) : Option (Step × Expansion) :=
  (Token.find? e.text e.offset).map fun token =>
    let action := Action.of rules token
    (⟨token, action⟩, e.apply token action)

end Expansion

/-! ## a run -/

/-- How a run ends. -/
inductive Ending where
  /-- No token was left. -/
  | settled
  /-- The budget of steps was used up. -/
  | exceeded
  deriving DecidableEq, Repr

/-- A run: its steps, the working text it ended with, and how it ended. -/
structure Run where
  /-- The steps, in order. -/
  steps : List Step
  /-- The working text at the end, with its escapes. -/
  text : Text
  /-- How the run ended. -/
  ending : Ending
  deriving DecidableEq, Repr

namespace Run

/-- The run with a step put before it. -/
def cons (step : Step) (run : Run) : Run := { run with steps := step :: run.steps }

/-- The names whose values were asked for, in order and with repetitions. -/
def lookups (run : Run) : List Text :=
  (run.steps.filter (·.action.looksUp)).map (·.token.name)

/-- What a run yields: the working text without its escapes, or the text at which the budget ran
out. -/
def result (run : Run) : Except Text Text :=
  match run.ending with
  | .settled => .ok (unescape run.text)
  | .exceeded => .error run.text

end Run

/-- Runs an expansion with a budget.  A budget of `n` allows `n - 1` steps: the `n`-th is still
made, but the run does not look whether it was the last. -/
def Expansion.run (rules : Rules) : Nat → Expansion → Run
  | 0, e => ⟨[], e.text, .exceeded⟩
  | budget + 1, e =>
    match e.step? rules with
    | none => ⟨[], e.text, .settled⟩
    | some (step, next) => (Expansion.run rules budget next).cons step

/-- Expands a text in at most `bound` steps; a negative bound is exceeded at once. -/
def expand (rules : Rules) (text : Text) (bound : Int) : Run :=
  (Expansion.start text).run rules (bound + 1).toNat

@[simp] theorem Run.ending_cons (step : Step) (run : Run) :
    (run.cons step).ending = run.ending := rfl

@[simp] theorem Run.text_cons (step : Step) (run : Run) : (run.cons step).text = run.text := rfl

@[simp] theorem Run.steps_cons (step : Step) (run : Run) :
    (run.cons step).steps = step :: run.steps := rfl

/-! ## what is reported -/

/-- The report of a token whose name is no name. -/
def skippingMessage (name : Text) : Text :=
  .ofString "Skipping '" ++ name ++ .ofString "', not a valid macro name"

/-- The report of a text at which a bound was exceeded. -/
def limitMessage (bound : Int) (text : Text) : Text :=
  .ofString "Recursion limit " ++ .ofInt bound ++ .ofString " exceeded on '" ++ text ++
    .ofString "'"

/-- The report of a step. -/
def Step.message (step : Step) : Text :=
  let name := step.token.name
  match step.action with
  | .skip => skippingMessage name
  | .leave => .ofString "'" ++ name ++ .ofString "' is undefined, leaving it unresolved"
  | .restart r =>
    .ofString "'" ++ name ++ .ofString "' refers to itself, using '" ++ r ++ .ofString "'"
  | .splice r => .ofString "$(" ++ name ++ .ofString ") -> '" ++ r ++ .ofString "'"

/-- The reports of a run with a bound: one a step, and one more if the bound was exceeded. -/
def Run.messages (bound : Int) (run : Run) : List Text :=
  run.steps.map Step.message ++
    match run.ending with
    | .settled => []
    | .exceeded => [limitMessage bound run.text]

/-- The text of the error that an exceeded run is reported with; `values` describes where the
values come from. -/
def recursionMessage (text values : Text) : Text :=
  .ofString "Recursive macro " ++ text ++ .ofString ". Values: " ++ values

end TextMacros
