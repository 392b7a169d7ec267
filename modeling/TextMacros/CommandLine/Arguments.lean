import TextMacros.Text.Quoted
import TextMacros.Text.Similarity

/-!
# TextMacros.CommandLine.Arguments

Telling the options of a command from its other arguments.

An argument that starts with `-` and is longer than that is an option; `--` ends the options.  A
long option may hold its value behind a `=`; a short one may be followed by other short options,
or by its value, in the same argument.  An option that needs a value and has none takes the next
argument, whatever it looks like.  Main statement: `parse_of_noOptions`, by which arguments that
hold no option are left as they are.
-/

namespace TextMacros.CommandLine

/-! ## options -/

/-- An option of a command; `κ` tells the options apart. -/
structure OptionSpec (κ : Type) where
  /-- What the option is. -/
  key : κ
  /-- The names by which it is given. -/
  names : List Text
  /-- The names by which it is switched off. -/
  offNames : List Text
  /-- Whether it takes a value. -/
  takesValue : Bool
  /-- What the help says of it. -/
  help? : Option Text

/-- How an option is given. -/
inductive Setting where
  /-- Switched on. -/
  | on
  /-- Switched off. -/
  | off
  /-- With a value. -/
  | value (t : Text)
  deriving DecidableEq, Repr

/-- What is wrong with an option. -/
inductive OptionFault where
  /-- There is no option of the name, but perhaps options of similar names. -/
  | unknown (name : Text) (similar : List Text)
  /-- The option needs a value. -/
  | valueMissing (name : Text)
  /-- The option takes no value. -/
  | valueUnexpected (name : Text)
  deriving DecidableEq, Repr

variable {κ : Type}

/-- The option of a name, and what giving it by that name does unless it takes a value. -/
def findOption (options : List (OptionSpec κ)) (name : Text) : Option (OptionSpec κ × Setting) :=
  options.findSome? fun o =>
    if o.names.contains name then some (o, .on)
    else if o.offNames.contains name then some (o, .off)
    else none

/-- The name of a short option. -/
def shortName (c : Char) : Text := ['-', c]

/-! ## one argument -/

/-- How the options of one argument end. -/
inductive Ending (κ : Type) where
  /-- All are complete. -/
  | whole
  /-- The last takes the next argument as its value; its name and its key. -/
  | waiting (name : Text) (key : κ)
  /-- What follows is faulty. -/
  | faulty (fault : OptionFault)

/-- What an argument gives. -/
structure Given (κ : Type) where
  /-- The options that are complete. -/
  complete : List (κ × Setting)
  /-- What comes behind them. -/
  ending : Ending κ

/-- Reads the short options of one argument. -/
def readShort (options : List (OptionSpec κ)) : Text → Given κ
  | [] => ⟨[], .whole⟩
  | c :: cs =>
    match findOption options (shortName c) with
    | none => ⟨[], .faulty (.unknown (shortName c) [])⟩
    | some (o, setting) =>
      if o.takesValue then
        if cs.isEmpty then ⟨[], .waiting (shortName c) o.key⟩ else ⟨[(o.key, .value cs)], .whole⟩
      else
        let rest := readShort options cs
        { rest with complete := (o.key, setting) :: rest.complete }

/-- Reads a long option, given its name and the value it holds. -/
def readLong (o : OptionSpec κ) (setting : Setting) (name : Text) (value? : Option Text) :
    Given κ :=
  match o.takesValue, value? with
  | true, some value => ⟨[(o.key, .value value)], .whole⟩
  | true, none => ⟨[], .waiting name o.key⟩
  | false, some _ => ⟨[], .faulty (.valueUnexpected name)⟩
  | false, none => ⟨[(o.key, setting)], .whole⟩

/-- Whether a name is that of a long option: not a dash and one character. -/
def isLongName (name : Text) : Bool := name.length != 2 || name.take 2 == ['-', '-']

/-- The long names of options. -/
def longNames (options : List (OptionSpec κ)) : List Text :=
  (options.flatMap fun o => o.names ++ o.offNames).filter isLongName

/-- Reads an argument that is an option. -/
def readOption (options : List (OptionSpec κ)) (argument : Text) : Given κ :=
  let (name, value?) := match Text.splitAt '=' argument with
    | some (name, value) => (name, some value)
    | none => (argument, none)
  match (if isLongName name then findOption options name else none) with
  | some (o, setting) => readLong o setting name value?
  | none =>
    if argument.take 2 == ['-', '-'] then
      ⟨[], .faulty (.unknown name (Text.closest name (longNames options)))⟩
    else readShort options argument.tail

/-! ## all arguments -/

/-- Whether an argument is an option. -/
def isOption (argument : Text) : Bool := argument.head? == some '-' && argument.length > 1

/-- The options given, and the other arguments, in order. -/
structure Arguments (κ : Type) where
  /-- The options. -/
  options : List (κ × Setting)
  /-- The other arguments. -/
  others : List Text

/-- The arguments with options put before them. -/
def Arguments.withOptions (a : Arguments κ) (given : List (κ × Setting)) : Arguments κ :=
  { a with options := given ++ a.options }

/-- Reads arguments up to the first fault.  Options may stand behind other arguments only if they
are `mixed`. -/
def scan (options : List (OptionSpec κ)) (mixed : Bool) :
    List Text → Arguments κ × Option OptionFault
  | [] => (⟨[], []⟩, none)
  | argument :: rest =>
    if argument = ['-', '-'] then (⟨[], rest⟩, none)
    else if isOption argument then
      let given := readOption options argument
      match given.ending with
      | .faulty fault => (⟨given.complete, []⟩, some fault)
      | .whole =>
        let (a, fault?) := scan options mixed rest
        (a.withOptions given.complete, fault?)
      | .waiting name key =>
        match rest with
        | [] => (⟨given.complete, []⟩, some (.valueMissing name))
        | value :: rest =>
          let (a, fault?) := scan options mixed rest
          (a.withOptions (given.complete ++ [(key, .value value)]), fault?)
    else if mixed then
      let (a, fault?) := scan options mixed rest
      ({ a with others := argument :: a.others }, fault?)
    else (⟨[], argument :: rest⟩, none)

/-- Reads arguments in which nothing is faulty. -/
def parse (options : List (OptionSpec κ)) (mixed : Bool) (arguments : List Text) :
    Except OptionFault (Arguments κ) :=
  match scan options mixed arguments with
  | (_, some fault) => .error fault
  | (a, none) => .ok a

theorem scan_of_noOptions (options : List (OptionSpec κ)) (mixed : Bool) {arguments : List Text}
    (h : ∀ a ∈ arguments, isOption a = false) :
    scan options mixed arguments = (⟨[], arguments⟩, none) := by
  induction arguments with
  | nil => rfl
  | cons a rest ih =>
    have ha := h a (by simp)
    have hdash : a ≠ ['-', '-'] := by rintro rfl; simp [isOption] at ha
    have hrest := ih fun x hx => h x (by simp [hx])
    cases mixed <;> simp [scan, hdash, ha, hrest]

theorem parse_of_noOptions (options : List (OptionSpec κ)) (mixed : Bool) {arguments : List Text}
    (h : ∀ a ∈ arguments, isOption a = false) :
    parse options mixed arguments = .ok ⟨[], arguments⟩ := by
  simp [parse, scan_of_noOptions options mixed h]

/-- Whether an option is given. -/
def Arguments.gives [DecidableEq κ] (a : Arguments κ) (key : κ) : Bool :=
  a.options.any (·.1 = key)

/-- The last setting of an option, if it is given. -/
def Arguments.last? [DecidableEq κ] (a : Arguments κ) (key : κ) : Option Setting :=
  (a.options.reverse.find? (·.1 = key)).map (·.2)

/-- The values given for an option, in order. -/
def Arguments.values [DecidableEq κ] (a : Arguments κ) (key : κ) : List Text :=
  a.options.filterMap fun o => match o with
    | (k, .value t) => if k = key then some t else none
    | _ => none

end TextMacros.CommandLine
