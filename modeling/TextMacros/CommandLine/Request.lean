import TextMacros.CommandLine.Usage

/-!
# TextMacros.CommandLine.Request

What a command line asks for.

The options of the program stand before the name of the command, those of the command behind it,
among its other arguments.  All options of a place are told apart before any of them counts; then
those that ask for the version or for help go before all else, then the values of the options are
looked at, then the other arguments.  Main statement: `readCommand_check`, by which a text that is
no option is checked as it stands.
-/

namespace TextMacros.CommandLine

/-- What a command line asks for. -/
inductive Request where
  /-- Nothing at all. -/
  | nothing
  /-- The version. -/
  | version
  /-- The help of the program. -/
  | programHelp
  /-- The help of a command. -/
  | help (c : Command)
  /-- To resolve a text, of which the words are given unless it is to be read. -/
  | resolve (sources : Sources) (words : List Text)
  /-- To say whether a text may hold a macro. -/
  | check (text : Text)
  /-- To show the parts of the first macro from an index on. -/
  | decompose (start : Nat) (text : Text)

/-- Why a command line asks for nothing that can be done. -/
inductive Request.Refusal where
  /-- Something at a place is wrong. -/
  | usage (place : Place) (fault : UsageFault)
  /-- A path holds the character that no path can hold. -/
  | nulCharacter
  deriving DecidableEq, Repr

namespace Request

/-! ## values -/

/-- The refusal of a command. -/
def refuse {α : Type} (c : Command) (fault : UsageFault) : Except Refusal α :=
  .error (.usage (.command c) fault)

/-- Looks at the path of a macro file.  Whether there is such a file is seen only when it is
loaded. -/
def readFile (disk : Disk) (written : Text) : Except Refusal FilePath :=
  match disk.find written with
  | .ok .directory => refuse .resolve (.fileIsDirectory written)
  | .ok (.file _ false) => refuse .resolve (.fileNotReadable written)
  | .error .nulCharacter => .error .nulCharacter
  | .ok (.file _ true) | .error _ => .ok (.ofText written)

/-- Reads the index to start at. -/
def readStart (written : Text) : Except Refusal Nat :=
  match Text.readInteger written with
  | .error _ => refuse .decompose (.startNoInteger written)
  | .ok start =>
    if start < 0 then refuse .decompose (.startNegative start) else .ok start.toNat

/-- The one text among the arguments of a command. -/
def readText (c : Command) : List Text → Except Refusal Text
  | [] => refuse c .noText
  | [text] => .ok text
  | _ :: others => refuse c (.tooMany others)

/-- Reads a value that may be missing. -/
def readOptional {α : Type} (reader : Text → Except Refusal α) :
    Option Text → Except Refusal (Option α)
  | none => .ok none
  | some written => (reader written).map some

/-! ## commands -/

/-- Reads a command whose arguments are told apart and that is not asked for help. -/
def ofArguments (disk : Disk) (c : Command) (given : Arguments CommandOption) :
    Except Refusal Request :=
  match c with
  | .resolve => do
    let file? ← readOptional (readFile disk) (given.values .file).getLast?
    let useEnvironment := given.last? .environment != some .off
    .ok (.resolve ⟨given.values .define, file?, useEnvironment⟩ given.others)
  | .check => (readText .check given.others).map .check
  | .decompose => do
    let start? ← readOptional readStart (given.values .start).getLast?
    let text ← readText .decompose given.others
    .ok (.decompose (start?.getD 0) text)

/-- Reads the arguments of a command. -/
def readCommand (disk : Disk) (c : Command) (arguments : List Text) : Except Refusal Request :=
  match parse c.options true arguments with
  | .error fault => refuse c (.option fault)
  | .ok given =>
    if (given.last? .help).isSome then .ok (.help c) else ofArguments disk c given

theorem readCommand_check (disk : Disk) {text : Text} (h : isOption text = false) :
    readCommand disk .check [text] = .ok (.check text) := by
  have parsed : parse Command.check.options true [text] = .ok ⟨[], [text]⟩ :=
    parse_of_noOptions _ true (by simpa using h)
  simp [readCommand, parsed, Arguments.last?, ofArguments, readText, Except.map]

/-! ## the whole command line -/

/-- What an option of the program asks for. -/
def ofProgramOption : ProgramOption → Request
  | .version => version
  | .help => programHelp

/-- Reads the options of the program: what the first of them asks for, or the arguments behind
them. -/
def readProgramOptions (arguments : List Text) : Except Refusal (Request ⊕ List Text) :=
  match parse programOptions false arguments with
  | .error fault => .error (.usage .program (.option fault))
  | .ok given =>
    match given.options with
    | (key, _) :: _ => .ok (.inl (ofProgramOption key))
    | [] => .ok (.inr given.others)

/-- Refuses a name that no command has.  Where it stands behind `--` it may look like an option
of the program, and is taken for one. -/
def readUnknown (name : Text) (arguments : List Text) : Except Refusal Request := do
  match ← readProgramOptions (name :: arguments) with
  | .inl request => .ok request
  | .inr _ =>
    let similar := Text.closest name (Command.all.map Command.name)
    .error (.usage .program (.unknownCommand name similar))

/-- Reads a command line. -/
def read (disk : Disk) (arguments : List Text) : Except Refusal Request := do
  if arguments.isEmpty then return nothing
  match ← readProgramOptions arguments with
  | .inl request => .ok request
  | .inr [] => .error (.usage .program .noCommand)
  | .inr (name :: rest) =>
    match Command.ofName? name with
    | some c => readCommand disk c rest
    | none => readUnknown name rest

/-- Whether a request needs the standard input. -/
def readsInput : Request → Bool
  | resolve _ words => words.isEmpty
  | _ => false

end Request

end TextMacros.CommandLine
