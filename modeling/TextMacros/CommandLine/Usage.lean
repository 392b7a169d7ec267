import TextMacros.CommandLine.Command
import TextMacros.Display.ControlSequence
import TextMacros.Sources

/-!
# TextMacros.CommandLine.Usage

What can be wrong with a command line, and what is said of it.

A fault is said together with the usage of the place where it was found; the faults of an
option's value, of which there is one too few or one too many, are said alone.
-/

namespace TextMacros.CommandLine

/-- What is wrong with a command line. -/
inductive UsageFault where
  /-- Something is wrong with an option. -/
  | option (fault : OptionFault)
  /-- No command is given. -/
  | noCommand
  /-- There is no command of the name, but perhaps commands of similar names. -/
  | unknownCommand (name : Text) (similar : List Text)
  /-- The text is missing. -/
  | noText
  /-- There are arguments left over. -/
  | tooMany (arguments : List Text)
  /-- The macro file, as it is written, is a directory. -/
  | fileIsDirectory (written : Text)
  /-- The macro file, as it is written, may not be read. -/
  | fileNotReadable (written : Text)
  /-- The start is no integer. -/
  | startNoInteger (written : Text)
  /-- The start is negative. -/
  | startNegative (start : Int)
  /-- A text is no definition. -/
  | badDefinition (definition : Text)
  /-- The macro file is refused. -/
  | badFile (path : FilePath) (reason : MacroFile.Refusal)
  deriving DecidableEq, Repr

namespace UsageFault

/-- What is said of a value of an option, given by the names of the option. -/
def ofValue (names : String) (said : Text) : Text :=
  .ofString "Invalid value for " ++ .ofString names ++ .ofString ": " ++ said

/-- What is said of names that may have been meant. -/
def suggestion : List Text → Text
  | [] => []
  | [name] => .ofString " Did you mean " ++ name.quoted ++ ['?']
  | names =>
    .ofString " (Did you mean one of: " ++
      Text.joined (.ofString ", ") (names.map Text.quoted) ++ .ofString "?)"

/-- What is said of an option. -/
def optionMessage : OptionFault → Text
  | .unknown name similar =>
    .ofString "No such option " ++ name.quoted ++ '.' :: suggestion similar
  | .valueMissing name =>
    .ofString "Option " ++ name.quoted ++ .ofString " requires an argument."
  | .valueUnexpected name =>
    .ofString "Option " ++ name.quoted ++ .ofString " does not take a value."

/-- What is said of a fault. -/
def message : UsageFault → Text
  | option fault => optionMessage fault
  | noCommand => .ofString "Missing command."
  | unknownCommand name similar =>
    .ofString "No such command " ++ name.quoted ++ '.' :: suggestion similar
  | noText => .ofString "Missing argument 'TEXT'."
  | tooMany arguments =>
    .ofString (if arguments.length = 1 then "Got unexpected extra argument ("
      else "Got unexpected extra arguments (") ++ Text.joined [' '] arguments ++ [')']
  | fileIsDirectory written =>
    ofValue "'-f' / '--file'"
      (.ofString "File " ++ written.quoted ++ .ofString " is a directory.")
  | fileNotReadable written =>
    ofValue "'-f' / '--file'"
      (.ofString "File " ++ written.quoted ++ .ofString " is not readable.")
  | startNoInteger written =>
    ofValue "'--from'" (written.quoted ++ .ofString " is not a valid integer range.")
  | startNegative start =>
    ofValue "'--from'" (.ofInt start ++ .ofString " is not in the range x>=0.")
  | badDefinition definition =>
    ofValue "'-D' / '--define'" (badDefinitionMessage definition)
  | badFile path reason => reason.message path.toText

/-- Whether a fault is said without the usage. -/
def isSaidAlone : UsageFault → Bool
  | option (.valueMissing _) | option (.valueUnexpected _) => true
  | _ => false

/-- The report of a fault found at a place.  It is written without control sequences. -/
def report (place : Place) (fault : UsageFault) : Text :=
  let usage := .ofString "Usage: " ++ place.name ++ ' ' :: place.synopsis ++
    .ofString "\nTry '" ++ place.name ++ .ofString " --help' for help.\n\n"
  (if fault.isSaidAlone then [] else usage) ++
    Display.withoutSequences (.ofString "Error: " ++ fault.message ++ ['\n'])

end UsageFault

end TextMacros.CommandLine
