import TextMacros.CommandLine.Help

/-!
# TextMacros.CommandLine.Command

The commands of the program, with their options and their help.

```
macrosub [OPTIONS] COMMAND [ARGS]...
  resolve    [-D DEFINITION]... [-f FILE] [--env | --no-env] [TEXT]...
  check      TEXT
  decompose  [--from N] TEXT
```

Main statement: `Command.ofName?_eq_some_iff`, by which a command is found under its name and no
other.
-/

namespace TextMacros.CommandLine

/-! ## the program -/

/-- The name of the program. -/
def programName : Text := .ofString "macrosub"

/-- What is said of the version of the program. -/
def versionText : Text := programName ++ .ofString ", version 0.1.0\n"

/-- The options of the program itself. -/
inductive ProgramOption where
  /-- Asks for the version. -/
  | version
  /-- Asks for the help. -/
  | help
  deriving DecidableEq, Repr

/-- The options of the program itself, as they are given. -/
def programOptions : List (OptionSpec ProgramOption) :=
  [⟨.version, [.ofString "-V", .ofString "--version"], [], false,
      some (.ofString "Show the version and exit.")⟩,
    helpOption .help]

/-- What the program is for. -/
def programHelp : Text :=
  .ofString "Macro Substitution\n\n    Resolve $(NAME) and $\x7bNAME\x7d macros in text."

/-! ## the commands -/

/-- The commands. -/
inductive Command where
  /-- Resolves the macros in texts. -/
  | resolve
  /-- Says whether a text may hold a macro. -/
  | check
  /-- Shows the parts of a macro. -/
  | decompose
  deriving DecidableEq, Repr

/-- The options of the commands. -/
inductive CommandOption where
  /-- Gives a definition. -/
  | define
  /-- Names the macro file. -/
  | file
  /-- Says whether the environment is a source. -/
  | environment
  /-- Says where to start. -/
  | start
  /-- Asks for the help. -/
  | help
  deriving DecidableEq, Repr

namespace Command

/-- The commands, in the order of the help. -/
def all : List Command := [resolve, check, decompose]

/-- The name of a command. -/
def name : Command → Text
  | resolve => .ofString "resolve"
  | check => .ofString "check"
  | decompose => .ofString "decompose"

/-- The command of a name. -/
def ofName? (name : Text) : Option Command := all.find? fun c => c.name = name

theorem ofName?_eq_some_iff {name : Text} {c : Command} :
    ofName? name = some c ↔ c.name = name := by
  constructor
  · intro h
    simpa using List.find?_some h
  · rintro rfl
    cases c <;> decide

/-- What is said of a command in short. -/
def shortHelp : Command → Text
  | resolve => .ofString "Resolve macros in text"
  | check => .ofString "Check text for macros"
  | decompose => .ofString "Show the first macro token"

/-- The help of a command. -/
def help : Command → Text
  | resolve => helpText
      (.ofString "Replace $(NAME), $\x7bNAME\x7d and $(NAME=default) macros in text.")
      (.ofString "macrosub resolve [OPTIONS] [TEXT...]")
      (.ofList [(.ofString "[TEXT...]",
        .ofString "Text to resolve. Read from stdin if omitted.")])
  | check => helpText
      (.ofString "Report whether text contains a possible macro.")
      (.ofString "macrosub check <TEXT>")
      (.ofList [(.ofString "<TEXT>", .ofString "The text to check.")])
  | decompose => helpText
      (.ofString "Show name, default and span of the first macro token.")
      (.ofString "macrosub decompose [--from N] <TEXT>")
      (.ofList [(.ofString "<TEXT>", .ofString "The text to scan.")])

/-- The options of a command. -/
def options : Command → List (OptionSpec CommandOption)
  | resolve =>
    [⟨.define, [.ofString "-D", .ofString "--define"], [], true,
        some (.ofString "Define a macro. May be repeated.")⟩,
      ⟨.file, [.ofString "-f", .ofString "--file"], [], true,
        some (.ofString "JSON file with macro definitions.")⟩,
      ⟨.environment, [.ofString "--env"], [.ofString "--no-env"], false,
        some (.ofString "Fall back to environment variables.")⟩,
      helpOption .help]
  | check => [helpOption .help]
  | decompose =>
    [⟨.start, [.ofString "--from"], [], true,
        some (.ofString "Offset where scanning starts.")⟩,
      helpOption .help]

/-- What may follow the name of a command. -/
def synopsis : Command → Text
  | resolve => .ofString "[OPTIONS] [TEXT]..."
  | check | decompose => .ofString "[OPTIONS] TEXT"

/-- The help page of a command. -/
def helpPage (columns : Nat) (c : Command) : HelpPage :=
  commandHelp columns (some c.help) (c.options.map OptionSpec.toHelp)

end Command

/-- The help page of the program. -/
def programHelpPage (columns : Nat) : HelpPage :=
  groupHelp columns programName (some programHelp)
    (.ofList (Command.all.map fun c => (c.name, some c.shortHelp)))
    (programOptions.map OptionSpec.toHelp)

/-! ## where an argument stands -/

/-- Where in the command line something stands. -/
inductive Place where
  /-- Before the name of a command. -/
  | program
  /-- Behind the name of a command. -/
  | command (c : Command)
  deriving DecidableEq, Repr

/-- The names that lead to a place. -/
def Place.name : Place → Text
  | program => programName
  | command c => programName ++ ' ' :: c.name

/-- What may stand at a place. -/
def Place.synopsis : Place → Text
  | program => .ofString "[OPTIONS] COMMAND [ARGS]..."
  | command c => c.synopsis

end TextMacros.CommandLine
