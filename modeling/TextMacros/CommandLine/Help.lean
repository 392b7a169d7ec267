import TextMacros.CommandLine.Arguments
import TextMacros.CommandLine.Declaration
import TextMacros.Dictionary
import TextMacros.Display.Frame

/-!
# TextMacros.CommandLine.Help

The help of commands and of groups of commands.

Help is written with tags.  It is printed part by part; where a part is faulty, a report takes the
place of the rest, and where the markup of the report is faulty too, nothing is printed.  Main statement: `assemble_of_ok`, by which a page whose parts are all printed is their
row, and nothing is reported of it.
-/

namespace TextMacros.CommandLine

open Display (Markup.Fault)

/-! ## texts -/

/-- The help text of a command: its description, its usage, and its arguments with what they
are. -/
def helpText (description usage : Text) (arguments : Dictionary Text) : Text :=
  .ofString "[bold cyan]" ++ description ++ .ofString "[/bold cyan]\n\n" ++
    .ofString "[bold yellow]Usage:[/bold yellow]\n    [green]" ++ usage ++
    .ofString "[/green]\n\n" ++ .ofString "[bold yellow]Arguments:[/bold yellow]\n" ++
    arguments.entries.flatMap fun p =>
      .ofString "    [green]" ++ p.1 ++ .ofString "[/green]: " ++ p.2 ++ ['\n']

/-- What is said of an option or command without help. -/
def orElse (text? : Option Text) (otherwise : String) : Text :=
  match text? with
  | some (c :: cs) => c :: cs
  | _ => .ofString otherwise

/-- The names of an option and what the help says of it. -/
structure OptionHelp where
  /-- The names by which it is given. -/
  names : List Text
  /-- The names by which it is switched off. -/
  offNames : List Text
  /-- What the help says. -/
  help? : Option Text

/-- The help of an option. -/
def OptionSpec.toHelp {κ : Type} (o : OptionSpec κ) : OptionHelp := ⟨o.names, o.offNames, o.help?⟩

/-- The help of a declared option. -/
def Declaration.toHelp (d : Declaration) (help? : Option Text) : OptionHelp :=
  ⟨d.names, d.offNames, help?⟩

/-- All names of an option, those that switch it off last. -/
def OptionHelp.allNames (o : OptionHelp) : List Text := o.names ++ o.offNames

/-- The line of an option, under some of its names. -/
def OptionHelp.line (o : OptionHelp) (names : List Text) : Text :=
  .ofString "- [cyan]" ++ Text.joined (.ofString ", ") names ++ .ofString "[/cyan]: " ++
    orElse (o.help?.map Text.dedent) "No description"

/-- The heading of the options. -/
def optionsHeading : Text := .ofString "[bold yellow]Options:[/bold yellow]"

/-- The option that asks for help. -/
def helpOption {κ : Type} (key : κ) : OptionSpec κ :=
  ⟨key, [.ofString "--help"], [], false, some (.ofString "Show this message and exit.")⟩

/-- Options with the one that asks for help behind them, unless its name is taken. -/
def withHelpOption (taken : List Text) (options : List OptionHelp) : List OptionHelp :=
  let help := (helpOption ()).toHelp
  if help.names.any (taken ++ options.flatMap OptionHelp.allNames).contains then options
  else options ++ [help]

/-! ## faults -/

/-- Why a part of a page cannot be printed. -/
inductive HelpFault where
  /-- Its markup is faulty. -/
  | markup (fault : Markup.Fault)
  /-- It is the line of an option under its first name, and there is no such name. -/
  | nameless
  deriving DecidableEq, Repr

/-- The text of a fault. -/
def HelpFault.message : HelpFault → Text
  | markup fault => fault.message
  | nameless => .ofString "list index out of range"

/-- Prints a part of a page. -/
def printPart (columns : Nat) (part : Text) : Except HelpFault Text :=
  (Display.Markup.print columns part).mapError .markup

/-! ## pages -/

/-- A help page. -/
structure HelpPage where
  /-- What is printed, or why nothing is. -/
  printed : Except Markup.Fault Text
  /-- What is reported of the page. -/
  reports : List Text

/-- What is said before the text of a fault. -/
def faultHeading : Text := .ofString "Help rendering error:"

/-- The page that takes the place of parts from a faulty one on. -/
def faultPage (columns : Nat) (fault : HelpFault) : HelpPage where
  printed := Display.Markup.print columns
    (.ofString "[bold red]" ++ faultHeading ++ .ofString "[/bold red] " ++ fault.message)
  reports := [faultHeading ++ ' ' :: fault.message]

/-- The page of parts that are each printed or faulty. -/
def assemble (columns : Nat) : List (Except HelpFault Text) → HelpPage
  | [] => ⟨.ok [], []⟩
  | .ok t :: parts =>
    let rest := assemble columns parts
    { rest with printed := rest.printed.map (t ++ ·) }
  | .error fault :: _ => faultPage columns fault

theorem assemble_of_ok (columns : Nat) (parts : List Text) :
    assemble columns (parts.map .ok) = ⟨.ok parts.flatten, []⟩ := by
  induction parts with
  | nil => rfl
  | cons t parts ih => simp [assemble, ih, Except.map]

/-- The greatest number of columns of a panel. -/
def maxPanelColumns : Nat := 80

/-- The columns that a panel of help may take up: ten more than the longest line is written
with, up to a limit. -/
def panelColumns (columns : Nat) (help : Text) : Nat :=
  min columns (min (((Text.lines help).map List.length).foldl max 0 + 10) maxPanelColumns)

/-- The help page of a command: its help in a panel, and its options. -/
def commandHelp (columns : Nat) (help? : Option Text) (options : List OptionHelp) : HelpPage :=
  let help := orElse help? "No help text available."
  let panel := ((Display.Markup.plain help).mapError HelpFault.markup).map fun t =>
    Display.unlines (Display.panel (panelColumns columns help) t)
  let optionLines := if options.isEmpty then [] else
    optionsHeading :: options.map fun o => o.line o.allNames
  assemble columns (panel :: optionLines.map (printPart columns))

/-- The help page of a group of commands: its usage, its help, its commands with what is said
of each in short, and its options, each under its first name. -/
def groupHelp (columns : Nat) (name : Text) (help? : Option Text)
    (commands : Dictionary (Option Text)) (options : List OptionHelp) : HelpPage :=
  let usage := .ofString "[bold yellow]Usage:[/bold yellow] [cyan]" ++ name ++
    .ofString "[/cyan] [magenta][OPTIONS] COMMAND [ARGS]...[/magenta]\n"
  let about := match help? with
    | some (c :: cs) =>
      [.ofString "[bold cyan]" ++ Text.trim (c :: cs) ++ .ofString "[/bold cyan]\n"]
    | _ => []
  let commandLines := if commands.entries.isEmpty then [] else
    .ofString "[bold green]Available Commands:[/bold green]" ::
      commands.entries.map (fun p =>
        .ofString "- [cyan]" ++ p.1 ++ .ofString "[/cyan]: [white]" ++
          orElse p.2 "No description available." ++ .ofString "[/white]") ++ [[]]
  let optionLines : List (Except HelpFault Text) := if options.isEmpty then [] else
    .ok optionsHeading :: options.map fun o => match o.names with
      | [] => .error .nameless
      | first :: _ => .ok (o.line [first])
  assemble columns
    (((usage :: about ++ commandLines).map .ok ++ optionLines).map (·.bind (printPart columns)))

end TextMacros.CommandLine
