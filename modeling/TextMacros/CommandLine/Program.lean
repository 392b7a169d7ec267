import TextMacros.CommandLine.Completion.Shell
import TextMacros.CommandLine.Request

/-!
# TextMacros.CommandLine.Program

Running the program: from a command line, the standard input and a workspace to what is written
and the status at the end.

A run either ends with an outcome, also where the command line is refused or a text cannot be
resolved, or breaks off without one.  Main statement: `perform_check`, by which the status of a
check says whether the text holds a `$`.
-/

namespace TextMacros.CommandLine

/-! ## outcomes -/

/-- How a run ends. -/
inductive Status where
  /-- What was asked for was done. -/
  | done
  /-- The answer is no, or there is none. -/
  | failed
  /-- The command line was refused. -/
  | refused
  deriving DecidableEq, Repr

/-- The number of a status. -/
def Status.code : Status → Nat
  | done => 0
  | failed => 1
  | refused => 2

/-- What a run ends with. -/
structure Outcome where
  /-- How the run ended. -/
  status : Status
  /-- What was written to the standard output. -/
  output : Text
  /-- What was written to the standard error. -/
  errors : Text
  deriving DecidableEq, Repr

/-- Why a run breaks off. -/
inductive Crash where
  /-- The settings cannot be read. -/
  | settings (faults : List FieldFault)
  /-- A path holds the character that no path can hold. -/
  | nulCharacter
  /-- The macro file was not loaded, for a reason that is not one of its own. -/
  | macroFile (failure : MacroFile.Failure)
  /-- A text has a closing tag that closes nothing. -/
  | markup (fault : Display.Markup.Fault)
  /-- A line that a shell asks about cannot be completed. -/
  | completion (fault : Completion.Fault)
  deriving DecidableEq, Repr

/-- An outcome that wrote to the standard output only. -/
def Outcome.written (status : Status) (output : Text) : Outcome := ⟨status, output, []⟩

/-- The outcome of a fault found at a place. -/
def Outcome.ofFault (place : Place) (fault : UsageFault) : Outcome :=
  ⟨.refused, [], fault.report place⟩

/-! ## the commands -/

/-- What a run gives: an outcome or a crash, and the workspace as it is then. -/
abbrev Result := Except Crash Outcome × Workspace

/-- The result of showing a help page, given the outcome that its text gives. -/
def showHelp (page : HelpPage) (w : Workspace) (outcome : Text → Outcome) : Result :=
  ((page.printed.mapError .markup).map outcome, w.report page.reports)

/-- The result of having no scope. -/
def ofSourcesFailure : Sources.Failure → Except Crash Outcome
  | .badDefinition definition => .ok (.ofFault (.command .resolve) (.badDefinition definition))
  | .badFile path reason => .ok (.ofFault (.command .resolve) (.badFile path reason))
  | .notLoaded failure => .error (.macroFile failure)

/-- What is written of a text that could not be resolved. -/
def failureLine (columns : Nat) (message : Text) : Except Crash Text :=
  (Display.Markup.print columns
    (.ofString "[bold red]Error:[/bold red] " ++ Display.Markup.escape message)).mapError .markup

/-- The text to resolve, and what is written behind it: the words with single spaces between
them, on a line of their own, or else the input as it is. -/
def textToResolve (words : List Text) (input : Text) : Text × Text :=
  if words.isEmpty then (MacroFile.unifyLineEnds input, [])
  else (Text.joined [' '] words, ['\n'])

/-- Resolves a text.  What is resolved is written without control sequences. -/
def resolve (settings : Settings) (columns : Nat) (sources : Sources) (words : List Text)
    (input : Text) (w : Workspace) : Result :=
  match w.makeSources settings sources with
  | (.error failure, w) => (ofSourcesFailure failure, w)
  | (.ok scope, w) =>
    let (text, ending) := textToResolve words input
    match w.resolve settings.namePattern.isMatch ⟨scope, settings.bound⟩ (some text) with
    | (.failed message, w) => ((failureLine columns message).map (.written .failed), w)
    | (.resolved resolved, w) =>
      (.ok (.written .done (Display.withoutSequences (resolved ++ ending))),
        w.report [.ofString "Resolved to '" ++ resolved ++ ['\'']])

/-- Says whether a text may hold a macro. -/
def check (text : Text) : Outcome :=
  if mayHoldToken text then .written .done (.ofString "yes\n")
  else .written .failed (.ofString "no\n")

/-- The rows that show a token. -/
def tokenRows (token : Token) : List (Text × Text) :=
  [(.ofString "name", token.name),
    (.ofString "default", token.default?.getD ['-']),
    (.ofString "start", .ofNat token.start),
    (.ofString "end", .ofNat token.stop)]

/-- Shows the first token from an index on. -/
def decompose (columns start : Nat) (text : Text) : Outcome :=
  .written .done <|
    match Token.find? text start with
    | none => .ofString "No macro found.\n"
    | some token =>
      Display.unlines (Display.grid columns (.ofString "Macro") (.ofString "Field")
        (.ofString "Value") (tokenRows token))

/-! ## whole runs -/

/-- The columns that there are when the environment does not say. -/
def defaultColumns : Nat := 80

/-- The columns there are for what is printed. -/
def columnsOf (environment : Dictionary Text) : Nat :=
  match environment.get? (.ofString "COLUMNS") with
  | some (c :: cs) =>
    if (c :: cs).all Char.isDigit then Text.ofAsciiDigits (c :: cs) else defaultColumns
  | _ => defaultColumns

/-- Does what is asked for. -/
def perform (settings : Settings) (input : Text) (w : Workspace) : Request → Result
  | .nothing => showHelp (programHelpPage (columnsOf w.process)) w fun t => ⟨.refused, t, ['\n']⟩
  | .version => (.ok (.written .done versionText), w)
  | .programHelp => showHelp (programHelpPage (columnsOf w.process)) w fun t =>
      .written .done (t ++ ['\n'])
  | .help c => showHelp (c.helpPage (columnsOf w.process)) w fun t => .written .done (t ++ ['\n'])
  | .resolve sources words => resolve settings (columnsOf w.process) sources words input w
  | .check text => (.ok (check text), w)
  | .decompose start text => (.ok (decompose (columnsOf w.process) start text), w)

theorem perform_check (settings : Settings) (input : Text) (w : Workspace) (text : Text) :
    ∃ outcome, perform settings input w (.check text) = (.ok outcome, w) ∧
      (outcome.status = .done ↔ '$' ∈ text) := by
  refine ⟨check text, rfl, ?_⟩
  by_cases h : '$' ∈ text <;> simp [check, mayHoldToken, Outcome.written, h]

/-- The result of a refusal. -/
def Request.Refusal.result : Request.Refusal → Except Crash Outcome
  | .usage place fault => .ok (.ofFault place fault)
  | .nulCharacter => .error .nulCharacter

/-- The result of what a shell asks for, as it is written. -/
def answerShell (process : Dictionary Text) (written : Text) : Except Crash Outcome :=
  match Completion.answer process written with
  | .error fault => .error (.completion fault)
  | .ok none => .ok (.written .failed [])
  | .ok (some answer) => .ok (.written .done (Display.withoutSequences answer))

/-- Runs the program.  The settings are read from the environment before anything else; then a
shell may ask for completions in place of a run. -/
def run (arguments : List Text) (input : Text) (process : Dictionary Text)
    (configuration : FilePath) (disk : Disk) : Result :=
  match Settings.read [] process with
  | .error faults =>
    (.error (.settings faults), .new process configuration disk Settings.default.quiet)
  | .ok settings =>
    let w := Workspace.new process configuration disk settings.quiet
    match Completion.asked? process with
    | some written => (answerShell process written, w)
    | none => match Request.read disk arguments with
      | .error refusal => (refusal.result, w)
      | .ok request => perform settings input w request

end TextMacros.CommandLine
