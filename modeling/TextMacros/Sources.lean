import TextMacros.Settings
import TextMacros.Workspace

/-!
# TextMacros.Sources

The sources of values of the command line, in order of precedence: definitions, a macro file, and
the environment.

The definitions are looked at before the file.  The file is the one given, or else the one that
is set, or else the user's, if it exists.
-/

namespace TextMacros

/-- What the command line says of its sources. -/
structure Sources where
  /-- The definitions, in order. -/
  definitions : List Text
  /-- The macro file, if one is given. -/
  file? : Option FilePath
  /-- Whether the environment is a source. -/
  useEnvironment : Bool

/-- Why there is no scope for the sources. -/
inductive Sources.Failure where
  /-- A text is no definition. -/
  | badDefinition (definition : Text)
  /-- The macro file is refused. -/
  | badFile (path : FilePath) (reason : MacroFile.Refusal)
  /-- The macro file was not loaded for another reason. -/
  | notLoaded (failure : MacroFile.Failure)
  deriving DecidableEq, Repr

/-- The failure that a failure to load a file is. -/
def Sources.Failure.ofFile : MacroFile.Failure → Sources.Failure
  | .refused path reason => badFile path reason
  | failure => notLoaded failure

/-- The text of a failure. -/
def Sources.Failure.message : Sources.Failure → Text
  | badDefinition definition => badDefinitionMessage definition
  | badFile path reason => reason.message path.toText
  | notLoaded failure => failure.message

namespace Workspace

/-- The path of the macro file of the sources, if there is one: the one given, or else the one to
load when none is. -/
def sourcePath? (w : Workspace) (settings : Settings) (sources : Sources) :
    Except Disk.Fault (Option FilePath) :=
  match sources.file? with
  | some path => .ok (some path)
  | none => settings.macroFileToLoad w.configuration w.disk

/-- Loads the macro file of the sources, if there is one. -/
def loadSourceFile (w : Workspace) (settings : Settings) (sources : Sources) :
    Except Sources.Failure (List Scope) × Workspace :=
  match w.sourcePath? settings sources with
  | .error _ => (.error (.notLoaded (.pathTooLong (userFile w.configuration))), w)
  | .ok none => (.ok [], w)
  | .ok (some path) =>
    let (loaded, w) := w.loadFile path MacroFile.defaultMaxBytes
    ((loaded.map ([·])).mapError .ofFile, w)

/-- The scope that searches the sources in order. -/
def makeSources (w : Workspace) (settings : Settings) (sources : Sources) :
    Except Sources.Failure Scope × Workspace :=
  match parseDefinitions sources.definitions with
  | .error definition => (.error (.badDefinition definition), w)
  | .ok defined =>
    let (loaded, w) := w.loadSourceFile settings sources
    let outer : List Scope := if sources.useEnvironment then [.environment .process] else []
    (loaded.map fun inner => .chain (.mapping defined :: inner ++ outer), w)

end Workspace

end TextMacros
