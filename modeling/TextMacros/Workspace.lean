import TextMacros.Journal
import TextMacros.MacroFile
import TextMacros.Resolver

/-!
# TextMacros.Workspace

What scopes are made in: the environments, the files, and the journal of what was done.  Where the
user's configuration lies is not worked out here; the workspace is given the directory.

A recipe says how a scope is to be made.  Making one may read files, may add an environment, and
may be refused; what was reported until then stays in the journal.
-/

namespace TextMacros

/-- What is said of a text that holds the character that ends texts outside the program. -/
def nulCharacterMessage : Text := .ofString "embedded null byte"

/-- The environments, the files and the journal. -/
structure Workspace where
  /-- The environment of the process. -/
  process : Dictionary Text
  /-- The user's configuration directory, which stays where it was when the program started. -/
  configuration : FilePath
  /-- The environments that others hold too, by number. -/
  shared : List (Dictionary Text)
  /-- The files. -/
  disk : Disk
  /-- What was reported. -/
  journal : Journal

/-- How a scope is to be made. -/
inductive Recipe where
  /-- From pairs of a name and a value. -/
  | mapping (pairs : List (Text × Text))
  /-- From definitions. -/
  | definitions (written : List Text)
  /-- From an environment of its own with these pairs, or from that of the process. -/
  | environment (pairs? : Option (List (Text × Text)))
  /-- From a macro file of at most so many bytes. -/
  | file (path : FilePath) (maxBytes : Int)
  /-- From the scopes of other recipes, in order. -/
  | chain (members : List Recipe)

/-- Why a scope was not made. -/
inductive Recipe.Failure where
  /-- A text is no definition. -/
  | badDefinition (definition : Text)
  /-- A macro file was not loaded. -/
  | macroFile (failure : MacroFile.Failure)
  deriving DecidableEq, Repr

namespace Workspace

/-- A workspace with a process environment, a configuration directory and files. -/
def new (process : Dictionary Text) (configuration : FilePath) (disk : Disk) (quiet : Bool) :
    Workspace :=
  ⟨process, configuration, [], disk, .new quiet⟩

/-- What the environments hold. -/
def environments (w : Workspace) : Environments
  | .process => w.process
  | .shared number => (w.shared[number]?).getD .empty

/-- The home directory. -/
def home (w : Workspace) : Text := (w.process.get? (.ofString "HOME")).getD []

/-- The workspace with messages reported. -/
def report (w : Workspace) (messages : List Text) : Workspace :=
  { w with journal := w.journal.sayAll messages }

/-- The workspace with another environment, and the reference to it. -/
def share (w : Workspace) (values : Dictionary Text) : Environment × Workspace :=
  (.shared w.shared.length, { w with shared := w.shared ++ [values] })

/-- The workspace with a shared environment changed. -/
def modifyShared (w : Workspace) (number : Nat) (change : Dictionary Text → Dictionary Text) :
    Workspace :=
  { w with shared := w.shared.modify number change }

/-- Loads a macro file, and reports it. -/
def loadFile (w : Workspace) (path : FilePath) (maxBytes : Int) :
    Except MacroFile.Failure Scope × Workspace :=
  let loaded := MacroFile.load w.disk w.home maxBytes path
  (loaded.map fun (path, contents) => .file path.toText contents.texts,
    w.report (MacroFile.reports loaded))

mutual

/-- Makes the scope of a recipe. -/
def make (w : Workspace) : Recipe → Except Recipe.Failure Scope × Workspace
  | .mapping pairs => (.ok (.mapping (.ofList pairs)), w)
  | .definitions written =>
    ((parseDefinitions written).map .mapping |>.mapError .badDefinition, w)
  | .environment none => (.ok (.environment .process), w)
  | .environment (some pairs) =>
    let (source, w) := w.share (.ofList pairs)
    (.ok (.environment source), w)
  | .file path maxBytes =>
    let (loaded, w) := w.loadFile path maxBytes
    (loaded.mapError .macroFile, w)
  | .chain members =>
    let (made, w) := w.makeAll members
    (made.map .chain, w)

/-- Makes the scopes of recipes in order, up to the first that is refused. -/
def makeAll (w : Workspace) : List Recipe → Except Recipe.Failure (List Scope) × Workspace
  | [] => (.ok [], w)
  | recipe :: recipes =>
    match w.make recipe with
    | (.error failure, w) => (.error failure, w)
    | (.ok scope, w) =>
      let (made, w) := w.makeAll recipes
      (made.map (scope :: ·), w)

end

/-- The rules that a scope gives in a workspace. -/
def rules (w : Workspace) (isName : Text → Bool) (scope : Scope) : Rules :=
  scope.rules w.environments isName

/-- Expands a text against a scope, and reports it. -/
def expand (w : Workspace) (isName : Text → Bool) (scope : Scope) (text : Text) (bound : Int) :
    Run × Workspace :=
  let run := TextMacros.expand (w.rules isName scope) text bound
  (run, w.report (run.messages bound))

/-- Resolves a text with a resolver, and reports it. -/
def resolve (w : Workspace) (isName : Text → Bool) (r : Resolver) (text? : Option Text) :
    Resolution × Workspace :=
  let rules := w.rules isName r.scope
  (r.resolve rules text?, w.report (r.reports rules text?))

end Workspace

/-- What is said when a scope was not made. -/
def Recipe.Failure.message : Recipe.Failure → Text
  | badDefinition definition => badDefinitionMessage definition
  | macroFile failure => failure.message

end TextMacros
