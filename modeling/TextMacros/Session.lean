import TextMacros.NamePattern
import TextMacros.Workspace

/-!
# TextMacros.Session

Sessions: named dictionaries and named scopes in one workspace, changed and asked step by step.

A dictionary and a scope may bear the same name.  A scope made from a dictionary either copies it
or, as an environment, keeps seeing its changes.  A chain holds its members themselves: giving a
member's name to another scope does not change it.  A step that fails leaves the names as they
were.  Main statement: `setVariable_eq_ok_iff`, by which a variable can be set unless its name is
empty or holds a `=`, or one of its texts holds a NUL.
-/

namespace TextMacros

/-- Why a variable of the environment cannot be set. -/
inductive VariableFault where
  /-- The name or the value holds a NUL. -/
  | nulCharacter
  /-- The name holds a `=`. -/
  | equalsSign
  /-- The name is empty. -/
  | noName
  deriving DecidableEq, Repr

/-- The text of a fault. -/
def VariableFault.message : VariableFault → Text
  | nulCharacter => nulCharacterMessage
  | equalsSign => .ofString "illegal environment variable name"
  | noName => .ofString "[Errno 22] Invalid argument"

/-- A workspace with names for some of its environments, and for scopes. -/
structure Session where
  /-- The workspace. -/
  workspace : Workspace
  /-- The numbers of the shared environments that have names. -/
  dictionaries : Dictionary Nat
  /-- The scopes that have names. -/
  scopes : Dictionary Scope

namespace Session

/-- A session without names. -/
def new (workspace : Workspace) : Session := ⟨workspace, .empty, .empty⟩

/-- The dictionary of a name. -/
def dictionary (s : Session) (name : Text) : Dictionary Text :=
  match s.dictionaries.get? name with
  | some number => s.workspace.environments (.shared number)
  | none => .empty

/-- The scope of a name. -/
def scope (s : Session) (name : Text) : Scope := (s.scopes.get? name).getD (.chain [])

/-- The session with a new dictionary under a name. -/
def newDictionary (s : Session) (name : Text) (values : Dictionary Text) : Session :=
  let (_, workspace) := s.workspace.share values
  { s with
    workspace := workspace
    dictionaries := s.dictionaries.insert name s.workspace.shared.length }

/-- The session with the dictionary of a name changed. -/
def modifyDictionary (s : Session) (name : Text)
    (change : Dictionary Text → Dictionary Text) : Session :=
  match s.dictionaries.get? name with
  | some number => { s with workspace := s.workspace.modifyShared number change }
  | none => s

/-- The session with the environment of the process changed. -/
def modifyProcess (s : Session) (change : Dictionary Text → Dictionary Text) : Session :=
  { s with workspace := { s.workspace with process := change s.workspace.process } }

/-- The session with a variable of the process set. -/
def setVariable (s : Session) (name value : Text) : Except VariableFault Session :=
  if name.contains '\x00' || value.contains '\x00' then .error .nulCharacter
  else if name.contains '=' then .error .equalsSign
  else if name.isEmpty then .error .noName
  else .ok (s.modifyProcess (·.insert name value))

theorem setVariable_eq_ok_iff {s t : Session} {name value : Text} :
    s.setVariable name value = .ok t ↔
      ('\x00' ∉ name ∧ '\x00' ∉ value ∧ '=' ∉ name ∧ name ≠ []) ∧
        s.modifyProcess (·.insert name value) = t := by
  unfold setVariable
  by_cases hn : '\x00' ∈ name <;> by_cases hv : '\x00' ∈ value <;> by_cases he : '=' ∈ name <;>
    by_cases h : name = [] <;> simp [hn, hv, he, h]

/-- The session with the files changed. -/
def modifyDisk (s : Session) (change : Disk → Disk) : Session :=
  { s with workspace := { s.workspace with disk := change s.workspace.disk } }

/-- The session with a scope under a name. -/
def nameScope (s : Session) (name : Text) (scope : Scope) : Session :=
  { s with scopes := s.scopes.insert name scope }

/-- The session with a copy of a dictionary, or no value at all, as a scope under a name. -/
def nameMapping (s : Session) (name : Text) (dictionary? : Option Text) : Session :=
  s.nameScope name (.mapping ((dictionary?.map s.dictionary).getD .empty))

/-- The environment that a dictionary is; without one, that of the process. -/
def environmentOf (s : Session) (dictionary? : Option Text) : Environment :=
  match dictionary?.bind s.dictionaries.get? with
  | some number => .shared number
  | none => .process

/-- The session with an environment as a scope under a name. -/
def nameEnvironment (s : Session) (name : Text) (dictionary? : Option Text) : Session :=
  s.nameScope name (.environment (s.environmentOf dictionary?))

/-- The session with the scope of a recipe under a name; refused, the names stay as they were. -/
def nameMade (s : Session) (name : Text) (recipe : Recipe) :
    Except Recipe.Failure Unit × Session :=
  let (made, workspace) := s.workspace.make recipe
  let s := { s with workspace := workspace }
  match made with
  | .ok scope => (.ok (), s.nameScope name scope)
  | .error failure => (.error failure, s)

/-- The session with a chain of named scopes under a name. -/
def nameChain (s : Session) (name : Text) (members : List Text) : Session :=
  s.nameScope name (.chain (members.map s.scope))

/-- The value of a name in a named scope. -/
def lookup (s : Session) (name : Text) (asked : Text) : Option Text :=
  (s.scope name).lookup s.workspace.environments asked

/-- Expands a text against a named scope. -/
def expand (s : Session) (name text : Text) (bound : Int) : Run × Session :=
  let (run, workspace) := s.workspace.expand defaultName.isMatch (s.scope name) text bound
  (run, { s with workspace := workspace })

/-- Resolves a text with a resolver for a named scope. -/
def resolve (s : Session) (name : Text) (text? : Option Text) (bound : Int) :
    Except Resolver.Refusal Resolution × Session :=
  match Resolver.of? (.scope (s.scope name)) bound with
  | .error refusal => (.error refusal, s)
  | .ok resolver =>
    let (resolution, workspace) := s.workspace.resolve defaultName.isMatch resolver text?
    (.ok resolution, { s with workspace := workspace })

end Session

end TextMacros
