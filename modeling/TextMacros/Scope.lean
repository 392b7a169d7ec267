import TextMacros.Dictionary
import TextMacros.Expansion
import TextMacros.Text.Blank
import TextMacros.Text.Quoted

/-!
# TextMacros.Scope

Where the values of names come from.

A scope is a dictionary, an environment, the contents of a macro file, or a chain of scopes that
are asked in order, inner ones first.  An environment may change after the scope was made; so a
scope holds a reference to it only, and a look-up says what the environments hold at its time.
Main statements:

* `Scope.lookup_chain`: a chain gives the first value that one of its members gives.
-/

namespace TextMacros

/-! ## environments -/

/-- A reference to an environment. -/
inductive Environment where
  /-- The environment of the process. -/
  | process
  /-- A dictionary that others hold too, by its number. -/
  | shared (number : Nat)
  deriving DecidableEq, Repr

/-- What the environments hold at a time. -/
abbrev Environments := Environment → Dictionary Text

/-! ## scopes -/

/-- A source of values for names. -/
inductive Scope where
  /-- The values of a dictionary. -/
  | mapping (values : Dictionary Text)
  /-- The values of an environment, as it is when asked. -/
  | environment (source : Environment)
  /-- The values read from the macro file at a path. -/
  | file (path : Text) (values : Dictionary Text)
  /-- Several scopes, asked in order. -/
  | chain (members : List Scope)

namespace Scope

mutual

/-- The value of a name in a scope. -/
def lookup (environments : Environments) : Scope → Text → Option Text
  | mapping values, name => values.get? name
  | environment source, name => (environments source).get? name
  | file _ values, name => values.get? name
  | chain members, name => lookupFirst environments members name

/-- The value of a name in the first of several scopes that has one. -/
def lookupFirst (environments : Environments) : List Scope → Text → Option Text
  | [], _ => none
  | member :: members, name =>
    (lookup environments member name).or (lookupFirst environments members name)

end

theorem lookup_chain (environments : Environments) (members : List Scope) (name : Text) :
    lookup environments (chain members) name =
      members.findSome? fun member => lookup environments member name := by
  rw [lookup]
  induction members with
  | nil => simp [lookupFirst]
  | cons m ms ih => cases h : lookup environments m name <;> simp [lookupFirst, h, ih]

/-! ## descriptions -/

/-- A dictionary of texts, written out with quotes. -/
def describeValues (values : Dictionary Text) : Text :=
  '{' :: Text.joined (.ofString ", ")
    (values.entries.map fun p => p.1.quoted ++ .ofString ": " ++ p.2.quoted) ++ ['}']

mutual

/-- A scope, written out: the dictionaries in full, files by their path. -/
def describe : Scope → Text
  | mapping values => .ofString "MappingProvider(" ++ describeValues values ++ [')']
  | environment _ => .ofString "EnvironmentProvider()"
  | file path _ => .ofString "FileProvider('" ++ path ++ .ofString "')"
  | chain members =>
    .ofString "ChainedProvider(" ++ Text.joined (.ofString ", ") (describeAll members) ++ [')']

/-- The descriptions of several scopes. -/
def describeAll : List Scope → List Text
  | [] => []
  | member :: members => describe member :: describeAll members

end

/-- The members of a chain; any other scope is its own only member. -/
def members : Scope → List Scope
  | chain members => members
  | scope => [scope]

/-- The dictionary that a scope holds for itself. -/
def values? : Scope → Option (Dictionary Text)
  | mapping values | file _ values => some values
  | environment _ | chain _ => none

/-- The rules of an expansion with the values of a scope. -/
def rules (environments : Environments) (isName : Text → Bool) (scope : Scope) : Rules :=
  ⟨scope.lookup environments, isName⟩

end Scope

/-! ## definitions -/

/-- A definition is written `NAME=VALUE`; the name is trimmed and must not be empty, the value is
taken as it stands. -/
def parseDefinition (definition : Text) : Option (Text × Text) :=
  (Text.splitAt '=' definition).bind fun p =>
    if p.1.trim.isEmpty then none else some (p.1.trim, p.2)

/-- What is said of a definition that is none. -/
def badDefinitionMessage (definition : Text) : Text :=
  .ofString "Invalid macro definition '" ++ definition ++ .ofString "', expected NAME=VALUE"

/-- The dictionary that a list of definitions gives, or the first of them that is none. -/
def parseDefinitions (definitions : List Text) : Except Text (Dictionary Text) :=
  match definitions.find? fun d => (parseDefinition d).isNone with
  | some bad => .error bad
  | none => .ok (.ofList (definitions.filterMap parseDefinition))

end TextMacros
