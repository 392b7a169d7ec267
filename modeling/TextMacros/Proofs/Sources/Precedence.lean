import TextMacros.Proofs.MacroFile.Loading
import TextMacros.Sources

/-!
# TextMacros.Proofs.Sources.Precedence

Which of its sources the command line takes the value of a name from.

The definitions come first, the last one of a name before the others; then the macro file; then
the environment, if it is a source.  A source that has a name settles its value, be it empty
(`Sources.lookup_sources`).  What is wrong with a definition shows before the file is looked at.
Main statement: `precedence_of_sources`.
-/

namespace TextMacros

/-! ## definitions -/

/-- Whether a text is a definition: what stands before its first `=` is not all blank. -/
def IsDefinition (definition : Text) : Prop :=
  ∃ left value, definition = left ++ '=' :: value ∧ '=' ∉ left ∧
    ∃ c ∈ left, Text.isBlank c = false

/-- What definitions say of a name: the text behind the first `=` of the last one whose left part
is the name, when trimmed. -/
def definedValue? (definitions : List Text) (name : Text) : Option Text :=
  definitions.reverse.findSome? fun definition =>
    (Text.splitAt '=' definition).bind fun p => if p.1.trim = name then some p.2 else none

/-- A name and a value written as a definition. -/
def writeDefinition (p : Text × Text) : Text := p.1 ++ '=' :: p.2

variable {definition name value : Text}

theorem parseDefinition_eq_some_iff : parseDefinition definition = some (name, value) ↔
    ∃ left, definition = left ++ '=' :: value ∧ '=' ∉ left ∧ left.trim = name ∧ name ≠ [] := by
  constructor
  · intro h
    obtain ⟨⟨left, value'⟩, hsplit, h⟩ := Option.bind_eq_some_iff.1 h
    by_cases hempty : left.trim.isEmpty
    · simp [hempty] at h
    · simp only [hempty, Bool.false_eq_true, if_false, Option.some.injEq, Prod.mk.injEq] at h
      obtain ⟨rfl, rfl⟩ := h
      exact ⟨left, Text.eq_append_of_splitAt hsplit, Text.mem_left_of_splitAt hsplit, rfl,
        by simpa using hempty⟩
  · rintro ⟨left, rfl, hleft, rfl, hne⟩
    simp [parseDefinition, Text.splitAt_append hleft, hne]

theorem parseDefinition_append {left : Text} (hleft : '=' ∉ left)
    (hblank : ∃ c ∈ left, Text.isBlank c = false) (value : Text) :
    parseDefinition (left ++ '=' :: value) = some (left.trim, value) := by
  have hne : left.trim ≠ [] := by
    rw [Ne, Text.trim_eq_nil_iff]
    simpa using hblank
  exact parseDefinition_eq_some_iff.2 ⟨left, rfl, hleft, rfl, hne⟩

/-- The definitions are the texts that are read as one. -/
theorem isSome_parseDefinition_iff : (parseDefinition definition).isSome ↔
    IsDefinition definition := by
  rw [Option.isSome_iff_exists]
  constructor
  · rintro ⟨⟨name, value⟩, h⟩
    obtain ⟨left, rfl, hleft, rfl, hne⟩ := parseDefinition_eq_some_iff.1 h
    rw [Ne, Text.trim_eq_nil_iff] at hne
    exact ⟨left, value, rfl, hleft, by simpa using hne⟩
  · rintro ⟨left, value, rfl, hleft, hblank⟩
    exact ⟨_, parseDefinition_append hleft hblank value⟩

/-- A trimmed name that is not empty and holds no `=` is read back with its value. -/
theorem parseDefinition_writeDefinition {p : Text × Text} (htrim : p.1.trim = p.1)
    (hne : p.1 ≠ []) (hsep : '=' ∉ p.1) : parseDefinition (writeDefinition p) = some p :=
  parseDefinition_eq_some_iff.2 ⟨p.1, rfl, hsep, htrim, hne⟩

variable {definitions : List Text}

theorem parseDefinitions_of_forall (good : ∀ d ∈ definitions, IsDefinition d) :
    parseDefinitions definitions = .ok (.ofList (definitions.filterMap parseDefinition)) := by
  have hfind : definitions.find? (fun d => (parseDefinition d).isNone) = none := by
    rw [List.find?_eq_none]
    intro d hd
    have hsome := isSome_parseDefinition_iff.2 (good d hd)
    simpa using Option.ne_none_iff_isSome.2 hsome
  rw [parseDefinitions, hfind]

/-- The first text that is no definition is the one that is refused. -/
theorem parseDefinitions_of_bad {before after : List Text} {bad : Text}
    (good : ∀ d ∈ before, IsDefinition d) (hbad : ¬ IsDefinition bad) :
    parseDefinitions (before ++ bad :: after) = .error bad := by
  have hfind : (before ++ bad :: after).find? (fun d => (parseDefinition d).isNone) =
      some bad := by
    rw [List.find?_eq_some_iff_append]
    rw [← isSome_parseDefinition_iff] at hbad
    refine ⟨by simpa using hbad, before, after, rfl, fun d hd => ?_⟩
    simpa using isSome_parseDefinition_iff.2 (good d hd)
  rw [parseDefinitions, hfind]

/-- Texts of which not all are definitions have a first one that is none. -/
theorem exists_first_bad (h : ¬ ∀ d ∈ definitions, IsDefinition d) : ∃ before bad after,
    definitions = before ++ bad :: after ∧ (∀ d ∈ before, IsDefinition d) ∧
      ¬ IsDefinition bad := by
  cases hfind : definitions.find? fun d => (parseDefinition d).isNone with
  | none =>
    rw [List.find?_eq_none] at hfind
    refine absurd (fun d hd => ?_) h
    rw [← isSome_parseDefinition_iff, Option.isSome_iff_ne_none]
    simpa using hfind d hd
  | some bad =>
    obtain ⟨hbad, before, after, hsplit, hbefore⟩ := List.find?_eq_some_iff_append.1 hfind
    refine ⟨before, bad, after, hsplit, fun d hd => ?_, ?_⟩
    · rw [← isSome_parseDefinition_iff]
      simpa using hbefore d hd
    · rw [← isSome_parseDefinition_iff]
      simpa using hbad

/-- The dictionary of definitions holds what they say of each name. -/
theorem get?_ofList_definitions (good : ∀ d ∈ definitions, IsDefinition d) (name : Text) :
    (Dictionary.ofList (definitions.filterMap parseDefinition)).get? name =
      definedValue? definitions name := by
  have good' : ∀ d ∈ definitions.reverse, IsDefinition d := by simpa using good
  rw [Dictionary.get?_ofList, ← List.filterMap_reverse, lookup_filterMap, definedValue?]
  generalize definitions.reverse = ds at good'
  induction ds with
  | nil => rfl
  | cons d ds ih =>
    obtain ⟨left, value, rfl, hleft, hblank⟩ := good' d List.mem_cons_self
    have hparse := parseDefinition_append hleft hblank value
    have ih := ih fun d hd => good' d (List.mem_cons_of_mem _ hd)
    rw [List.findSome?_cons, List.findSome?_cons, hparse, Text.splitAt_append hleft, ih]
    simp

/-- Definitions that are written from pairs say of each name what the pairs say. -/
theorem filterMap_parseDefinition_map {pairs : List (Text × Text)}
    (trimmed : ∀ p ∈ pairs, p.1.trim = p.1 ∧ p.1 ≠ [] ∧ '=' ∉ p.1) :
    (pairs.map writeDefinition).filterMap parseDefinition = pairs := by
  induction pairs with
  | nil => rfl
  | cons p pairs ih =>
    obtain ⟨htrim, hne, hsep⟩ := trimmed p List.mem_cons_self
    have ih := ih fun q hq => trimmed q (List.mem_cons_of_mem p hq)
    simp [parseDefinition_writeDefinition htrim hne hsep, ih]

theorem isDefinition_writeDefinition {p : Text × Text} (htrim : p.1.trim = p.1)
    (hne : p.1 ≠ []) (hsep : '=' ∉ p.1) : IsDefinition (writeDefinition p) := by
  rw [← isSome_parseDefinition_iff, parseDefinition_writeDefinition htrim hne hsep]
  rfl

/-! ## the macro file -/

namespace Sources

/-- The macro file that the sources ask for: the one that is given, or else the one that is set,
or else the user's, if it is a file. -/
inductive Chooses (w : Workspace) (settings : Settings) (sources : Sources) :
    Option FilePath → Prop where
  /-- The file is given. -/
  | given {path : FilePath} (hgiven : sources.file? = some path) :
    Chooses w settings sources (some path)
  /-- The file is set. -/
  | set {path : FilePath} (hgiven : sources.file? = none) (hset : settings.macroFile? = some path) :
    Chooses w settings sources (some path)
  /-- The file is the user's. -/
  | user (hgiven : sources.file? = none) (hset : settings.macroFile? = none)
      (hfile : w.disk.isFile (userFile w.configuration) = .ok true) :
    Chooses w settings sources (some (userFile w.configuration))
  /-- There is none. -/
  | nothing (hgiven : sources.file? = none) (hset : settings.macroFile? = none)
      (hfile : w.disk.isFile (userFile w.configuration) = .ok false) :
    Chooses w settings sources none

/-- The macro file that the sources ask for is loaded, with its path and what it holds, or there
is none. -/
inductive Loads (w : Workspace) (settings : Settings) (sources : Sources) :
    Option (FilePath × MacroFile.Contents) → Prop where
  /-- The file is loaded. -/
  | file {path : FilePath} {found : FilePath × MacroFile.Contents}
      (hchoice : Chooses w settings sources (some path))
      (hload : MacroFile.load w.disk w.home MacroFile.defaultMaxBytes path = .ok found) :
    Loads w settings sources (some found)
  /-- There is none. -/
  | nothing (hchoice : Chooses w settings sources none) : Loads w settings sources none

variable {w : Workspace} {settings : Settings} {sources : Sources}
  {found? : Option (FilePath × MacroFile.Contents)}

theorem Chooses.sourcePath?_eq {path? : Option FilePath} (h : Chooses w settings sources path?) :
    w.sourcePath? settings sources = .ok path? := by
  rw [Workspace.sourcePath?]
  cases h with
  | given hgiven => rw [hgiven]
  | set hgiven hset => rw [hgiven, Settings.macroFileToLoad, hset]
  | user hgiven hset hfile =>
    rw [hgiven, Settings.macroFileToLoad, hset]
    simp [hfile, Except.map]
  | nothing hgiven hset hfile =>
    rw [hgiven, Settings.macroFileToLoad, hset]
    simp [hfile, Except.map]

/-- The scopes of a macro file: one, if there is a file. -/
def fileScopes (found? : Option (FilePath × MacroFile.Contents)) : List Scope :=
  found?.toList.map fun found => .file found.1.toText found.2.texts

theorem Loads.loadSourceFile_eq (h : Loads w settings sources found?) :
    (w.loadSourceFile settings sources).1 = .ok (fileScopes found?) := by
  cases h with
  | nothing hchoice =>
    rw [Workspace.loadSourceFile, hchoice.sourcePath?_eq]
    rfl
  | file hchoice hload =>
    rw [Workspace.loadSourceFile, hchoice.sourcePath?_eq]
    simp only [Workspace.loadFile, hload]
    rfl

/-- The scopes of the environment: one, if it is a source. -/
def environmentScopes (sources : Sources) : List Scope :=
  if sources.useEnvironment then [.environment .process] else []

theorem makeSources_of_parsed {defined : Dictionary Text}
    (hparsed : parseDefinitions sources.definitions = .ok defined)
    (hload : Loads w settings sources found?) :
    (w.makeSources settings sources).1 =
      .ok (.chain (.mapping defined :: fileScopes found? ++ sources.environmentScopes)) := by
  have hfile := hload.loadSourceFile_eq
  simp only [Workspace.makeSources, hparsed]
  rw [hfile]
  rfl

/-- A macro file that is not loaded leaves the sources without a scope. -/
theorem Chooses.makeSources_of_error {path : FilePath} {defined : Dictionary Text}
    {failure : MacroFile.Failure} (h : Chooses w settings sources (some path))
    (hparsed : parseDefinitions sources.definitions = .ok defined)
    (hload : MacroFile.load w.disk w.home MacroFile.defaultMaxBytes path = .error failure) :
    (w.makeSources settings sources).1 = .error (.ofFile failure) := by
  have hfile : (w.loadSourceFile settings sources).1 = .error (.ofFile failure) := by
    rw [Workspace.loadSourceFile, h.sourcePath?_eq]
    simp only [Workspace.loadFile, hload]
    rfl
  simp only [Workspace.makeSources, hparsed]
  rw [hfile]
  rfl

/-- A chain of the three sources searches them in order. -/
theorem lookup_sources (environments : Environments) (defined : Dictionary Text) (name : Text) :
    Scope.lookup environments
        (.chain (.mapping defined :: fileScopes found? ++ sources.environmentScopes)) name =
      (defined.get? name).or
        ((found?.bind fun found => (found.2.get? name.codes).map CodeText.shown).or
          (if sources.useEnvironment then (environments .process).get? name else none)) := by
  have henvironment : sources.environmentScopes.findSome?
      (fun member => Scope.lookup environments member name) =
        if sources.useEnvironment then (environments .process).get? name else none := by
    rw [environmentScopes]
    cases sources.useEnvironment <;> simp [Scope.lookup]
  have hfile : (fileScopes found?).findSome? (fun member => Scope.lookup environments member name) =
      found?.bind fun found => (found.2.get? name.codes).map CodeText.shown := by
    cases found? with
    | none => rfl
    | some found => simp [fileScopes, Scope.lookup, MacroFile.Contents.get?_texts]
  rw [Scope.lookup_chain, List.cons_append, List.findSome?_cons, List.findSome?_append, hfile,
    henvironment, Scope.lookup]
  cases defined.get? name <;> rfl

end Sources

/-- **Precedence of the sources**: a value is taken from the last definition of the name, or else
from the macro file, or else from the environment if that is a source; an empty value counts as
one.  What is taken from the file is its value itself, where that is a text.  Definitions that were
written from pairs give back the dictionary of the pairs.  If not all are definitions, the first
that is none is refused with its text, before anything is done with the files, and whatever they
hold. -/
theorem precedence_of_sources (w : Workspace) (settings : Settings) (sources : Sources) :
    ((∀ d ∈ sources.definitions, IsDefinition d) → ∀ found?, sources.Loads w settings found? →
      ∃ scope, (w.makeSources settings sources).1 = .ok scope ∧
        (∀ environments name,
          scope.lookup environments name = (definedValue? sources.definitions name).or
            ((found?.bind fun found => (found.2.get? name.codes).map CodeText.shown).or
              (if sources.useEnvironment then (environments .process).get? name else none))) ∧
        ∀ environments name (value : Text), definedValue? sources.definitions name = none →
          (found?.bind fun found => found.2.get? name.codes) = some value.codes →
            scope.lookup environments name = some value) ∧
    (¬ (∀ d ∈ sources.definitions, IsDefinition d) → ∃ before bad after,
      sources.definitions = before ++ bad :: after ∧ (∀ d ∈ before, IsDefinition d) ∧
      ¬ IsDefinition bad ∧ w.makeSources settings sources = (.error (.badDefinition bad), w) ∧
      (Sources.Failure.badDefinition bad).message =
        .ofString "Invalid macro definition '" ++ bad ++ .ofString "', expected NAME=VALUE") ∧
    (∀ pairs : List (Text × Text), (∀ p ∈ pairs, p.1.trim = p.1 ∧ p.1 ≠ [] ∧ '=' ∉ p.1) →
      sources.definitions = pairs.map (fun p => p.1 ++ '=' :: p.2) →
      ∀ found?, sources.Loads w settings found? →
        ∃ outer, (w.makeSources settings sources).1 =
          .ok (.chain (.mapping (.ofList pairs) :: outer))) := by
  refine ⟨fun good found? hload => ?_, fun hbad => ?_,
    fun pairs trimmed hwritten found? hload => ?_⟩
  · refine ⟨_, Sources.makeSources_of_parsed (parseDefinitions_of_forall good) hload,
      fun environments name => ?_, fun environments name value hundefined hvalue => ?_⟩
    · rw [Sources.lookup_sources, get?_ofList_definitions good]
    · obtain ⟨found, rfl, hfound⟩ := Option.bind_eq_some_iff.1 hvalue
      rw [Sources.lookup_sources, get?_ofList_definitions good, hundefined, Option.none_or,
        Option.bind_some, hfound, Option.map_some, CodeText.shown_codes, Option.some_or]
  · obtain ⟨before, bad, after, hsplit, good, hbad⟩ := exists_first_bad hbad
    refine ⟨before, bad, after, hsplit, good, hbad, ?_, rfl⟩
    rw [Workspace.makeSources, hsplit, parseDefinitions_of_bad good hbad]
  · have hpairs : sources.definitions.filterMap parseDefinition = pairs := by
      rw [hwritten]
      exact filterMap_parseDefinition_map trimmed
    have good : ∀ d ∈ sources.definitions, IsDefinition d := by
      rw [hwritten]
      intro d hd
      obtain ⟨p, hp, rfl⟩ := List.mem_map.1 hd
      obtain ⟨htrim, hne, hsep⟩ := trimmed p hp
      exact isDefinition_writeDefinition htrim hne hsep
    have hparsed := parseDefinitions_of_forall good
    rw [hpairs] at hparsed
    exact ⟨_, Sources.makeSources_of_parsed hparsed hload⟩

/-- Two definitions of a name, the later one with blanks around its name; and a file with an empty
value for a name that the environment has too. -/
theorem precedence_of_sources_of_shadowed :
    let t := Text.ofString "\x7b\"A\": \"file\", \"B\": \"\"\x7d"
    let process := Dictionary.ofList [(Text.ofString "B", .ofString "environment"),
      (.ofString "C", .ofString "environment")]
    let w := Workspace.holding process t.utf8Encode
    let sources : Sources := ⟨[.ofString "A=one", .ofString " A = two=2"], some rootFile, true⟩
    (∀ d ∈ sources.definitions, IsDefinition d) ∧
      ∃ found, sources.Loads w .default (some found) ∧
        ∃ scope, (w.makeSources .default sources).1 = .ok scope ∧
          scope.lookup w.environments (.ofString "A") = some (.ofString " two=2") ∧
          scope.lookup w.environments (.ofString "B") = some [] ∧
          scope.lookup w.environments (.ofString "C") = some (.ofString "environment") ∧
          scope.lookup w.environments (.ofString "D") = none := by
  intro t process w sources
  let pairs := [((Text.ofString "A").codes, (Text.ofString "file").codes),
    ((Text.ofString "B").codes, [])]
  have good : ∀ d ∈ sources.definitions, IsDefinition d := by
    simp only [sources, List.mem_cons, List.not_mem_nil, or_false, forall_eq_or_imp, forall_eq,
      ← isSome_parseDefinition_iff]
    decide
  have small := MacroFile.size_utf8Encode_le_defaultMaxBytes (t := t) (Nat.le_of_ble_eq_true rfl)
  have hread : Json.read t = .ok (.object (MacroFile.stringMembers pairs)) := by
    dsimp only [t, pairs]
    cbv
  have hparse : MacroFile.parse rootFile t.utf8Encode = .ok (.ofList pairs) :=
    MacroFile.parse_eq_ok_iff.2
      ⟨t, _, rfl, Json.read_eq_ok_iff.1 hread, MacroFile.values_stringMembers _⟩
  have hload : MacroFile.load w.disk w.home MacroFile.defaultMaxBytes rootFile =
      .ok (rootFile, .ofList pairs) :=
    (MacroFile.load_eq_ok_iff (resolvePath_rootFile _ _) (find_rootFile _ _) small).2 ⟨rfl, hparse⟩
  have loads : sources.Loads w .default (some (rootFile, .ofList pairs)) :=
    .file (.given rfl) hload
  obtain ⟨scope, hmade, hlookup, hfile⟩ :=
    (precedence_of_sources w .default sources).1 good _ loads
  refine ⟨good, _, loads, scope, hmade, ?_, hfile _ _ _ rfl rfl, ?_, ?_⟩ <;> rw [hlookup] <;> rfl

end TextMacros
