import TextMacros.Text.Blank
import TextMacros.Text.Letter
import TextMacros.Text.LowerCase
import TextMacros.Text.Quoted

/-!
# TextMacros.CommandLine.Declaration

How options are declared.

An option is declared by texts.  One that is an identifier is the name under which the program
knows the option.  Every other is a name by which the option is given; where a slash divides it,
or a semicolon if it starts with a slash, the part behind is the name by which the option is
switched off.  Without an identifier the program knows the option by the first of its longest
kind of names, without the dashes in front.  Main statement: `read_identifier`, by which an
option's own name is the identifier that is declared.
-/

namespace TextMacros.CommandLine

/-- A declared option. -/
structure Declaration where
  /-- The name under which the program knows it. -/
  name : Text
  /-- The names by which it is given. -/
  names : List Text
  /-- The names by which it is switched off. -/
  offNames : List Text
  deriving DecidableEq, Repr

namespace Declaration

/-! ## faults -/

/-- What is wrong with a declaration. -/
inductive Fault where
  /-- There is an identifier behind another, which is given here. -/
  | nameTwice (name : Text)
  /-- An option would be switched on and off by the same name. -/
  | sameName (written : Text)
  /-- No name for the program follows from what is declared. -/
  | noName (written : List Text)
  /-- There is no name by which the option could be given. -/
  | nothingToGive (name : Text)
  deriving DecidableEq, Repr

/-- Texts as they are shown in a list. -/
def shownList (texts : List Text) : Text :=
  '[' :: Text.joined (.ofString ", ") (texts.map Text.quoted) ++ [']']

/-- The text of a fault. -/
def Fault.message : Fault → Text
  | nameTwice name => .ofString "Name '" ++ name ++ .ofString "' defined twice"
  | sameName written =>
    .ofString "Boolean option " ++ written.quoted ++
      .ofString " cannot use the same flag for true/false."
  | noName written =>
    .ofString "Could not determine name for option with declarations " ++ shownList written
  | nothingToGive name =>
    .ofString "No options defined but a name was passed (" ++ name ++
      .ofString "). Did you mean to declare an argument instead? Did you mean to pass '--" ++
      name ++ .ofString "'?"

/-! ## parts -/

/-- What stands in front of a name by which an option is given, and the name behind it: one
character or two equal ones, or nothing before a letter or numeral. -/
def cutFront : Text → Text × Text
  | [] => ([], [])
  | c :: cs =>
    if Text.isAlphanumeric c then ([], c :: cs)
    else match cs with
      | d :: ds => if d = c then ([c, d], ds) else ([c], d :: ds)
      | [] => ([c], [])

theorem cutFront_append (t : Text) : (cutFront t).1 ++ (cutFront t).2 = t := by
  unfold cutFront
  split
  · rfl
  · split
    · rfl
    · split
      · split <;> simp
      · rfl

/-- The names of a text that is no identifier: one to switch on and one to switch off. -/
def cutNames (written : Text) : Except Fault (Option Text × Option Text) :=
  let nonempty (t : Text) : Option Text := if t.isEmpty then none else some t
  match Text.splitAt (if written.head? = some '/' then ';' else '/') written with
  | none => .ok (some written, none)
  | some (on, off) =>
    let on := on.trimRight
    let off := off.trimLeft
    if on = off then .error (.sameName written) else .ok (nonempty on, nonempty off)

/-- The name that follows from those by which an option is given: the first with the longest
front. -/
def nameFrom? (names : List Text) : Option Text :=
  let fronts := names.map cutFront
  let longest := (fronts.map (·.1.length)).foldl max 0
  (fronts.find? (·.1.length = longest)).bind fun (_, name) =>
    let known := Text.lowerCase (name.map fun c => if c = '-' then '_' else c)
    if Text.isIdentifier known then some known else none

/-! ## reading -/

/-- What is known of an option whose declaration is read in part. -/
structure Partial where
  /-- The identifier that is declared. -/
  name? : Option Text
  /-- The names by which it is given. -/
  names : List Text
  /-- The names by which it is switched off. -/
  offNames : List Text

/-- Adds a text of a declaration. -/
def Partial.add (p : Partial) (written : Text) : Except Fault Partial :=
  if written.isIdentifier then
    match p.name? with
    | some name => .error (.nameTwice name)
    | none => .ok { p with name? := some written }
  else
    (cutNames written).map fun (on?, off?) =>
      { p with names := p.names ++ on?.toList, offNames := p.offNames ++ off?.toList }

/-- Reads a declaration. -/
def read (written : List Text) : Except Fault Declaration :=
  match written.foldlM Partial.add ⟨none, [], []⟩ with
  | .error fault => .error fault
  | .ok p =>
    match p.name?.or (nameFrom? p.names) with
    | none => .error (.noName written)
    | some name =>
      if p.names.isEmpty && p.offNames.isEmpty then .error (.nothingToGive name)
      else .ok ⟨name, p.names, p.offNames⟩

theorem Partial.name?_of_add {p q : Partial} {written name : Text} (h : p.add written = .ok q)
    (hname : p.name? = some name) : q.name? = some name := by
  unfold Partial.add at h
  split at h
  · simp [hname] at h
  · cases hcut : cutNames written with
    | error fault => simp [hcut, Except.map] at h
    | ok names =>
      simp only [hcut, Except.map, Except.ok.injEq] at h
      rw [← h]
      exact hname

theorem Partial.name?_of_foldlM {p q : Partial} {written : List Text} {name : Text}
    (h : written.foldlM Partial.add p = .ok q) (hname : p.name? = some name) :
    q.name? = some name := by
  induction written generalizing p with
  | nil =>
    simp only [List.foldlM_nil, pure, Except.pure, Except.ok.injEq] at h
    rwa [← h]
  | cons t ts ih =>
    rw [List.foldlM_cons] at h
    cases hadd : p.add t with
    | error fault => simp [hadd, bind, Except.bind] at h
    | ok r => exact ih (by simpa [hadd, bind, Except.bind] using h) (name?_of_add hadd hname)

theorem read_identifier {identifier : Text} {written : List Text} {d : Declaration}
    (hid : identifier.isIdentifier = true) (h : read (identifier :: written) = .ok d) :
    d.name = identifier := by
  have hadd : Partial.add ⟨none, [], []⟩ identifier = .ok ⟨some identifier, [], []⟩ := by
    simp [Partial.add, hid]
  unfold read at h
  rw [List.foldlM_cons, hadd] at h
  simp only [bind, Except.bind] at h
  split at h
  · simp at h
  · rename_i p hp
    rw [Partial.name?_of_foldlM hp rfl] at h
    simp only [Option.some_or] at h
    split at h
    · simp at h
    · cases h
      rfl

end Declaration

end TextMacros.CommandLine
