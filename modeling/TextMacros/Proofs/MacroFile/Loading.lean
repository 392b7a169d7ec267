import Mathlib
import TextMacros.Proofs.Json.LineEnds
import TextMacros.Proofs.Json.Reading
import TextMacros.Workspace

/-!
# TextMacros.Proofs.MacroFile.Loading

Which files are macro files, and what they hold.

The bytes of a macro file are the UTF-8 form of a JSON text (`decode?_eq_some_iff`), the text
writes an object (`parse_eq_ok_iff`), and the last member of each name holds a string
(`values_eq_ok_iff`).  An earlier member of the name may hold anything.  Line ends are unified when
a file is read, which changes the text but not what it writes.  Main statement:
`load_eq_ok_iff_written`.
-/

namespace TextMacros

open MacroFile

namespace MacroFile

/-! ## bytes -/

theorem decode?_utf8Encode (t : Text) : decode? t.utf8Encode = some (unifyLineEnds t) := by
  have hvalid : t.utf8Encode.IsValidUTF8 := ByteArray.isValidUTF8_utf8Encode
  have hstring : String.fromUTF8? t.utf8Encode = some (String.ofList t) := by
    rw [String.fromUTF8?, dif_pos hvalid]
    rfl
  rw [decode?, hstring, Option.map_some, String.toList_ofList]

/-- The bytes that hold a text are its UTF-8 form, but for the line ends. -/
theorem decode?_eq_some_iff {bytes : ByteArray} {u : Text} :
    decode? bytes = some u ↔ ∃ t : Text, bytes = t.utf8Encode ∧ u = unifyLineEnds t := by
  constructor
  · intro h
    obtain ⟨s, hs, rfl⟩ := Option.map_eq_some_iff.1 h
    rw [String.fromUTF8?] at hs
    split at hs
    · rename_i hvalid
      have hbytes : s.toByteArray = bytes := by rw [← Option.some.inj hs]; rfl
      exact ⟨s.toList, by rw [String.utf8Encode_toList, hbytes], rfl⟩
    · simp at hs
  · rintro ⟨t, rfl, rfl⟩
    exact decode?_utf8Encode t

/-- No character takes more than four bytes. -/
theorem size_utf8Encode_le (t : Text) : t.utf8Encode.size ≤ 4 * t.length := by
  rw [List.utf8Encode, List.size_toByteArray]
  induction t with
  | nil => simp
  | cons c t ih =>
    have hc := c.utf8Size_le_four
    simp only [List.flatMap_cons, List.length_append, String.length_utf8EncodeChar,
      List.length_cons]
    omega

/-- Texts that are not very long are not too large for a file. -/
theorem size_utf8Encode_le_defaultMaxBytes {t : Text} (h : t.length ≤ 262144) :
    t.utf8Encode.size ≤ defaultMaxBytes := by
  have hsize := size_utf8Encode_le t
  rw [defaultMaxBytes]
  omega

/-! ## objects of strings -/

/-- Whether the last member of each name holds a string. -/
def LastStrings (members : List (CodeText × Json CodeText)) : Prop :=
  ∀ name ∈ members.map Prod.fst, ∃ s, members.reverse.lookup name = some (.text s)

theorem Json.text?_eq_some_iff {v : Json CodeText} {s : CodeText} :
    v.text? = some s ↔ v = .text s := by
  cases v <;> simp [Json.text?]

variable {members : List (CodeText × Json CodeText)}

/-- The values of a dictionary built from members are strings if the last ones are. -/
theorem forall_entries_iff_lastStrings :
    (∀ p ∈ (Dictionary.ofList members).entries, p.2.text?.isSome) ↔ LastStrings members := by
  constructor
  · intro h name hname
    have hmem : name ∈ (Dictionary.ofList members).names := by
      rwa [Dictionary.names_ofList, List.mem_eraseDups]
    obtain ⟨v, hv⟩ := Dictionary.mem_names_iff.1 hmem
    obtain ⟨s, hs⟩ := Option.isSome_iff_exists.1 (h _ (Dictionary.get?_eq_some_iff.1 hv))
    obtain rfl : v = .text s := Json.text?_eq_some_iff.1 hs
    rw [Dictionary.get?_ofList] at hv
    exact ⟨s, hv⟩
  · rintro h ⟨name, v⟩ hp
    have hv := Dictionary.get?_eq_some_iff.2 hp
    have hmem : name ∈ (Dictionary.ofList members).names := Dictionary.mem_names_iff.2 ⟨v, hv⟩
    rw [Dictionary.names_ofList, List.mem_eraseDups] at hmem
    obtain ⟨s, hs⟩ := h name hmem
    rw [Dictionary.get?_ofList, hs] at hv
    obtain rfl := Option.some.inj hv
    rfl

/-- An object gives its names their last values, in the order in which the names first come, and
that is all that it gives. -/
theorem values_eq_ok_iff {found : Contents} : values members = .ok found ↔
    LastStrings members ∧ found.names = (members.map Prod.fst).eraseDups ∧
      ∀ name, found.get? name = (members.reverse.lookup name).bind Json.text? := by
  have hvalues : LastStrings members →
      values members = .ok ((Dictionary.ofList members).filterMap Json.text?) := by
    intro h
    have hfind : (Dictionary.ofList members).entries.find? (·.2.text?.isNone) = none := by
      rw [List.find?_eq_none]
      intro p hp
      simpa using Option.isSome_iff_ne_none.1 (forall_entries_iff_lastStrings.2 h p hp)
    rw [values]
    simp only [hfind]
  have hnames : LastStrings members →
      ((Dictionary.ofList members).filterMap Json.text?).names =
        (members.map Prod.fst).eraseDups := by
    intro h
    rw [Dictionary.names_filterMap (forall_entries_iff_lastStrings.2 h), Dictionary.names_ofList]
  have hget : ∀ name, ((Dictionary.ofList members).filterMap Json.text?).get? name =
      (members.reverse.lookup name).bind Json.text? := by
    intro name
    rw [Dictionary.get?_filterMap, Dictionary.get?_ofList]
  constructor
  · intro h
    have hlast : LastStrings members := by
      rw [values] at h
      split at h
      · simp at h
      · rename_i hfind
        rw [List.find?_eq_none] at hfind
        refine forall_entries_iff_lastStrings.1 fun p hp => ?_
        simpa [Option.isSome_iff_ne_none] using hfind p hp
    rw [hvalues hlast, Except.ok.injEq] at h
    subst h
    exact ⟨hlast, hnames hlast, hget⟩
  · rintro ⟨hlast, hfound, hlookup⟩
    rw [hvalues hlast, Except.ok.injEq]
    refine Dictionary.ext_get? ((hnames hlast).trans hfound.symm) fun name => ?_
    rw [hget, hlookup]

/-- Pairs of names and strings, as members. -/
def stringMembers (pairs : List (CodeText × CodeText)) : List (CodeText × Json CodeText) :=
  pairs.map fun p => (p.1, .text p.2)

theorem values_stringMembers (pairs : List (CodeText × CodeText)) :
    values (stringMembers pairs) = .ok (.ofList pairs) := by
  have hlookup : ∀ (l : List (CodeText × CodeText)) name,
      (stringMembers l).lookup name = (l.lookup name).map Json.text := by
    intro l name
    induction l with
    | nil => rfl
    | cons p l ih =>
      obtain ⟨n, s⟩ := p
      rw [stringMembers, List.map_cons, List.lookup_cons, List.lookup_cons]
      cases name == n with
      | true => rfl
      | false => exact ih
  have hreverse : (stringMembers pairs).reverse = stringMembers pairs.reverse := by
    simp [stringMembers]
  have hnames : (stringMembers pairs).map Prod.fst = pairs.map Prod.fst := by
    simp [stringMembers]
  rw [values_eq_ok_iff, hnames, hreverse]
  refine ⟨?_, Dictionary.names_ofList pairs, fun name => ?_⟩
  · intro name hname
    have hmem : name ∈ (Dictionary.ofList pairs).names := by
      rw [hnames] at hname
      rwa [Dictionary.names_ofList, List.mem_eraseDups]
    obtain ⟨s, hs⟩ := Dictionary.mem_names_iff.1 hmem
    rw [Dictionary.get?_ofList] at hs
    exact ⟨s, by rw [hreverse, hlookup, hs]; rfl⟩
  · rw [Dictionary.get?_ofList, hlookup]
    cases pairs.reverse.lookup name <;> rfl

/-! ## files -/

/-- The value that a text names in a macro file. -/
theorem Contents.get?_texts (contents : Contents) (name : Text) :
    contents.texts.get? name = (contents.get? name.codes).map CodeText.shown := by
  obtain ⟨entries, nodup⟩ := contents
  have hmatch : ∀ p : CodeText × CodeText,
      ((p.1.text?.map (·, p.2.shown)).bind fun q => if q.1 == name then some q.2 else none) =
        if name.codes == p.1 then some p.2.shown else none := by
    rintro ⟨codes, value⟩
    by_cases h : name.codes = codes
    · simp [← h, CodeText.text?_eq_some_iff.2 rfl]
    · cases ht : codes.text? with
      | none => simp [beq_false_of_ne h]
      | some t =>
        have hne : t ≠ name := by
          rintro rfl
          exact h (CodeText.text?_eq_some_iff.1 ht).symm
        simp [hne, beq_false_of_ne h]
  simp only [Dictionary.get?, Contents.texts, lookup_filterMap, hmatch]
  rw [List.lookup_eq_findSome?, List.map_findSome?]
  congr 1
  funext p
  by_cases h : name.codes = p.1 <;> simp [h]

/-- What the bytes of a file hold, if they hold the text of an object of strings. -/
theorem parse_eq_ok_iff {path : FilePath} {bytes : ByteArray} {found : Contents} :
    parse path bytes = .ok found ↔ ∃ (t : Text) (members : List (CodeText × Json CodeText)),
      bytes = t.utf8Encode ∧ Json.Document (.object members) t ∧ values members = .ok found := by
  constructor
  · intro h
    rw [parse] at h
    split at h
    · simp at h
    · rename_i whole hdecode
      obtain ⟨t, rfl, rfl⟩ := decode?_eq_some_iff.1 hdecode
      split at h
      · simp at h
      · simp at h
      · rename_i members hread
        rw [Json.read_eq_ok_iff, Json.document_unifyLineEnds_iff] at hread
        split at h
        · rename_i found' hvalues
          obtain rfl := Except.ok.inj h
          exact ⟨t, members, rfl, hread, hvalues⟩
        · simp at h
      · simp at h
  · rintro ⟨t, members, rfl, hdocument, hvalues⟩
    rw [← Json.document_unifyLineEnds_iff, ← Json.read_eq_ok_iff] at hdocument
    simp only [parse, decode?_utf8Encode, hdocument, hvalues]

variable {disk : Disk} {home : Text} {maxBytes : Int} {path full : FilePath} {bytes : ByteArray}

/-- Loading a file that stands where the path means and may be read. -/
theorem load_of_file (resolved : resolvePath disk home path = some full)
    (stands : disk.find full.toText = .ok (.file bytes true)) :
    load disk home maxBytes path =
      ((if bytes.size > maxBytes then .error (.refused full (.tooLarge bytes.size))
        else parse full bytes) : Except Failure Contents).map (full, ·) := by
  simp [load, resolved, loadAt, stands]

/-- A file that is not too large is loaded if its bytes are read. -/
theorem load_eq_ok_iff (resolved : resolvePath disk home path = some full)
    (stands : disk.find full.toText = .ok (.file bytes true)) (small : bytes.size ≤ maxBytes)
    {place : FilePath} {found : Contents} :
    load disk home maxBytes path = .ok (place, found) ↔
      place = full ∧ parse full bytes = .ok found := by
  rw [load_of_file resolved stands, if_neg (Int.not_lt.2 small)]
  cases parse full bytes with
  | error failure => simp [Except.map]
  | ok contents => simp [Except.map, eq_comm]

end MacroFile

/-! ## a single file -/

/-- The path of a file in the root directory. -/
def rootFile : FilePath := ⟨.slash, [.ofString "m.json"]⟩

/-- A workspace in which the root directory holds one file and nothing else. -/
def Workspace.holding (process : Dictionary Text) (bytes : ByteArray) : Workspace :=
  .new process ⟨.slash, []⟩ ⟨[(rootFile.names, .file bytes true)], []⟩ true

theorem resolvePath_rootFile (process : Dictionary Text) (bytes : ByteArray) :
    resolvePath (Workspace.holding process bytes).disk (Workspace.holding process bytes).home
      rootFile = some rootFile := rfl

theorem find_rootFile (process : Dictionary Text) (bytes : ByteArray) :
    (Workspace.holding process bytes).disk.find rootFile.toText = .ok (.file bytes true) := rfl

/-! ## loading -/

/-- **A macro file is an object of strings, and loading it inverts writing it.**  Take a file that
stands where the path means, may be read, and is not too large.  It is loaded if its bytes are the
UTF-8 form of a JSON text that writes an object in which the last member of each name holds a
string, and only then; what is loaded has the names in the order in which they first come, each
with its last string, and no other name has a value.  So a text that writes pairs of names and
strings as an object, in whichever way, gives back the dictionary of the pairs.  And the scope of
the file has for each text what was loaded for the name that the text is, the value itself where
that is a text. -/
theorem load_eq_ok_iff_written {w : Workspace} {maxBytes : Int} {path full : FilePath}
    {bytes : ByteArray} (resolved : resolvePath w.disk w.home path = some full)
    (stands : w.disk.find full.toText = .ok (.file bytes true)) (small : bytes.size ≤ maxBytes) :
    (∀ place found, load w.disk w.home maxBytes path = .ok (place, found) ↔
      place = full ∧ ∃ (t : Text) (members : List (CodeText × Json CodeText)),
        bytes = t.utf8Encode ∧ Json.Document (.object members) t ∧
        (∀ name ∈ members.map Prod.fst, ∃ s, members.reverse.lookup name = some (.text s)) ∧
        found.names = (members.map Prod.fst).eraseDups ∧
        ∀ name, found.get? name = (members.reverse.lookup name).bind Json.text?) ∧
    (∀ (t : Text) (pairs : List (CodeText × CodeText)), bytes = t.utf8Encode →
      Json.Document (.object (pairs.map fun p => (p.1, .text p.2))) t →
      load w.disk w.home maxBytes path = .ok (full, .ofList pairs)) ∧
    (∀ place found, load w.disk w.home maxBytes path = .ok (place, found) →
      ∃ scope, (w.loadFile path maxBytes).1 = .ok scope ∧
        (∀ environments (name : Text),
          scope.lookup environments name = (found.get? name.codes).map CodeText.shown) ∧
        ∀ environments (name value : Text), found.get? name.codes = some value.codes →
          scope.lookup environments name = some value) := by
  refine ⟨fun place found => ?_, fun t pairs hbytes hdocument => ?_,
    fun place found hfound => ?_⟩
  · rw [load_eq_ok_iff resolved stands small, parse_eq_ok_iff]
    simp only [values_eq_ok_iff, LastStrings]
  · rw [load_eq_ok_iff resolved stands small, parse_eq_ok_iff]
    exact ⟨rfl, t, _, hbytes, hdocument, values_stringMembers pairs⟩
  · refine ⟨.file place.toText found.texts, ?_, fun environments name => ?_,
      fun environments name value hvalue => ?_⟩
    · simp only [Workspace.loadFile, hfound]
      rfl
    · rw [Scope.lookup, Contents.get?_texts]
    · rw [Scope.lookup, Contents.get?_texts, hvalue, Option.map_some, CodeText.shown_codes]

/-- A file with a name that is written twice, of which the first value is no string, with a line
end of two characters and with a character that is written by two escapes. -/
theorem load_eq_ok_iff_written_of_repeated :
    let t := Text.ofString "\x7b \"A\": [1.5e3],\r\n\"A\" :\"\\u0041\\ud83d\\uDE00\" \x7d"
    let w := Workspace.holding .empty t.utf8Encode
    let found := Dictionary.ofList [((Text.ofString "A").codes, (Text.ofString "A😀").codes)]
    resolvePath w.disk w.home rootFile = some rootFile ∧
      w.disk.find rootFile.toText = .ok (.file t.utf8Encode true) ∧
      t.utf8Encode.size ≤ defaultMaxBytes ∧
      load w.disk w.home defaultMaxBytes rootFile = .ok (rootFile, found) ∧
      ∃ scope, (w.loadFile rootFile defaultMaxBytes).1 = .ok scope ∧
        scope.lookup w.environments (.ofString "A") = some (.ofString "A😀") := by
  intro t w found
  have resolved := resolvePath_rootFile .empty t.utf8Encode
  have stands := find_rootFile .empty t.utf8Encode
  have small := size_utf8Encode_le_defaultMaxBytes (t := t) (Nat.le_of_ble_eq_true rfl)
  have hread : Json.read t = .ok (.object [((Text.ofString "A").codes, .list [.real 15 2]),
      ((Text.ofString "A").codes, .text (Text.ofString "A😀").codes)]) := by
    dsimp only [t]
    cbv
  obtain ⟨hload, -, hscope⟩ := load_eq_ok_iff_written resolved stands small
  have hfound : load w.disk w.home defaultMaxBytes rootFile = .ok (rootFile, found) := by
    refine (hload rootFile found).2 ⟨rfl, t, _, rfl, Json.read_eq_ok_iff.1 hread, ?_, rfl, ?_⟩
    · simp
    · intro name
      rw [Dictionary.get?_ofList]
      by_cases hname : name = (Text.ofString "A").codes
      · simp [hname, Json.text?]
      · simp [List.lookup_cons, beq_false_of_ne hname]
  obtain ⟨scope, hmade, -, hlookup⟩ := hscope rootFile found hfound
  refine ⟨resolved, stands, small, hfound, scope, hmade, hlookup _ _ _ ?_⟩
  rw [Dictionary.get?_ofList]
  simp

end TextMacros
