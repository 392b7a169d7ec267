import TextMacros.Proofs.Sources.Precedence

/-!
# TextMacros.Proofs.MacroFile.Failures

What is said of a macro file that stands where it is looked for but does not load.

Nearly always the file is refused, and the message names it (`Refusal.isInfix_message`).  The one
failure of another kind is that of an integer with more digits than are read; it does not name the
file, and it is met only in a file that holds so many digits in a row.  Main statement:
`outcome_of_load`.
-/

namespace TextMacros

open MacroFile

namespace MacroFile

/-! ## refusals -/

/-- A refusal names the file. -/
theorem Refusal.isInfix_message (path : Text) (reason : Refusal) :
    path <:+: reason.message path := by
  cases reason with
  | notFound | notReadable | notUtf8 => exact (List.suffix_append _ path).isInfix
  | notObject => exact List.infix_append _ path _
  | notString name =>
    exact ⟨Text.ofString "Macro " ++ name ++ Text.ofString " in ", Text.ofString " is not a string",
      rfl⟩
  | tooLarge bytes =>
    simp only [Refusal.message, List.append_assoc]
    exact List.infix_append' _ path _
  | malformed problem whole rest =>
    simp only [Refusal.message, List.append_assoc]
    exact List.infix_append' _ path _

/-- What is made of the bytes of a file: they are read, or the file is refused, or they hold an
integer that is too long. -/
theorem outcome_of_parse (path : FilePath) (bytes : ByteArray) :
    (∃ found, parse path bytes = .ok found) ∨
    (∃ reason, parse path bytes = .error (.refused path reason)) ∨
    (∃ n text, parse path bytes = .error (.integerTooLong n) ∧ decode? bytes = some text ∧
      Text.maxDigits < n ∧ Json.HasDigits n text) := by
  rw [parse]
  split
  · exact .inr (.inl ⟨_, rfl⟩)
  · rename_i text hdecode
    split
    · exact .inr (.inl ⟨_, rfl⟩)
    · rename_i n hread
      obtain ⟨hlong, hdigits⟩ := Json.digits_of_read_tooLong hread
      exact .inr (.inr ⟨n, text, rfl, hdecode, hlong, hdigits⟩)
    · split
      · exact .inl ⟨_, rfl⟩
      · exact .inr (.inl ⟨_, rfl⟩)
    · exact .inr (.inl ⟨_, rfl⟩)

end MacroFile

/-- **What becomes of a macro file**: a file that stands where the path means and may be read is
loaded, or it is refused with a message that names it, or its text holds more digits in a row than
are read of an integer.  Sources that ask for the file fail in the same way: a refusal stays one,
and the integer that is too long does not become one. -/
theorem outcome_of_load {w : Workspace} {path full : FilePath} {bytes : ByteArray}
    (resolved : resolvePath w.disk w.home path = some full)
    (stands : w.disk.find full.toText = .ok (.file bytes true)) :
    (∀ maxBytes,
      (∃ found, load w.disk w.home maxBytes path = .ok (full, found)) ∨
      (∃ reason, load w.disk w.home maxBytes path = .error (.refused full reason) ∧
        full.toText <:+: (Failure.refused full reason).message) ∨
      (∃ n text, load w.disk w.home maxBytes path = .error (.integerTooLong n) ∧
        decode? bytes = some text ∧ Text.maxDigits < n ∧ Json.HasDigits n text)) ∧
    (∀ (settings : Settings) (sources : Sources), (∀ d ∈ sources.definitions, IsDefinition d) →
      sources.Chooses w settings (some path) →
      (∃ scope, (w.makeSources settings sources).1 = .ok scope) ∨
      (∃ reason, (w.makeSources settings sources).1 = .error (.badFile full reason) ∧
        full.toText <:+: (Sources.Failure.badFile full reason).message) ∨
      (∃ n text, (w.makeSources settings sources).1 = .error (.notLoaded (.integerTooLong n)) ∧
        decode? bytes = some text ∧ Text.maxDigits < n ∧ Json.HasDigits n text)) := by
  have hload : ∀ maxBytes,
      (∃ found, load w.disk w.home maxBytes path = .ok (full, found)) ∨
      (∃ reason, load w.disk w.home maxBytes path = .error (.refused full reason)) ∨
      (∃ n text, load w.disk w.home maxBytes path = .error (.integerTooLong n) ∧
        decode? bytes = some text ∧ Text.maxDigits < n ∧ Json.HasDigits n text) := by
    intro maxBytes
    rw [load_of_file resolved stands]
    split
    · exact .inr (.inl ⟨_, rfl⟩)
    · rcases outcome_of_parse full bytes with ⟨found, h⟩ | ⟨reason, h⟩ | ⟨n, text, h, hdigits⟩
      · exact .inl ⟨found, by rw [h]; rfl⟩
      · exact .inr (.inl ⟨reason, by rw [h]; rfl⟩)
      · exact .inr (.inr ⟨n, text, by rw [h]; rfl, hdigits⟩)
  refine ⟨fun maxBytes => ?_, fun settings sources good hchoice => ?_⟩
  · rcases hload maxBytes with h | ⟨reason, h⟩ | h
    · exact .inl h
    · exact .inr (.inl ⟨reason, h, Refusal.isInfix_message _ reason⟩)
    · exact .inr (.inr h)
  · have hparsed := parseDefinitions_of_forall good
    rcases hload defaultMaxBytes with ⟨found, h⟩ | ⟨reason, h⟩ | ⟨n, text, h, hdigits⟩
    · exact .inl ⟨_, Sources.makeSources_of_parsed hparsed (.file hchoice h)⟩
    · have hmade := hchoice.makeSources_of_error hparsed h
      exact .inr (.inl ⟨reason, hmade, Refusal.isInfix_message _ reason⟩)
    · have hmade := hchoice.makeSources_of_error hparsed h
      exact .inr (.inr ⟨n, text, hmade, hdigits⟩)

/-- A file that holds no object is refused by its name, and so are the sources that ask for it. -/
theorem outcome_of_load_of_list :
    let t := Text.ofString "[true]"
    let w := Workspace.holding .empty t.utf8Encode
    let sources : Sources := ⟨[], some rootFile, false⟩
    resolvePath w.disk w.home rootFile = some rootFile ∧
      w.disk.find rootFile.toText = .ok (.file t.utf8Encode true) ∧
      (∃ reason, load w.disk w.home defaultMaxBytes rootFile = .error (.refused rootFile reason) ∧
        rootFile.toText <:+: (Failure.refused rootFile reason).message) ∧
      ∃ reason, (w.makeSources .default sources).1 = .error (.badFile rootFile reason) ∧
        rootFile.toText <:+: (Sources.Failure.badFile rootFile reason).message := by
  intro t w sources
  have resolved := resolvePath_rootFile .empty t.utf8Encode
  have stands := find_rootFile .empty t.utf8Encode
  have small := size_utf8Encode_le_defaultMaxBytes (t := t) (Nat.le_of_ble_eq_true rfl)
  have hread : Json.read (unifyLineEnds t) = .ok (.list [.bool true]) := by
    dsimp only [t]
    cbv
  have hparse : parse rootFile t.utf8Encode = .error (.refused rootFile .notObject) := by
    simp only [parse, decode?_utf8Encode, hread]
  have hload : load w.disk w.home defaultMaxBytes rootFile =
      .error (.refused rootFile .notObject) := by
    rw [load_of_file resolved stands, if_neg (Int.not_lt.2 small), hparse]
    rfl
  have hchoice : sources.Chooses w .default (some rootFile) := .given rfl
  have hmade := hchoice.makeSources_of_error rfl hload
  obtain ⟨houtcome, hsources⟩ := outcome_of_load resolved stands
  refine ⟨resolved, stands, ?_, ?_⟩
  · rcases houtcome defaultMaxBytes with ⟨found, h⟩ | h | ⟨n, text, h, -⟩
    · rw [hload] at h
      simp at h
    · exact h
    · rw [hload] at h
      simp at h
  · have hnone : ∀ d ∈ sources.definitions, IsDefinition d := by simp [sources]
    rcases hsources .default sources hnone hchoice with ⟨scope, h⟩ | h | ⟨n, text, h, -⟩
    · rw [hmade] at h
      simp at h
    · exact h
    · rw [hmade] at h
      simp [Sources.Failure.ofFile] at h

/-! ## integers that are too long -/

/-- A text with one member, whose value is an integer. -/
def integerText (ds : Text) : Text := Text.ofString "\x7b\"N\":" ++ (ds ++ ['}'])

theorem length_integerText (ds : Text) : (integerText ds).length = ds.length + 6 := by
  simp [integerText, Text.ofString]

theorem read_integerText {ds : Text} (hwhole : Json.Whole ds)
    (hlong : Text.maxDigits < ds.length) :
    Json.read (integerText ds) = .error (.integerTooLong ds.length) := by
  have hstarts : Json.StartsValue (ds ++ ['}']) := by
    obtain ⟨c, s, h, hc⟩ := hwhole.starts ['}']
    exact ⟨c, s, h, .inl hc⟩
  have hvalue : ∀ fuel, Json.readValue (fuel + 1) (ds ++ ['}']) =
      .error (.integerTooLong ds.length) := by
    intro fuel
    have hnumber : Json.StartsNumber (ds ++ ['}']) := ⟨1, _, .plus, hwhole.starts ['}']⟩
    have hstops : Json.NumberStops ['}'] := Json.numberStops_cons (by decide) []
    rw [hnumber.readValue_eq, Json.readNumber_of_integer .plus hwhole hstops, if_pos hlong]
  have hname : Json.readString ('N' :: '"' :: ':' :: (ds ++ ['}'])) =
      .ok ([.ofChar 'N'], ':' :: (ds ++ ['}'])) :=
    Json.readString_eq_ok_iff.2 (.raw (by decide) (by decide) (by decide) .close)
  have hmembers : ∀ fuel,
      Json.readMembers (fuel + 2) [] ('"' :: 'N' :: '"' :: ':' :: (ds ++ ['}'])) =
        .error (.integerTooLong ds.length) := by
    intro fuel
    rw [Json.readMembers, hname]
    simp only [bind, Except.bind, Json.skipSpace_cons (c := ':') rfl, hstarts.skipSpace_eq, hvalue]
  have hobject : ∀ fuel, Json.readValue (fuel + 3) (integerText ds) =
      .error (.integerTooLong ds.length) := by
    intro fuel
    have htext : integerText ds = '{' :: '"' :: 'N' :: '"' :: ':' :: (ds ++ ['}']) := rfl
    rw [htext, Json.readValue, Json.skipSpace_cons rfl]
    exact hmembers fuel
  have hfuel : 2 * (integerText ds).length + 2 = (2 * ds.length + 11) + 3 := by
    rw [length_integerText]
    omega
  have hskip : Json.skipSpace (integerText ds) = integerText ds := Json.skipSpace_cons rfl _
  rw [Json.read, if_neg (by simp [integerText, Text.ofString]), hskip]
  simp only [hfuel, hobject, bind, Except.bind]

theorem load_integerText {w : Workspace} {path full : FilePath} {ds : Text}
    (resolved : resolvePath w.disk w.home path = some full)
    (stands : w.disk.find full.toText = .ok (.file (integerText ds).utf8Encode true))
    (hwhole : Json.Whole ds) (hlong : Text.maxDigits < ds.length)
    (hsmall : ds.length + 6 ≤ 262144) :
    load w.disk w.home defaultMaxBytes path = .error (.integerTooLong ds.length) := by
  have hlines : unifyLineEnds (integerText ds) = integerText ds := by
    have hbefore : InLine (Text.ofString "\x7b\"N\":") := by simp [InLine, Text.ofString]
    have hafter : InLine ['}'] := by simp [InLine]
    refine unifyLineEnds_of_inLine fun c hc => ?_
    rcases List.mem_append.1 hc with hc | hc
    · exact hbefore c hc
    · rcases List.mem_append.1 hc with hc | hc
      · exact hwhole.allDigits.inLine c hc
      · exact hafter c hc
  have hparse : parse full (integerText ds).utf8Encode = .error (.integerTooLong ds.length) := by
    simp only [parse, decode?_utf8Encode, hlines, read_integerText hwhole hlong]
  have small : (integerText ds).utf8Encode.size ≤ defaultMaxBytes :=
    size_utf8Encode_le_defaultMaxBytes (by rwa [length_integerText])
  rw [load_of_file resolved stands, if_neg (Int.not_lt.2 small), hparse]
  rfl

theorem whole_replicate (n : Nat) : Json.Whole (List.replicate (n + 1) '1') := by
  rw [List.replicate_succ]
  refine .digits (by decide) fun c hc => ?_
  rw [← List.replicate_succ] at hc
  rw [List.eq_of_mem_replicate hc]
  rfl

/-- An object with a value of 4301 digits is not refused as a file, but fails otherwise, and
without naming the file; so do the sources that ask for it. -/
theorem load_of_manyDigits :
    let t := integerText (List.replicate 4301 '1')
    let w := Workspace.holding .empty t.utf8Encode
    let sources : Sources := ⟨[], some rootFile, false⟩
    resolvePath w.disk w.home rootFile = some rootFile ∧
      w.disk.find rootFile.toText = .ok (.file t.utf8Encode true) ∧
      load w.disk w.home defaultMaxBytes rootFile = .error (.integerTooLong 4301) ∧
      (w.makeSources .default sources).1 = .error (.notLoaded (.integerTooLong 4301)) ∧
      ¬ rootFile.toText <:+: (Failure.integerTooLong 4301).message := by
  intro t w sources
  have resolved := resolvePath_rootFile .empty t.utf8Encode
  have stands := find_rootFile .empty t.utf8Encode
  have hload := load_integerText resolved stands (whole_replicate 4300)
    (by rw [List.length_replicate]; decide) (by rw [List.length_replicate]; decide)
  rw [List.length_replicate] at hload
  have hchoice : sources.Chooses w .default (some rootFile) := .given rfl
  exact ⟨resolved, stands, hload, hchoice.makeSources_of_error rfl hload, by decide +kernel⟩

end TextMacros
