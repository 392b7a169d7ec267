import TextMacros.Proofs.Json.Scalars

/-!
# TextMacros.Proofs.Json.Reading

The reader reads what the grammar has, and nothing else.

A value is read from the front of a text (`value_of_readValue`) whatever stands behind it, so long
as that is not more of a number (`Value.readValue_eq`); the fuel is enough, since each array or
object that is gone into takes its bracket.  Main statement: `read_eq_ok_iff`.  What the reader
adds to the grammar is the limit on the digits of an integer: a text without so many digits in a
row never meets it (`digits_of_read_tooLong`).
-/

namespace TextMacros.Json

/-! ## what is read is in the grammar -/

theorem spaces_of_skipSpace {t rest : Text} (h : skipSpace t = rest) : Spaces t rest :=
  h ▸ spaces_skipSpace t

mutual

theorem value_of_readValue {fuel : Nat} {t rest : Text} {v : Json CodeText}
    (h : readValue fuel t = .ok (v, rest)) : Value v t rest := by
  cases fuel with
  | zero => simp [readValue] at h
  | succ fuel =>
    rw [readValue.eq_def] at h
    simp only at h
    split at h
    · rename_i t
      cases hs : readString t with
      | error fault => simp [hs, Except.map] at h
      | ok r =>
        simp only [hs, Except.map, Except.ok.injEq, Prod.mk.injEq] at h
        obtain ⟨rfl, rfl⟩ := h
        exact .string (readString_eq_ok_iff.1 hs)
    · rename_i t
      split at h
      · rename_i t₁ hspaces
        rw [Except.ok.injEq, Prod.mk.injEq] at h
        obtain ⟨rfl, rfl⟩ := h
        exact .emptyObject (spaces_of_skipSpace hspaces)
      · obtain ⟨members, rfl, hmembers⟩ := members_of_readMembers h
        exact .object (spaces_skipSpace t) hmembers
    · rename_i t
      split at h
      · rename_i t₁ hspaces
        rw [Except.ok.injEq, Prod.mk.injEq] at h
        obtain ⟨rfl, rfl⟩ := h
        exact .emptyList (spaces_of_skipSpace hspaces)
      · obtain ⟨items, rfl, hitems⟩ := items_of_readItems h
        exact .list (spaces_skipSpace t) hitems
    · exact value_of_readWord h

theorem items_of_readItems {fuel : Nat} {read : List (Json CodeText)} {t rest : Text}
    {v : Json CodeText} (h : readItems fuel read t = .ok (v, rest)) :
    ∃ items, v = .list (read.reverse ++ items) ∧ Items items t rest := by
  cases fuel with
  | zero => simp [readItems] at h
  | succ fuel =>
    obtain ⟨⟨item, t₁⟩, hitem, h⟩ := ok_of_bind h
    have hitem := value_of_readValue hitem
    simp only at h
    split at h
    · rename_i t₂ hclose
      rw [Except.ok.injEq, Prod.mk.injEq] at h
      obtain ⟨rfl, rfl⟩ := h
      exact ⟨[item], by simp, .last hitem (spaces_of_skipSpace hclose)⟩
    · rename_i t₂ hcomma
      obtain ⟨items, rfl, hitems⟩ := items_of_readItems h
      refine ⟨item :: items, by simp, ?_⟩
      exact .more hitem (spaces_of_skipSpace hcomma) (spaces_skipSpace t₂) hitems
    · simp at h

theorem members_of_readMembers {fuel : Nat} {read : List (CodeText × Json CodeText)}
    {t rest : Text} {v : Json CodeText} (h : readMembers fuel read t = .ok (v, rest)) :
    ∃ members, v = .object (read.reverse ++ members) ∧ Members members t rest := by
  cases fuel with
  | zero => simp [readMembers] at h
  | succ fuel =>
    rw [readMembers.eq_def] at h
    simp only at h
    split at h
    · obtain ⟨⟨name, t₁⟩, hname, h⟩ := ok_of_bind h
      have hname := readString_eq_ok_iff.1 hname
      simp only at h
      split at h
      · rename_i t₂ hcolon
        obtain ⟨⟨value, t₃⟩, hvalue, h⟩ := ok_of_bind h
        have hmember := Member.parts hname (spaces_of_skipSpace hcolon) (spaces_skipSpace t₂)
          (value_of_readValue hvalue)
        simp only at h
        split at h
        · rename_i t₄ hclose
          rw [Except.ok.injEq, Prod.mk.injEq] at h
          obtain ⟨rfl, rfl⟩ := h
          exact ⟨[(name, value)], by simp, .last hmember (spaces_of_skipSpace hclose)⟩
        · rename_i t₄ hcomma
          obtain ⟨members, rfl, hmembers⟩ := members_of_readMembers h
          refine ⟨(name, value) :: members, by simp, ?_⟩
          exact .more hmember (spaces_of_skipSpace hcomma) (spaces_skipSpace t₄) hmembers
        · simp at h
      · simp at h
    · simp at h

end

/-! ## what is in the grammar is read -/

theorem Spaces.numberStops {t rest : Text} (h : Spaces t rest) (hrest : NumberStops rest) :
    NumberStops t := by
  cases h with
  | nil => exact hrest
  | @cons c t rest hc h =>
    intro d hd
    obtain rfl : c = d := by simpa using hd
    simp only [isSpace, Bool.or_eq_true, beq_iff_eq] at hc
    rcases hc with ((rfl | rfl) | rfl) | rfl <;> decide

/-- No number goes on with a sign that ends or separates values. -/
theorem numberStops_cons {c : Char} (hc : c ∈ [',', ':', ']', '}']) (t : Text) :
    NumberStops (c :: t) := by
  intro d hd
  obtain rfl : c = d := by simpa using hd
  simp only [List.mem_cons, List.not_mem_nil, or_false] at hc
  rcases hc with rfl | rfl | rfl | rfl <;> decide

/-- White space up to a sign is skipped, and the sign stays. -/
theorem Spaces.skipSpace_eq_cons {t rest : Text} {c : Char} (h : Spaces t (c :: rest))
    (hc : isSpace c = false) : skipSpace t = c :: rest :=
  h.skipSpace_eq.trans (skipSpace_cons hc rest)

/-- White space up to a value is skipped, and the value stays. -/
theorem Spaces.skipSpace_eq_value {t rest : Text} (h : Spaces t rest) (hrest : StartsValue rest) :
    skipSpace t = rest :=
  h.skipSpace_eq.trans hrest.skipSpace_eq

theorem StartsValue.ne_cons {t : Text} (h : StartsValue t) {c : Char} (hc : c = ']' ∨ c = '}')
    (rest : Text) : t ≠ c :: rest := by
  obtain ⟨d, u, rfl, hd⟩ := h
  intro heq
  obtain ⟨rfl, -⟩ := List.cons.inj heq
  rcases hc with rfl | rfl <;> exact absurd hd (by decide)

/-- A text that no string, object or array starts is read as a word or a number. -/
theorem readValue_of_head {c : Char} (hc : c ∉ ['"', '{', '[']) (fuel : Nat) (t : Text) :
    readValue (fuel + 1) (c :: t) = readWord (c :: t) := by
  simp only [List.mem_cons, List.not_mem_nil, or_false, not_or] at hc
  obtain ⟨hquote, hobject, hlist⟩ := hc
  rw [readValue.eq_def]
  simp [hquote, hobject, hlist]

theorem readValue_word {w : Text} {v : Json CodeText} (h : (w, v) ∈ words) (fuel : Nat)
    (rest : Text) : readValue (fuel + 1) (w ++ rest) = .ok (v, rest) := by
  rw [← readWord_word h rest]
  have hfirst : ∀ p ∈ words, ∃ c s, p.1 = c :: s ∧ c ∉ ['"', '{', '['] := by
    simp only [words, List.mem_cons, List.not_mem_nil, or_false, forall_eq_or_imp, forall_eq]
    refine ⟨?_, ?_, ?_, ?_, ?_, ?_⟩ <;> exact ⟨_, _, rfl, by decide⟩
  obtain ⟨c, s, hw, hc⟩ := hfirst _ h
  obtain rfl : w = c :: s := hw
  exact readValue_of_head hc fuel (s ++ rest)

theorem StartsNumber.readValue_eq {t : Text} (h : StartsNumber t) (fuel : Nat) :
    readValue (fuel + 1) t = readNumber t := by
  rw [← h.readWord_eq]
  obtain ⟨s, u, hsign, c, u', rfl, hc⟩ := h
  cases hsign with
  | plus =>
    refine readValue_of_head ?_ fuel u'
    intro hmem
    simp only [List.mem_cons, List.not_mem_nil, or_false] at hmem
    rcases hmem with rfl | rfl | rfl <;> simp at hc
  | minus => exact readValue_of_head (by decide) fuel (c :: u')

mutual

theorem Value.readValue_eq {v : Json CodeText} {t rest : Text} (h : Value v t rest)
    (hrest : NumberStops rest) {fuel : Nat} (hfuel : 2 * t.length ≤ fuel) :
    readValue fuel t = .ok (v, rest) := by
  obtain ⟨c, t', ht, -⟩ := h.starts
  cases fuel with
  | zero => simp [ht] at hfuel
  | succ fuel =>
    clear ht
    cases h with
    | word h => exact readValue_word h fuel rest
    | number h => exact (h.starts.readValue_eq fuel).trans (h.readNumber_eq hrest)
    | string h =>
      rw [readValue, readString_eq_ok_iff.2 h]
      rfl
    | emptyList h =>
      rw [readValue]
      simp only [h.skipSpace_eq_cons rfl]
    | list hspaces h =>
      have hlength := hspaces.suffix.length_le
      simp only [List.length_cons] at hfuel
      rw [readValue]
      simp only [hspaces.skipSpace_eq_value h.starts]
      split
      · exact absurd rfl (h.starts.ne_cons (.inl rfl) _)
      · exact h.readItems_eq (by omega) []
    | emptyObject h =>
      rw [readValue]
      simp only [h.skipSpace_eq_cons rfl]
    | object hspaces h =>
      have hlength := hspaces.suffix.length_le
      simp only [List.length_cons] at hfuel
      rw [readValue]
      simp only [hspaces.skipSpace_eq_value h.starts]
      split
      · exact absurd rfl (h.starts.ne_cons (.inr rfl) _)
      · exact h.readMembers_eq (by omega) []

theorem Items.readItems_eq {items : List (Json CodeText)} {t rest : Text} (h : Items items t rest)
    {fuel : Nat} (hfuel : 2 * t.length < fuel) (read : List (Json CodeText)) :
    readItems fuel read t = .ok (.list (read.reverse ++ items), rest) := by
  cases fuel with
  | zero => simp at hfuel
  | succ fuel =>
    cases h with
    | last hitem hclose =>
      have hstops := hclose.numberStops (numberStops_cons (by decide) rest)
      rw [readItems, hitem.readValue_eq hstops (by omega)]
      simp [bind, Except.bind, hclose.skipSpace_eq_cons rfl]
    | @more item items t t₁ t₂ t₃ rest hitem hcomma hspaces h =>
      have hstops := hcomma.numberStops (numberStops_cons (by decide) t₂)
      have hlength := hitem.suffix.length_le
      have hlength' := hcomma.suffix.length_le
      have hlength'' := hspaces.suffix.length_le
      simp only [List.length_cons] at hlength'
      rw [readItems, hitem.readValue_eq hstops (by omega)]
      simp only [bind, Except.bind, hcomma.skipSpace_eq_cons rfl,
        hspaces.skipSpace_eq_value h.starts]
      rw [h.readItems_eq (by omega) (item :: read)]
      simp

/-- A member is read, and the reader goes on with what stands behind it. -/
theorem Member.readMembers_eq {m : CodeText × Json CodeText} {t rest : Text} (h : Member m t rest)
    (hrest : NumberStops rest) {fuel : Nat} (hfuel : 2 * t.length ≤ fuel)
    (read : List (CodeText × Json CodeText)) :
    readMembers (fuel + 1) read t =
      match skipSpace rest with
      | '}' :: rest => .ok (.object (m :: read).reverse, rest)
      | ',' :: rest => readMembers fuel (m :: read) (skipSpace rest)
      | rest => .error (.malformed .expectedComma rest) := by
  cases h with
  | @parts name v t t₁ t₂ t₃ rest hname hcolon hspaces h =>
    have hlength := hname.suffix.length_le
    have hlength' := hcolon.suffix.length_le
    have hlength'' := hspaces.suffix.length_le
    simp only [List.length_cons] at hfuel hlength'
    have hfuel' : 2 * t₃.length ≤ fuel := by omega
    have hstep := readMembers.eq_def (fuel + 1) read ('"' :: t)
    simp only [readString_eq_ok_iff.2 hname, bind, Except.bind, hcolon.skipSpace_eq_cons rfl,
      hspaces.skipSpace_eq_value h.starts, h.readValue_eq hrest hfuel'] at hstep
    exact hstep

theorem Members.readMembers_eq {members : List (CodeText × Json CodeText)} {t rest : Text}
    (h : Members members t rest) {fuel : Nat} (hfuel : 2 * t.length < fuel)
    (read : List (CodeText × Json CodeText)) :
    readMembers fuel read t = .ok (.object (read.reverse ++ members), rest) := by
  cases fuel with
  | zero => simp at hfuel
  | succ fuel =>
    cases h with
    | last hmember hclose =>
      have hstops := hclose.numberStops (numberStops_cons (by decide) rest)
      rw [hmember.readMembers_eq hstops (by omega), hclose.skipSpace_eq_cons rfl]
      simp
    | @more m members t t₁ t₂ t₃ rest hmember hcomma hspaces h =>
      have hstops := hcomma.numberStops (numberStops_cons (by decide) t₂)
      have hlength := hmember.suffix.length_le
      have hlength' := hcomma.suffix.length_le
      have hlength'' := hspaces.suffix.length_le
      simp only [List.length_cons] at hlength'
      rw [hmember.readMembers_eq hstops (by omega), hcomma.skipSpace_eq_cons rfl]
      simp only [hspaces.skipSpace_eq_value h.starts]
      rw [h.readMembers_eq (by omega) (m :: read)]
      simp

end

/-! ## whole texts -/

/-- No text of the grammar starts with a byte order mark. -/
theorem Document.head?_ne {v : Json CodeText} {t : Text} (h : Document v t) :
    t.head? ≠ some '\ufeff' := by
  obtain ⟨t₁, t₂, hbefore, hvalue, hafter⟩ := h
  cases hbefore with
  | nil =>
    obtain ⟨c, rest, rfl, hc⟩ := hvalue.starts
    rintro hmark
    obtain rfl : c = '\ufeff' := by simpa using hmark
    exact absurd hc (by decide)
  | @cons c t rest hc h =>
    rintro hmark
    obtain rfl : c = '\ufeff' := by simpa using hmark
    exact absurd hc (by decide)

/-- **The reader reads the texts of the grammar**: a text is read as a value if it writes that
value, and only then. -/
theorem read_eq_ok_iff {t : Text} {v : Json CodeText} : read t = .ok v ↔ Document v t := by
  constructor
  · intro h
    rw [read] at h
    split at h
    · simp at h
    · obtain ⟨⟨v', t₂⟩, hvalue, h⟩ := ok_of_bind h
      simp only at h
      split at h
      · rename_i hafter
        obtain rfl : v' = v := by simpa using h
        exact ⟨_, t₂, spaces_skipSpace t, value_of_readValue hvalue, spaces_of_skipSpace hafter⟩
      · simp at h
  · intro h
    have hmark := h.head?_ne
    obtain ⟨t₁, t₂, hbefore, hvalue, hafter⟩ := h
    have hstops : NumberStops t₂ := hafter.numberStops fun c hc => by simp at hc
    rw [read, if_neg (by simpa using hmark), hbefore.skipSpace_eq_value hvalue.starts]
    have hfuel : 2 * t₁.length ≤ 2 * t₁.length + 2 := Nat.le_add_right _ 2
    simp only [hvalue.readValue_eq hstops hfuel, bind, Except.bind, hafter.skipSpace_eq]
    rfl

/-! ## integers that are too long -/

theorem skipSpace_suffix (t : Text) : skipSpace t <:+ t := (spaces_skipSpace t).suffix

/-- What the reader goes on with behind a sign stands at the end of the text. -/
theorem skipSpace_suffix_of_cons {t u : Text} {c : Char} (h : skipSpace t = c :: u) :
    skipSpace u <:+ t :=
  ((skipSpace_suffix u).trans (List.suffix_cons c u)).trans (spaces_of_skipSpace h).suffix

mutual

theorem digits_of_readValue_tooLong {fuel n : Nat} {t : Text}
    (h : readValue fuel t = .error (.integerTooLong n)) : Text.maxDigits < n ∧ HasDigits n t := by
  cases fuel with
  | zero => simp [readValue] at h
  | succ fuel =>
    rw [readValue.eq_def] at h
    simp only at h
    split at h
    · rename_i t
      cases hs : readString t with
      | error fault =>
        simp only [hs, Except.map, Except.error.injEq] at h
        exact absurd (h ▸ hs) (readString_ne_tooLong t n)
      | ok r => simp [hs, Except.map] at h
    · rename_i t
      have hsuffix := (skipSpace_suffix t).trans (List.suffix_cons '{' t)
      split at h
      · simp at h
      · exact (digits_of_readMembers_tooLong h).imp_right (·.of_suffix hsuffix)
    · rename_i t
      have hsuffix := (skipSpace_suffix t).trans (List.suffix_cons '[' t)
      split at h
      · simp at h
      · exact (digits_of_readItems_tooLong h).imp_right (·.of_suffix hsuffix)
    · rw [readWord] at h
      split at h
      · simp at h
      · exact digits_of_readNumber_tooLong h

theorem digits_of_readItems_tooLong {fuel n : Nat} {read : List (Json CodeText)} {t : Text}
    (h : readItems fuel read t = .error (.integerTooLong n)) :
    Text.maxDigits < n ∧ HasDigits n t := by
  cases fuel with
  | zero => simp [readItems] at h
  | succ fuel =>
    rcases error_of_bind h with h | ⟨⟨item, t₁⟩, hitem, h⟩
    · exact digits_of_readValue_tooLong h
    · have hitem := (value_of_readValue hitem).suffix
      simp only at h
      split at h
      · simp at h
      · rename_i t₂ hcomma
        have hsuffix := (skipSpace_suffix_of_cons hcomma).trans hitem
        exact (digits_of_readItems_tooLong h).imp_right (·.of_suffix hsuffix)
      · simp at h

theorem digits_of_readMembers_tooLong {fuel n : Nat} {read : List (CodeText × Json CodeText)}
    {t : Text} (h : readMembers fuel read t = .error (.integerTooLong n)) :
    Text.maxDigits < n ∧ HasDigits n t := by
  cases fuel with
  | zero => simp [readMembers] at h
  | succ fuel =>
    rw [readMembers.eq_def] at h
    simp only at h
    split at h
    · rename_i t
      rcases error_of_bind h with h | ⟨⟨name, t₁⟩, hname, h⟩
      · exact absurd h (readString_ne_tooLong t n)
      · have hname := (readString_eq_ok_iff.1 hname).suffix.trans (List.suffix_cons '"' t)
        simp only at h
        split at h
        · rename_i t₂ hcolon
          have hsuffix := (skipSpace_suffix_of_cons hcolon).trans hname
          rcases error_of_bind h with h | ⟨⟨value, t₃⟩, hvalue, h⟩
          · exact (digits_of_readValue_tooLong h).imp_right (·.of_suffix hsuffix)
          · have hvalue := (value_of_readValue hvalue).suffix.trans hsuffix
            simp only at h
            split at h
            · simp at h
            · rename_i t₄ hcomma
              have hsuffix := (skipSpace_suffix_of_cons hcomma).trans hvalue
              exact (digits_of_readMembers_tooLong h).imp_right (·.of_suffix hsuffix)
            · simp at h
        · simp at h
    · simp at h

end

/-- A text is refused for an integer only if it holds so many digits in a row, and they are more
than are read. -/
theorem digits_of_read_tooLong {n : Nat} {t : Text} (h : read t = .error (.integerTooLong n)) :
    Text.maxDigits < n ∧ HasDigits n t := by
  rw [read] at h
  split at h
  · simp at h
  · rcases error_of_bind h with h | ⟨⟨v, t₂⟩, -, h⟩
    · exact (digits_of_readValue_tooLong h).imp_right (·.of_suffix (skipSpace_suffix t))
    · simp only at h
      split at h <;> simp at h

end TextMacros.Json
