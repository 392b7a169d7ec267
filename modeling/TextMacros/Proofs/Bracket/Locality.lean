import TextMacros.Bracket

/-!
# TextMacros.Proofs.Bracket.Locality

Matching brackets is local: which closer belongs to an opener depends on the text from the one
to the other and on nothing around it.

The scan is moved by a change of index (`scan_add`), is not changed by text behind its answer
(`scan_append`), and does not need that text (`scan_of_append`).  The same three facts, said of
a position in a text:

* `findClosing_append_left`: text put behind changes no answer;
* `findClosing_append_right`: text put in front moves every answer by its length;
* `findClosing_of_append`: an answer inside the front part is the answer of the front part.

Main statement: `findClosing_local`, which says both directions at once, and that a bracket cut
off before its closer has none.

`Neutral` texts are those the scan passes over as a whole, whatever is open, and a text is
`NeutralIn` a bracket if the scan does so inside that bracket; `neutral_group` says that a bracket
around a text neutral in it is neutral everywhere.
-/

namespace TextMacros.Bracket

/-! ## the scan -/

/-- The answer of a scan lies in the text read. -/
theorem bounds_of_scan {inner : Bracket} {outer : List Bracket} {i j : Nat} {t : Text}
    (h : scan inner outer i t = some j) : i ≤ j ∧ j < i + t.length := by
  fun_induction scan inner outer i t with
  | case1 | case2 => simp at h
  | case3 inner outer i c cs ih =>
    have := ih h
    simp only [List.length_cons]
    omega
  | case4 inner i cs =>
    simp only [Option.some.injEq] at h
    simp only [List.length_cons]
    omega
  | case5 inner i cs next others _ ih =>
    have := ih h
    simp only [List.length_cons]
    omega
  | case6 inner outer i c cs _ _ b _ ih =>
    have := ih h
    simp only [List.length_cons]
    omega
  | case7 inner outer i c cs _ _ _ ih =>
    have := ih h
    simp only [List.length_cons]
    omega

/-- A scan that starts at a greater index answers an index greater by as much. -/
theorem scan_add (d : Nat) (inner : Bracket) (outer : List Bracket) (i : Nat) (t : Text) :
    scan inner outer (i + d) t = (scan inner outer i t).map (· + d) := by
  fun_induction scan inner outer i t with
  | case1 | case2 => simp
  | case3 inner outer i c cs ih =>
    rw [scan_escape_cons, ← ih, Nat.add_right_comm]
  | case4 inner i cs => simp
  | case5 inner i cs next others _ ih =>
    rw [scan_closer_cons, ← ih, Nat.add_right_comm]
  | case6 inner outer i c cs he hc b hb ih =>
    obtain rfl := ofOpener?_eq_some_iff.1 hb
    rw [scan_opener, ← ih, Nat.add_right_comm]
  | case7 inner outer i c cs he hc ho ih =>
    rw [scan_other he hc ho, ← ih, Nat.add_right_comm]

/-- Text behind the answer of a scan does not change it. -/
theorem scan_append {inner : Bracket} {outer : List Bracket} {i j : Nat} {t : Text}
    (h : scan inner outer i t = some j) (s : Text) : scan inner outer i (t ++ s) = some j := by
  fun_induction scan inner outer i t with
  | case1 | case2 => simp at h
  | case3 inner outer i c cs ih =>
    rw [List.cons_append, List.cons_append, scan_escape_cons]
    exact ih h
  | case4 inner i cs =>
    rw [List.cons_append, scan_closer_nil]
    exact h
  | case5 inner i cs next others _ ih =>
    rw [List.cons_append, scan_closer_cons]
    exact ih h
  | case6 inner outer i c cs he hc b hb ih =>
    obtain rfl := ofOpener?_eq_some_iff.1 hb
    rw [List.cons_append, scan_opener]
    exact ih h
  | case7 inner outer i c cs he hc ho ih =>
    rw [List.cons_append, scan_other he hc ho]
    exact ih h

/-- An answer inside the front part of a text is found in the front part alone. -/
theorem scan_of_append {inner : Bracket} {outer : List Bracket} {i j : Nat} {t s : Text}
    (h : scan inner outer i (t ++ s) = some j) (hj : j < i + t.length) :
    scan inner outer i t = some j := by
  fun_induction scan inner outer i t with
  | case1 inner outer i =>
    have := (bounds_of_scan h).1
    simp only [List.length_nil] at hj
    omega
  | case2 inner outer i =>
    -- the front part ends in the middle of an escape, which `s` completes
    cases s with
    | nil => simp at h
    | cons c cs =>
      rw [List.cons_append, List.nil_append, scan_escape_cons] at h
      have := (bounds_of_scan h).1
      simp only [List.length_cons, List.length_nil] at hj
      omega
  | case3 inner outer i c cs ih =>
    rw [List.cons_append, List.cons_append, scan_escape_cons] at h
    simp only [List.length_cons] at hj
    exact ih h (by omega)
  | case4 inner i cs => simpa using h
  | case5 inner i cs next others _ ih =>
    rw [List.cons_append, scan_closer_cons] at h
    simp only [List.length_cons] at hj
    exact ih h (by omega)
  | case6 inner outer i c cs he hc b hb ih =>
    obtain rfl := ofOpener?_eq_some_iff.1 hb
    rw [List.cons_append, scan_opener] at h
    simp only [List.length_cons] at hj
    exact ih h (by omega)
  | case7 inner outer i c cs he hc ho ih =>
    rw [List.cons_append, scan_other he hc ho] at h
    simp only [List.length_cons] at hj
    exact ih h (by omega)

/-! ## a position in a text -/

/-- Matching at a natural position looks at the text from there on. -/
theorem findClosing_natCast (t : Text) (n : Nat) :
    findClosing t (n : Int) = match t.drop n with
      | [] => none
      | c :: cs => (ofOpener? c).bind fun b => scan b [] (n + 1) cs := by
  have h : ¬ (n : Int) < 0 := by omega
  exact if_neg h

/-- The bracket that is closed opens at the position, and the scan behind it finds the closer. -/
theorem findClosing_eq_some_iff {t : Text} {n j : Nat} :
    findClosing t (n : Int) = some j ↔
      ∃ b cs, t.drop n = b.opener :: cs ∧ scan b [] (n + 1) cs = some j := by
  rw [findClosing_natCast]
  cases h : t.drop n with
  | nil => simp
  | cons c cs =>
    simp only [Option.bind_eq_some_iff, ofOpener?_eq_some_iff, List.cons.injEq]
    constructor
    · rintro ⟨b, rfl, hs⟩
      exact ⟨b, cs, ⟨rfl, rfl⟩, hs⟩
    · rintro ⟨b, _, ⟨rfl, rfl⟩, hs⟩
      exact ⟨b, rfl, hs⟩

/-- The closer lies behind its opener, in the text. -/
theorem bounds_of_findClosing {t : Text} {n j : Nat} (h : findClosing t (n : Int) = some j) :
    n < j ∧ j < t.length := by
  obtain ⟨b, cs, hd, hs⟩ := findClosing_eq_some_iff.1 h
  have hb := bounds_of_scan hs
  have hl := congrArg List.length hd
  simp only [List.length_drop, List.length_cons] at hl
  omega

/-- Text put behind changes no answer. -/
theorem findClosing_append_left {t : Text} {n j : Nat} (h : findClosing t (n : Int) = some j)
    (s : Text) : findClosing (t ++ s) (n : Int) = some j := by
  obtain ⟨b, cs, hd, hs⟩ := findClosing_eq_some_iff.1 h
  have hn : n ≤ t.length := by
    have := bounds_of_findClosing h
    omega
  refine findClosing_eq_some_iff.2 ⟨b, cs ++ s, ?_, scan_append hs s⟩
  rw [List.drop_append_of_le_length hn, hd, List.cons_append]

/-- Text put in front moves every answer by its length. -/
theorem findClosing_append_right (p t : Text) (n : Nat) :
    findClosing (p ++ t) ((p.length + n : Nat) : Int) =
      (findClosing t (n : Int)).map (p.length + ·) := by
  rw [findClosing_natCast, findClosing_natCast, List.drop_append, Nat.add_sub_cancel_left,
    List.drop_of_length_le (Nat.le_add_right _ _), List.nil_append]
  cases t.drop n with
  | nil => simp
  | cons c cs =>
    cases ho : ofOpener? c with
    | none => simp [ho]
    | some b =>
      have h := scan_add p.length b [] (n + 1) cs
      simp only [ho, Option.bind_some]
      rw [show p.length + n + 1 = n + 1 + p.length by omega, h]
      simp only [Nat.add_comm]

/-- An answer inside the front part of a text is the answer of the front part. -/
theorem findClosing_of_append {t s : Text} {n j : Nat}
    (h : findClosing (t ++ s) (n : Int) = some j) (hj : j < t.length) :
    findClosing t (n : Int) = some j := by
  obtain ⟨b, cs, hd, hs⟩ := findClosing_eq_some_iff.1 h
  have hn := (bounds_of_findClosing h).1
  rw [List.drop_append_of_le_length (by omega)] at hd
  cases hc : t.drop n with
  | nil =>
    have := congrArg List.length hc
    simp only [List.length_drop, List.length_nil] at this
    omega
  | cons c cs' =>
    rw [hc, List.cons_append, List.cons.injEq] at hd
    obtain ⟨rfl, rfl⟩ := hd
    refine findClosing_eq_some_iff.2 ⟨b, cs', hc, scan_of_append hs ?_⟩
    have := congrArg List.length hc
    simp only [List.length_drop, List.length_cons] at this
    omega

/-- A text cut before the answer has none. -/
theorem findClosing_take {t : Text} {n j k : Nat} (h : findClosing t (n : Int) = some j)
    (hk : k ≤ j) : findClosing (t.take k) (n : Int) = none := by
  refine Option.eq_none_iff_forall_ne_some.2 fun i hi => ?_
  have hlt := (bounds_of_findClosing hi).2
  -- the answer of the front part would be the answer of the whole text
  have hwhole := findClosing_append_left hi (t.drop k)
  rw [List.take_append_drop, h, Option.some.injEq] at hwhole
  rw [List.length_take] at hlt
  omega

/-- **Bracket matching is local**: a bracket closes at an index of a text if and only if it does so
at the same place of that text with any other text in front and any behind; and a front part of
the text that stops short of the closer, in the middle of an escape or of a group or not, has no
closer for it. -/
theorem findClosing_local (p t s : Text) (n j : Nat) :
    (findClosing t (n : Int) = some j ↔
      findClosing (p ++ t ++ s) ((p.length + n : Nat) : Int) = some (p.length + j) ∧
        j < t.length) ∧
    (findClosing t (n : Int) = some j → ∀ front, front <+: t.take (j + 1) →
      front ≠ t.take (j + 1) → findClosing front (n : Int) = none) := by
  have hmoved : findClosing (p ++ t ++ s) ((p.length + n : Nat) : Int) = some (p.length + j) ↔
      findClosing (t ++ s) (n : Int) = some j := by
    rw [List.append_assoc, findClosing_append_right, Option.map_eq_some_iff]
    constructor
    · rintro ⟨k, hk, heq⟩
      rwa [Nat.add_left_cancel heq] at hk
    · exact fun h => ⟨j, h, rfl⟩
  refine ⟨⟨fun h => ?_, fun ⟨h, hj⟩ => ?_⟩, fun h front hfront hne => ?_⟩
  · exact ⟨hmoved.2 (findClosing_append_left h s), (bounds_of_findClosing h).2⟩
  · exact findClosing_of_append (hmoved.1 h) hj
  · have hshort : front.length ≤ j := by
      refine Nat.le_of_not_lt fun hlong => hne (hfront.eq_of_length_le ?_)
      rw [List.length_take]
      omega
    have hcut : front = t.take front.length :=
      List.prefix_iff_eq_take.1 (hfront.trans (List.take_prefix _ _))
    rw [hcut]
    exact findClosing_take h hshort

/-- A group with an escape and another group in it, behind a backslash and before two closers;
and the group cut in the middle of its escape. -/
theorem findClosing_local_of_escape :
    let p := Text.ofString "x\\"
    let t := Text.ofString "a(b\x7bc)\\)\x7d)d"
    let s := Text.ofString "))"
    let front := Text.ofString "a(b\x7bc)\\"
    (findClosing t ((1 : Nat) : Int) = some 9 ∧ front <+: t.take (9 + 1) ∧
      front ≠ t.take (9 + 1)) ∧
    findClosing (p ++ t ++ s) ((p.length + 1 : Nat) : Int) = some (p.length + 9) ∧
    findClosing front ((1 : Nat) : Int) = none := by
  intro p t s front
  have ht : findClosing t ((1 : Nat) : Int) = some 9 := by decide +kernel
  have hprefix : front <+: t.take (9 + 1) := by decide +kernel
  have hne : front ≠ t.take (9 + 1) := by decide +kernel
  obtain ⟨hiff, hfront⟩ := findClosing_local p t s 1 9
  exact ⟨⟨ht, hprefix, hne⟩, (hiff.1 ht).1, hfront ht front hprefix hne⟩

/-! ## neutral texts -/

/-- A text that the scan passes over as a whole inside a bracket, whatever is open around it and
whatever follows. -/
def NeutralIn (b : Bracket) (t : Text) : Prop :=
  ∀ outer i rest, scan b outer i (t ++ rest) = scan b outer (i + t.length) rest

/-- A text that the scan passes over as a whole, whatever is open and whatever follows. -/
def Neutral (t : Text) : Prop :=
  ∀ inner outer i rest, scan inner outer i (t ++ rest) = scan inner outer (i + t.length) rest

theorem Neutral.inside {t : Text} (h : Neutral t) (b : Bracket) : NeutralIn b t := h b

theorem neutral_nil : Neutral [] := fun _ _ _ _ => rfl

theorem NeutralIn.append {b : Bracket} {s t : Text} (hs : NeutralIn b s) (ht : NeutralIn b t) :
    NeutralIn b (s ++ t) := by
  intro outer i rest
  rw [List.append_assoc, hs, ht, List.length_append, Nat.add_assoc]

theorem Neutral.append {s t : Text} (hs : Neutral s) (ht : Neutral t) : Neutral (s ++ t) :=
  fun b => (hs.inside b).append (ht.inside b)

/-- A backslash and the character behind it are neutral together. -/
theorem neutral_escaped (c : Char) : Neutral [escape, c] :=
  fun inner outer i rest => scan_escape_cons inner outer i c rest

/-- A character that is no backslash, opens nothing and does not close the bracket around it is
neutral there. -/
theorem neutralIn_singleton {b : Bracket} {c : Char} (he : c ≠ escape) (hc : c ≠ b.closer)
    (ho : ofOpener? c = none) : NeutralIn b [c] :=
  fun outer i rest => scan_other he hc ho outer i rest

/-- A character that is no bracket and no backslash is neutral. -/
theorem neutral_singleton {c : Char} (he : c ≠ escape) (hc : ∀ b : Bracket, c ≠ b.closer)
    (ho : ofOpener? c = none) : Neutral [c] :=
  fun b => neutralIn_singleton he (hc b) ho

/-- A bracket around a text that is neutral in it is neutral everywhere. -/
theorem neutral_group (b : Bracket) {t : Text} (ht : NeutralIn b t) :
    Neutral (b.opener :: (t ++ [b.closer])) := by
  intro inner outer i rest
  rw [List.cons_append, List.append_assoc, scan_opener, ht, List.singleton_append,
    scan_closer_cons, List.length_cons, List.length_append, List.length_singleton]
  congr 1
  omega

/-- The bracket that opens before a text neutral in it closes right behind it. -/
theorem findClosing_neutral (b : Bracket) {t : Text} (ht : NeutralIn b t) (p s : Text) :
    findClosing (p ++ b.opener :: (t ++ b.closer :: s)) (p.length : Int) =
      some (p.length + 1 + t.length) := by
  refine findClosing_eq_some_iff.2 ⟨b, t ++ b.closer :: s, ?_, ?_⟩
  · rw [List.drop_left]
  · rw [ht, scan_closer_nil]

end TextMacros.Bracket
