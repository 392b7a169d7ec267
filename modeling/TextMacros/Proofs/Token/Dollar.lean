import TextMacros.Token

/-!
# TextMacros.Proofs.Token.Dollar

Which dollars of a text can start a token, said without a search.

`UnescapedAt t i` looks at two characters only: the one at `i` is a `$`, and the one before it
is no backslash; `EscapedAt t i` is the case in which it is one.  Searching is finding the first
unescaped index:

* `nextDollar_eq_iff`: the answer of a search is the first unescaped dollar from its start on;
* `nextDollar_skip`: a search may start behind anything that holds no such dollar.

Whether a dollar is escaped depends on one character of context, so joining two texts can only
change it at the seam.  A text that is `Inert` has no unescaped dollar and leaves none of what
follows escaped; in front of another text it only moves what a search finds
(`nextDollar_append_right`), and its escapes are removed on their own (`unescape_append`).
-/

namespace TextMacros

variable {a b t : Text} {i j n : Nat}

/-! ## unescaped dollars -/

/-- Whether index `i` of a text holds a `$` that has no backslash right before it. -/
def UnescapedAt (t : Text) (i : Nat) : Prop :=
  t[i]? = some '$' ∧ (i = 0 ∨ t[i - 1]? ≠ some Bracket.escape)

instance (t : Text) (i : Nat) : Decidable (UnescapedAt t i) :=
  inferInstanceAs (Decidable (_ ∧ _))

theorem UnescapedAt.lt_length (h : UnescapedAt t i) : i < t.length :=
  (List.getElem?_eq_some_iff.1 h.1).1

/-- Text put behind changes nothing. -/
theorem unescapedAt_append_left (hi : i < a.length) :
    UnescapedAt (a ++ b) i ↔ UnescapedAt a i := by
  rw [UnescapedAt, UnescapedAt, List.getElem?_append_left hi,
    List.getElem?_append_left (show i - 1 < a.length by omega)]

/-- Text put in front that does not end in a backslash moves the unescaped dollars. -/
theorem unescapedAt_append_right (ha : a.getLast? ≠ some Bracket.escape) :
    UnescapedAt (a ++ b) (a.length + i) ↔ UnescapedAt b i := by
  rw [UnescapedAt, UnescapedAt, List.getElem?_append_right (Nat.le_add_right _ _),
    Nat.add_sub_cancel_left]
  refine and_congr_right fun _ => ?_
  cases i with
  | zero =>
    simp only [Nat.add_zero, true_or, iff_true]
    -- the character before the seam is the last one of `a`, if there is one
    rcases Nat.eq_zero_or_pos a.length with h0 | hpos
    · exact .inl h0
    · right
      rw [List.getElem?_append_left (by omega), ← List.getLast?_eq_getElem?]
      exact ha
  | succ i =>
    rw [show a.length + (i + 1) - 1 = a.length + i by omega,
      List.getElem?_append_right (Nat.le_add_right _ _), Nat.add_sub_cancel_left]
    simp

/-! ## escaped dollars -/

/-- Whether index `i` of a text holds a `$` that has a backslash right before it. -/
def EscapedAt (t : Text) (i : Nat) : Prop :=
  t[i]? = some '$' ∧ 0 < i ∧ t[i - 1]? = some Bracket.escape

instance (t : Text) (i : Nat) : Decidable (EscapedAt t i) :=
  inferInstanceAs (Decidable (_ ∧ _))

theorem EscapedAt.lt_length (h : EscapedAt t i) : i < t.length :=
  (List.getElem?_eq_some_iff.1 h.1).1

theorem not_escapedAt_zero (t : Text) : ¬ EscapedAt t 0 := fun h => Nat.lt_irrefl 0 h.2.1

theorem escapedAt_succ :
    EscapedAt t (i + 1) ↔ t[i + 1]? = some '$' ∧ t[i]? = some Bracket.escape := by
  simp only [EscapedAt, Nat.succ_pos, true_and, Nat.add_sub_cancel]

theorem EscapedAt.cons {c : Char} (h : EscapedAt t i) : EscapedAt (c :: t) (i + 1) := by
  obtain ⟨hget, hpos, hback⟩ := h
  refine escapedAt_succ.2 ⟨hget, ?_⟩
  obtain ⟨k, rfl⟩ := Nat.exists_eq_add_of_lt hpos
  rw [Nat.add_sub_cancel] at hback
  exact hback

/-- A dollar is escaped if the text before it ends in a backslash. -/
theorem escapedAt_append {a b : Text} :
    EscapedAt (a ++ b) a.length ↔ b.head? = some '$' ∧ a.getLast? = some Bracket.escape := by
  rw [EscapedAt, List.getElem?_append_right (Nat.le_refl _), Nat.sub_self, List.head?_eq_getElem?]
  refine and_congr_right fun _ => ?_
  cases a with
  | nil => simp
  | cons c cs =>
    rw [List.getElem?_append_left (by simp), ← List.getLast?_eq_getElem?]
    simp only [List.length_cons, Nat.succ_pos, true_and]

/-! ## searching -/

/-- What a search from index `n` on has to answer: the first unescaped dollar from there on, or
nothing if there is none. -/
def FirstUnescaped (t : Text) (n : Nat) : Option Nat → Prop
  | some j => n ≤ j ∧ UnescapedAt t j ∧ ∀ k, n ≤ k → k < j → ¬ UnescapedAt t k
  | none => ∀ k, n ≤ k → ¬ UnescapedAt t k

/-- There is one answer only. -/
theorem FirstUnescaped.unique {o p : Option Nat} (ho : FirstUnescaped t n o)
    (hp : FirstUnescaped t n p) : o = p := by
  cases o with
  | none =>
    cases p with
    | none => rfl
    | some k => exact absurd hp.2.1 (ho k hp.1)
  | some j =>
    cases p with
    | none => exact absurd ho.2.1 (hp j ho.1)
    | some k =>
      rcases Nat.lt_trichotomy j k with hlt | heq | hgt
      · exact absurd ho.2.1 (hp.2.2 j ho.1 hlt)
      · rw [heq]
      · exact absurd hp.2.1 (ho.2.2 k hp.1 hgt)

/-- A search may start behind anything that holds no unescaped dollar. -/
theorem FirstUnescaped.skip {m : Nat} {o : Option Nat} (ho : FirstUnescaped t m o) (hnm : n ≤ m)
    (h : ∀ k, n ≤ k → k < m → ¬ UnescapedAt t k) : FirstUnescaped t n o := by
  have hall : ∀ k, n ≤ k → (m ≤ k → ¬ UnescapedAt t k) → ¬ UnescapedAt t k := by
    intro k hk hm
    rcases Nat.lt_or_ge k m with hlt | hge
    · exact h k hk hlt
    · exact hm hge
  cases o with
  | none => exact fun k hk => hall k hk (ho k)
  | some j =>
    refine ⟨Nat.le_trans hnm ho.1, ho.2.1, fun k hk hlt => ?_⟩
    exact hall k hk fun hm => ho.2.2 k hm hlt

/-- The scan for a dollar does so from any index of a text on. -/
theorem firstUnescaped_dollarFrom (t : Text) (i : Nat) :
    FirstUnescaped t i
      (dollarFrom (i != 0 && t[i - 1]? == some Bracket.escape) i (t.drop i)) := by
  induction hd : t.drop i generalizing i with
  | nil =>
    intro k hk h
    have := h.lt_length
    have := List.drop_eq_nil_iff.1 hd
    omega
  | cons c cs ih =>
    have hc : t[i]? = some c := by
      have := congrArg List.head? hd
      rwa [List.head?_drop] at this
    have hcs : t.drop (i + 1) = cs := by
      rw [← List.drop_drop, hd, List.drop_one, List.tail_cons]
    have hesc : (c == Bracket.escape) = (i + 1 != 0 && t[i + 1 - 1]? == some Bracket.escape) := by
      simp [hc]
    by_cases hi : UnescapedAt t i
    · -- the dollar at `i` itself
      obtain rfl : c = '$' := Option.some.inj (hc.symm.trans hi.1)
      have hyes : (i != 0 && t[i - 1]? == some Bracket.escape) = false := by
        rw [Bool.and_eq_false_iff, bne_eq_false_iff_eq, beq_eq_false_iff_ne]
        exact hi.2
      rw [dollarFrom, hyes, if_pos (by simp)]
      exact ⟨Nat.le_refl i, hi, fun k hk hlt => absurd hlt (Nat.not_lt.2 hk)⟩
    · have hno : ¬ (c = '$' && !(i != 0 && t[i - 1]? == some Bracket.escape)) = true := by
        intro h
        rw [Bool.and_eq_true, decide_eq_true_eq, Bool.not_eq_true', Bool.and_eq_false_iff,
          bne_eq_false_iff_eq, beq_eq_false_iff_ne] at h
        exact hi ⟨h.1 ▸ hc, h.2⟩
      rw [dollarFrom, if_neg hno, hesc]
      refine (ih (i + 1) hcs).skip (Nat.le_succ i) fun k hk hlt => ?_
      obtain rfl : k = i := by omega
      exact hi

theorem nextDollar_eq_iff {o : Option Nat} :
    nextDollar t (n : Int) = o ↔ FirstUnescaped t n o := by
  have h : FirstUnescaped t n (nextDollar t (n : Int)) := by
    simp only [nextDollar, Text.startIndex_ofNat]
    exact firstUnescaped_dollarFrom t n
  exact ⟨fun ho => ho ▸ h, fun ho => h.unique ho⟩

/-- A search from any position finds the first unescaped dollar from the index that it means. -/
theorem firstUnescaped_of_nextDollar {position : Int} (h : nextDollar t position = some j) :
    FirstUnescaped t (Text.startIndex t.length position) (some j) := by
  rw [← nextDollar_eq_iff, ← h]
  simp only [nextDollar, Text.startIndex_ofNat]

/-- What a search finds is an unescaped dollar, wherever the search starts. -/
theorem unescapedAt_of_nextDollar {position : Int} (h : nextDollar t position = some j) :
    UnescapedAt t j :=
  (firstUnescaped_of_nextDollar h).2.1

/-- A search may start behind anything that holds no unescaped dollar. -/
theorem nextDollar_skip {m : Nat} (hnm : n ≤ m)
    (h : ∀ k, n ≤ k → k < m → ¬ UnescapedAt t k) :
    nextDollar t (n : Int) = nextDollar t (m : Int) :=
  nextDollar_eq_iff.2 ((nextDollar_eq_iff.1 rfl).skip hnm h)

/-- Text put behind does not change what a search finds. -/
theorem nextDollar_append_left (h : nextDollar a (n : Int) = some j) (b : Text) :
    nextDollar (a ++ b) (n : Int) = some j := by
  obtain ⟨hn, hj, hfirst⟩ := nextDollar_eq_iff.1 h
  have hlt := hj.lt_length
  refine nextDollar_eq_iff.2 ⟨hn, (unescapedAt_append_left hlt).2 hj, fun k hk hkj => ?_⟩
  rw [unescapedAt_append_left (Nat.lt_trans hkj hlt)]
  exact hfirst k hk hkj

/-- Behind a text that does not end in a backslash, a search finds what it finds in the rest. -/
theorem nextDollar_append_right (ha : a.getLast? ≠ some Bracket.escape) (b : Text) (n : Nat) :
    nextDollar (a ++ b) ((a.length + n : Nat) : Int) =
      (nextDollar b (n : Int)).map (a.length + ·) := by
  have hseam : ∀ k, a.length + n ≤ k → (∀ d, k = a.length + d → n ≤ d → ¬ UnescapedAt b d) →
      ¬ UnescapedAt (a ++ b) k := by
    intro k hk hb
    obtain ⟨d, rfl⟩ := Nat.exists_eq_add_of_le (Nat.le_trans (Nat.le_add_right _ n) hk)
    rw [unescapedAt_append_right ha]
    exact hb d rfl (Nat.le_of_add_le_add_left hk)
  have hb := nextDollar_eq_iff.1 (rfl : nextDollar b (n : Int) = _)
  refine nextDollar_eq_iff.2 ?_
  generalize nextDollar b (n : Int) = o at hb ⊢
  cases o with
  | none => exact fun k hk => hseam k hk fun d _ hd => hb d hd
  | some j =>
    refine ⟨Nat.add_le_add_left hb.1 _, (unescapedAt_append_right ha).2 hb.2.1, ?_⟩
    intro k hk hlt
    refine hseam k hk fun d hkd hd => hb.2.2 d hd ?_
    rw [hkd] at hlt
    exact Nat.lt_of_add_lt_add_left hlt

/-! ## inert texts -/

/-- A text in which every `$` has a backslash right before it, and which does not end in a
backslash: nothing in it starts a token, and nothing behind it is escaped by it. -/
structure Inert (t : Text) : Prop where
  /-- Every dollar is escaped. -/
  escaped : ∀ i, ¬ UnescapedAt t i
  /-- The text does not end in a backslash. -/
  getLast?_ne : t.getLast? ≠ some Bracket.escape

theorem inert_iff :
    Inert t ↔ (∀ i < t.length, ¬ UnescapedAt t i) ∧ t.getLast? ≠ some Bracket.escape :=
  ⟨fun h => ⟨fun i _ => h.escaped i, h.getLast?_ne⟩,
    fun h => ⟨fun i hi => h.1 i hi.lt_length hi, h.2⟩⟩

instance (t : Text) : Decidable (Inert t) := decidable_of_iff _ inert_iff.symm

/-- A character that is no dollar and no backslash is inert. -/
theorem inert_singleton {c : Char} (hd : c ≠ '$') (he : c ≠ Bracket.escape) : Inert [c] := by
  refine ⟨fun i h => hd ?_, fun h => he (Option.some.inj h)⟩
  have hi : i = 0 := Nat.lt_one_iff.1 h.lt_length
  have hget := h.1
  rw [hi] at hget
  exact Option.some.inj hget

/-- A text without dollars that does not end in a backslash is inert. -/
theorem inert_of_noDollar (h : '$' ∉ t) (hlast : t.getLast? ≠ some Bracket.escape) : Inert t :=
  ⟨fun _ hi => h (List.mem_of_getElem? hi.1), hlast⟩

theorem inert_nil : Inert [] := inert_of_noDollar List.not_mem_nil (by simp)

/-- A text that is inert from an index on: a search from there finds nothing in it, and nothing
behind it is escaped by it. -/
structure InertFrom (n : Nat) (t : Text) : Prop where
  /-- The index is in the text or right behind it. -/
  le_length : n ≤ t.length
  /-- Every dollar from there on is escaped. -/
  escaped : ∀ i, n ≤ i → ¬ UnescapedAt t i
  /-- The text does not end in a backslash. -/
  getLast?_ne : t.getLast? ≠ some Bracket.escape

theorem Inert.inertFrom (h : Inert t) (hn : n ≤ t.length) : InertFrom n t :=
  ⟨hn, fun i _ => h.escaped i, h.getLast?_ne⟩

/-- A text without dollars from an index on that does not end in a backslash is inert from there. -/
theorem inertFrom_of_noDollar (hn : n ≤ t.length) (h : '$' ∉ t.drop n)
    (hlast : t.getLast? ≠ some Bracket.escape) : InertFrom n t := by
  refine ⟨hn, fun i hi hun => h ?_, hlast⟩
  obtain ⟨d, rfl⟩ := Nat.exists_eq_add_of_le hi
  have hget := hun.1
  rw [← List.getElem?_drop] at hget
  exact List.mem_of_getElem? hget

/-- An inert text put behind keeps a text inert from an index on. -/
theorem InertFrom.append (ha : InertFrom n a) (hb : Inert b) : InertFrom n (a ++ b) := by
  refine ⟨?_, fun i hi => ?_, ?_⟩
  · have := ha.le_length
    rw [List.length_append]
    omega
  · rcases Nat.lt_or_ge i a.length with hlt | hge
    · rw [unescapedAt_append_left hlt]
      exact ha.escaped i hi
    · obtain ⟨d, rfl⟩ := Nat.exists_eq_add_of_le hge
      rw [unescapedAt_append_right ha.getLast?_ne]
      exact hb.escaped d
  · rw [List.getLast?_append]
    cases hlast : b.getLast? with
    | none => simpa using ha.getLast?_ne
    | some c => simpa [hlast] using hb.getLast?_ne

/-- The text before an unescaped dollar does not end in a backslash. -/
theorem UnescapedAt.getLast?_take_ne (h : UnescapedAt t i) :
    (t.take i).getLast? ≠ some Bracket.escape := by
  have hlt := h.lt_length
  rw [List.getLast?_take]
  rcases h.2 with rfl | hne
  · simp
  · split
    · simp
    · rw [List.getElem?_eq_getElem (by omega), Option.some_or]
      rwa [List.getElem?_eq_getElem (by omega)] at hne

/-- The text before the first unescaped dollar is inert. -/
theorem inert_take (h : nextDollar t 0 = some i) : Inert (t.take i) := by
  obtain ⟨-, hi, hfirst⟩ :=
    nextDollar_eq_iff.1 (show nextDollar t ((0 : Nat) : Int) = some i from h)
  refine ⟨fun k hk => ?_, hi.getLast?_take_ne⟩
  have hlt : k < (t.take i).length := hk.lt_length
  have hki : k < i := by
    rw [List.length_take] at hlt
    omega
  refine hfirst k (Nat.zero_le k) hki ?_
  rw [← List.take_append_drop i t]
  exact (unescapedAt_append_left hlt).2 hk

/-! ## removing escapes -/

theorem getLast?_ne_of_cons {c d : Char} {t : Text} (h : (c :: t).getLast? ≠ some d) :
    t.getLast? ≠ some d := by
  intro ht
  apply h
  rw [List.getLast?_cons, ht, Option.getD_some]

/-- Escapes are removed on both sides of a seam on their own, unless the seam splits one. -/
theorem unescape_append (ha : a.getLast? ≠ some Bracket.escape) (b : Text) :
    unescape (a ++ b) = unescape a ++ unescape b := by
  fun_induction unescape a with
  | case1 cs ih =>
    have hcs : cs.getLast? ≠ some Bracket.escape := getLast?_ne_of_cons (getLast?_ne_of_cons ha)
    rw [List.cons_append, List.cons_append, unescape, ih hcs, List.cons_append]
  | case2 c cs hno ih =>
    cases cs with
    | nil =>
      -- `c` is the last character, so it is no backslash
      have hc : c ≠ '\\' := fun h => ha (by simp [h, Bracket.escape])
      rw [List.singleton_append, unescape, unescape]
      · rfl
      · intro _ h _
        exact hc h
    | cons d ds =>
      have hds : (d :: ds).getLast? ≠ some Bracket.escape := by
        rwa [List.getLast?_cons_cons] at ha
      rw [List.cons_append, unescape, ih hds, List.cons_append]
      intro cs hc hd
      simp only [List.cons_append, List.cons.injEq] at hd
      exact hno ds hc (by rw [hd.1])
  | case3 => rfl

/-- A text without escaped dollars stays as it is. -/
theorem unescape_of_noEscaped (h : ∀ i, ¬ EscapedAt t i) : unescape t = t := by
  fun_induction unescape t with
  | case1 cs ih => exact absurd (escapedAt_succ.2 ⟨rfl, rfl⟩) (h 1)
  | case2 c cs _ ih => rw [ih fun i hi => h (i + 1) hi.cons]
  | case3 => rfl

theorem unescape_of_noDollar (h : '$' ∉ t) : unescape t = t :=
  unescape_of_noEscaped fun _ hi => h (List.mem_of_getElem? hi.1)

theorem unescape_of_noEscape (h : Bracket.escape ∉ t) : unescape t = t :=
  unescape_of_noEscaped fun _ hi => h (List.mem_of_getElem? hi.2.2)

/-- A backslash before a dollar goes, whatever else is around it. -/
theorem unescape_append_escaped {a b : Text} (ha : '$' ∉ a) (hb : '$' ∉ b) :
    unescape (a ++ Bracket.escape :: '$' :: b) = a ++ '$' :: b := by
  induction a with
  | nil =>
    rw [List.nil_append, Bracket.escape, unescape, unescape_of_noDollar hb]
    rfl
  | cons c cs ih =>
    have hcs : '$' ∉ cs := fun hmem => ha (List.mem_cons_of_mem c hmem)
    rw [List.cons_append, unescape, ih hcs]
    · rfl
    · -- no dollar follows `c`
      intro rest _ heq
      cases cs with
      | nil => simp [Bracket.escape] at heq
      | cons d ds =>
        obtain ⟨rfl, -⟩ := List.cons.inj heq
        exact hcs List.mem_cons_self

end TextMacros
