import TextMacros.Proofs.Bracket.Locality

/-!
# TextMacros.Proofs.Bracket.Grammar

The matcher accepts exactly its grammar.

`Group`, `Item` and `Items` are the grammar of matched brackets as it is written:

```text
group b  ::=  opener b  items b  closer b
items b  ::=  (item b)*
item b   ::=  '\' any  |  group k  |  other     (other: no backslash, no opener, not closer b)
```

A group is neutral (`Group.neutral`), by one case for each way to make one; so the matcher finds
the end of every group.  The other way round, a scan with several brackets open reads what
closes them from the inside out: `Closing inner outer t` says so of a text, and every character
that a scan passes over goes into the items of the innermost bracket (`closing_of_scan`).

Main statement: `findClosing_iff_group`, by which the answers of the matcher are the ends of
groups, there is at most one, and it is missing only where no group ends.
-/

namespace TextMacros.Bracket

/-! ## the grammar -/

mutual

/-- A bracket with its closer, and any number of items between them. -/
inductive Group : Bracket → Text → Prop
  | mk {b : Bracket} {t : Text} (inside : Items b t) : Group b (b.opener :: (t ++ [b.closer]))

/-- What can stand inside a bracket. -/
inductive Item : Bracket → Text → Prop
  | escaped (b : Bracket) (c : Char) : Item b [escape, c]
  | group (b : Bracket) {k : Bracket} {t : Text} (whole : Group k t) : Item b t
  | other {b : Bracket} {c : Char} (escape : c ≠ escape) (opener : ofOpener? c = none)
      (closer : c ≠ b.closer) : Item b [c]

/-- Any number of items, one behind the other. -/
inductive Items : Bracket → Text → Prop
  | nil (b : Bracket) : Items b []
  | cons {b : Bracket} {s t : Text} (item : Item b s) (rest : Items b t) : Items b (s ++ t)

end

/-- What a group is made of. -/
theorem Group.exists_items {b : Bracket} {t : Text} (h : Group b t) :
    ∃ s, t = b.opener :: (s ++ [b.closer]) ∧ Items b s := by
  cases h with
  | @mk _ s inside => exact ⟨s, rfl, inside⟩

/-! ## groups are found -/

mutual

/-- The scan passes over a group as a whole, wherever it stands. -/
theorem Group.neutral {b : Bracket} {t : Text} : Group b t → Neutral t
  | .mk inside => neutral_group b inside.neutralIn

theorem Item.neutralIn {b : Bracket} {t : Text} : Item b t → NeutralIn b t
  | .escaped _ c => (neutral_escaped c).inside b
  | .group _ whole => whole.neutral.inside b
  | .other escape opener closer => neutralIn_singleton escape closer opener

theorem Items.neutralIn {b : Bracket} {t : Text} : Items b t → NeutralIn b t
  | .nil _ => neutral_nil.inside b
  | .cons item rest => item.neutralIn.append rest.neutralIn

end

/-! ## what is found is a group -/

/-- What closes several open brackets: items of the innermost one, its closer, and what closes
the others. -/
inductive Closing : Bracket → List Bracket → Text → Prop
  | last {b : Bracket} {t : Text} (inside : Items b t) : Closing b [] (t ++ [b.closer])
  | next {b k : Bracket} {outer : List Bracket} {t u : Text} (inside : Items b t)
      (rest : Closing k outer u) : Closing b (k :: outer) (t ++ b.closer :: u)

variable {inner next : Bracket} {outer : List Bracket} {s t : Text}

theorem Closing.length_pos (h : Closing inner outer t) : 0 < t.length := by
  cases h with
  | last => simp
  | next => simp only [List.length_append, List.length_cons]; omega

/-- An item in front is one more item of the innermost bracket. -/
theorem Closing.cons (item : Item inner s) (h : Closing inner outer t) :
    Closing inner outer (s ++ t) := by
  cases h with
  | last inside =>
    rw [← List.append_assoc]
    exact .last (.cons item inside)
  | next inside rest =>
    rw [← List.append_assoc]
    exact .next (.cons item inside) rest

/-- A bracket that opens and closes in front is a group among those items. -/
theorem Closing.opener {b : Bracket} (h : Closing b (inner :: outer) t) :
    Closing inner outer (b.opener :: t) := by
  cases h with
  | next inside rest =>
    have h' := rest.cons (.group inner (.mk inside))
    rwa [List.cons_append, List.append_assoc, List.singleton_append] at h'

/-- A scan that answers has read what closes the brackets open at its start. -/
theorem closing_of_scan {i j : Nat} (h : scan inner outer i t = some j) :
    ∃ w rest, t = w ++ rest ∧ Closing inner outer w ∧ i + w.length = j + 1 := by
  fun_induction scan inner outer i t with
  | case1 | case2 => simp at h
  | case3 inner outer i c cs ih =>
    obtain ⟨w, rest, rfl, hw, hlength⟩ := ih h
    refine ⟨[escape, c] ++ w, rest, rfl, hw.cons (.escaped inner c), ?_⟩
    rw [List.length_append, ← hlength, List.length_cons, List.length_singleton]
    omega
  | case4 inner i cs =>
    rw [Option.some.inj h]
    exact ⟨[] ++ [inner.closer], cs, rfl, .last (.nil inner), rfl⟩
  | case5 inner i cs next others _ ih =>
    obtain ⟨w, rest, rfl, hw, hlength⟩ := ih h
    refine ⟨[] ++ inner.closer :: w, rest, rfl, .next (.nil inner) hw, ?_⟩
    rw [List.nil_append, List.length_cons, ← hlength]
    omega
  | case6 inner outer i c cs he hc b hb ih =>
    obtain rfl := ofOpener?_eq_some_iff.1 hb
    obtain ⟨w, rest, rfl, hw, hlength⟩ := ih h
    refine ⟨b.opener :: w, rest, rfl, hw.opener, ?_⟩
    rw [List.length_cons, ← hlength]
    omega
  | case7 inner outer i c cs he hc ho ih =>
    obtain ⟨w, rest, rfl, hw, hlength⟩ := ih h
    refine ⟨[c] ++ w, rest, rfl, hw.cons (.other he ho hc), ?_⟩
    rw [List.length_append, ← hlength, List.length_singleton]
    omega

/-- What closes a single bracket makes a group with its opener. -/
theorem Closing.group (h : Closing inner [] t) : Group inner (inner.opener :: t) := by
  cases h with
  | last inside => exact .mk inside

/-! ## a position in a text -/

/-- What is found lies between a bracket and its closer. -/
theorem exists_ends_of_findClosing {text : Text} {n j : Nat}
    (h : findClosing text (n : Int) = some j) :
    ∃ b : Bracket, text[n]? = some b.opener ∧ text[j]? = some b.closer := by
  obtain ⟨b, cs, hdrop, hscan⟩ := findClosing_eq_some_iff.1 h
  obtain ⟨w, rest, rfl, hclosing, hlength⟩ := closing_of_scan hscan
  cases hclosing with
  | @last _ s inside =>
    have hj : j = n + (s.length + 1) := by
      rw [List.length_append, List.length_singleton] at hlength
      omega
    refine ⟨b, ?_, ?_⟩
    · rw [← List.head?_drop, hdrop, List.head?_cons]
    · rw [hj, ← List.getElem?_drop, hdrop, List.getElem?_cons_succ, List.append_assoc,
        List.getElem?_append_right (Nat.le_refl _), Nat.sub_self, List.singleton_append,
        List.getElem?_cons_zero]

/-- From a position of a text to an index, both included, stands a group. -/
structure GroupSpan (text : Text) (position : Int) (stop : Nat) (b : Bracket) : Prop where
  /-- The position is in the text. -/
  nonneg : 0 ≤ position
  lt_length : position < text.length
  /-- The bracket opens there. -/
  opens : text[position.toNat]? = some b.opener
  /-- The index is in the text. -/
  stop_lt : stop < text.length
  /-- What stands between them is a group. -/
  group : Group b ((text.take (stop + 1)).drop position.toNat)

theorem groupSpan_of_findClosing {text : Text} {n j : Nat}
    (h : findClosing text (n : Int) = some j) : ∃ b, GroupSpan text (n : Int) j b := by
  obtain ⟨hnj, hj⟩ := bounds_of_findClosing h
  obtain ⟨b, cs, hdrop, hscan⟩ := findClosing_eq_some_iff.1 h
  obtain ⟨w, rest, rfl, hclosing, hlength⟩ := closing_of_scan hscan
  have hopens : text[n]? = some b.opener := by
    rw [← List.head?_drop, hdrop, List.head?_cons]
  have hspan : (text.take (j + 1)).drop n = b.opener :: w := by
    have hw : j + 1 - n = (b.opener :: w).length := by
      rw [List.length_cons]
      omega
    rw [List.drop_take, hdrop, hw, ← List.cons_append, List.take_left]
  refine ⟨b, Int.natCast_nonneg n, by omega, hopens, hj, ?_⟩
  rw [Int.toNat_natCast, hspan]
  exact hclosing.group

theorem findClosing_of_groupSpan {text : Text} {position : Int} {j : Nat} {b : Bracket}
    (h : GroupSpan text position j b) : findClosing text position = some j := by
  obtain ⟨n, rfl⟩ := Int.eq_ofNat_of_zero_le h.nonneg
  obtain ⟨s, hspan, inside⟩ := h.group.exists_items
  rw [Int.toNat_natCast, List.drop_take] at hspan
  have hlength := congrArg List.length hspan
  simp only [List.length_take, List.length_drop, List.length_cons, List.length_append,
    List.length_nil] at hlength
  have hlt := h.stop_lt
  -- the group, and what stands behind it
  have hdrop : text.drop n = b.opener :: (s ++ b.closer :: text.drop (j + 1)) := by
    rw [← List.take_append_drop (j + 1 - n) (text.drop n), hspan, List.drop_drop,
      show n + (j + 1 - n) = j + 1 by omega, List.cons_append, List.append_assoc,
      List.singleton_append]
  refine findClosing_eq_some_iff.2 ⟨b, _, hdrop, ?_⟩
  rw [inside.neutralIn, scan_closer_nil]
  congr 1
  omega

/-- **The matcher accepts exactly its grammar**: an index closes the bracket at a position if and
only if a group stands between the two, at most one index does, and where the matcher finds
nothing there is none. -/
theorem findClosing_iff_group (text : Text) (position : Int) :
    (∀ j, findClosing text position = some j ↔ ∃ b, GroupSpan text position j b) ∧
    (∀ j k b c, GroupSpan text position j b → GroupSpan text position k c → j = k) ∧
    (findClosing text position = none ↔ ∀ j b, ¬ GroupSpan text position j b) := by
  have hiff : ∀ j, findClosing text position = some j ↔ ∃ b, GroupSpan text position j b := by
    intro j
    refine ⟨fun h => ?_, fun ⟨b, hb⟩ => findClosing_of_groupSpan hb⟩
    rcases Int.lt_or_le position 0 with hneg | hnonneg
    · rw [findClosing, if_pos hneg] at h
      contradiction
    · obtain ⟨n, rfl⟩ := Int.eq_ofNat_of_zero_le hnonneg
      exact groupSpan_of_findClosing h
  refine ⟨hiff, fun j k b c hj hk => ?_, ?_⟩
  · have h := (findClosing_of_groupSpan hj).symm.trans (findClosing_of_groupSpan hk)
    exact Option.some.inj h
  · rw [Option.eq_none_iff_forall_ne_some]
    refine forall_congr' fun j => ?_
    rw [← not_exists, ← hiff j, ne_eq]

/-- A round group that holds a curly one with a round closer in it, and escaped brackets of both
kinds. -/
theorem findClosing_iff_group_of_mixed :
    let text := Text.ofString "a(\x7b)\\(\x7db\\))("
    GroupSpan text 1 10 .round ∧ findClosing text 1 = some 10 ∧
      ∀ k c, GroupSpan text 1 k c → 10 = k := by
  intro text
  have hcurly : Group .curly ['{', ')', '\\', '(', '}'] :=
    .mk (.cons (s := [')']) (.other (by decide) (by decide) (by decide))
      (.cons (.escaped .curly '(') (.nil .curly)))
  have hround : Group .round ['(', '{', ')', '\\', '(', '}', 'b', '\\', ')', ')'] :=
    .mk (.cons (.group .round hcurly)
      (.cons (s := ['b']) (.other (by decide) (by decide) (by decide))
        (.cons (.escaped .round ')') (.nil .round))))
  have hspan : GroupSpan text 1 10 .round :=
    ⟨by decide, by decide, by decide, by decide, hround⟩
  obtain ⟨hiff, hunique, -⟩ := findClosing_iff_group text 1
  exact ⟨hspan, (hiff 10).2 ⟨.round, hspan⟩, fun k c hk => hunique 10 k .round c hspan hk⟩

-- an inner bracket that never closes, and a closer that is escaped
example : findClosing (.ofString "((a)") 0 = none ∧ findClosing (.ofString "(\\)") 0 = none := by
  decide

end TextMacros.Bracket
