import TextMacros.Expansion
import TextMacros.Proofs.TokenTree.Basic

/-!
# TextMacros.Proofs.TokenTree.Meaning

What a tree means, by recursion on its structure.

A `Glossary` gives trees as values to names.  The names are ranked, and the value of a name
holds names of smaller rank only, so that meaning can be said by recursion:

```text
meaning c                     =  c
meaning $(name), $(name=t)    =  meaning (value of name)      if there is one
meaning $(name=t)             =  meaning (t trimmed)          if there is none
meaning $(name)               =  $(name)                      if there is none
```

The default is trimmed as it is written; blanks at the ends of what it comes to mean stay.

Meaning goes into a value, where the greatest rank sinks, or into a part, where no name is new
and the text is shorter.  `exists_glossary` says that nothing is asked of the values of the
names but that they are written trees and can be ranked (`Ranked`).
-/

namespace TextMacros

/-- Trees as values of names, which do not refer to one another in a circle. -/
structure Glossary where
  /-- The value of a name, if it has one. -/
  value? : Text → Option TokenTree
  /-- A number for each name. -/
  rank : Text → Nat
  /-- What is in the value of a name has a smaller number than the name. -/
  rank_lt : ∀ {name value}, value? name = some value → ∀ m ∈ value.names, rank m < rank name

/-- Texts as values of names, all of them written trees, with the names in a value ranked below the
name it is for. -/
def Ranked (value? : Text → Option Text) (rank : Text → Nat) : Prop :=
  ∀ name value, value? name = some value →
    ∃ t : TokenTree, t.text = value ∧ ∀ m ∈ t.names, rank m < rank name

namespace Glossary

/-- The rules by which the written trees are the values. -/
def rules (g : Glossary) : Rules :=
  ⟨fun name => (g.value? name).map TokenTree.text, defaultName.isMatch⟩

theorem value?_rules (g : Glossary) (name : Text) :
    g.rules.value? name = (g.value? name).map TokenTree.text := rfl

/-- Values that are written trees and can be ranked make a glossary. -/
theorem exists_glossary {value? : Text → Option Text} {rank : Text → Nat}
    (h : Ranked value? rank) : ∃ g : Glossary, g.rules = ⟨value?, defaultName.isMatch⟩ := by
  have htree : ∀ name, ∃ o : Option TokenTree, o.map TokenTree.text = value? name ∧
      ∀ t, o = some t → ∀ m ∈ t.names, rank m < rank name := by
    intro name
    cases hvalue : value? name with
    | none => exact ⟨none, rfl, fun t ht => nomatch ht⟩
    | some value =>
      obtain ⟨t, rfl, hrank⟩ := h name value hvalue
      refine ⟨some t, rfl, fun s hs => ?_⟩
      obtain rfl := Option.some.inj hs
      exact hrank
  obtain ⟨tree, hchoice⟩ := Classical.axiomOfChoice htree
  refine ⟨⟨tree, rank, fun {name value} hv => (hchoice name).2 value hv⟩, ?_⟩
  rw [rules, Rules.mk.injEq]
  exact ⟨funext fun name => (hchoice name).1, rfl⟩

/-- The glossary of some pairs of a name and its value. -/
def ofPairs (pairs : List (Text × TokenTree)) (rank : Text → Nat)
    (h : ∀ p ∈ pairs, ∀ m ∈ p.2.names, rank m < rank p.1) : Glossary where
  value? name := pairs.lookup name
  rank := rank
  rank_lt := by
    intro name value hv
    obtain ⟨_, _, rfl, -⟩ := List.lookup_eq_some_iff.1 hv
    exact h (name, value) (by simp)

/-! ## the measure -/

/-- The least number above the ranks of the names in a tree. -/
def height (g : Glossary) (t : TokenTree) : Nat :=
  (t.names.map fun name => g.rank name + 1).foldr max 0

theorem height_le_iff {g : Glossary} {t : TokenTree} {k : Nat} :
    g.height t ≤ k ↔ ∀ name ∈ t.names, g.rank name < k := by
  rw [height]
  induction t.names with
  | nil => simp
  | cons name names ih =>
    rw [List.map_cons, List.foldr_cons, Nat.max_le, ih, List.forall_mem_cons]
    rfl

theorem rank_lt_height {g : Glossary} {t : TokenTree} {name : Text} (h : name ∈ t.names) :
    g.rank name < g.height t :=
  height_le_iff.1 (Nat.le_refl _) name h

/-- No name is new in a part. -/
theorem height_mono {g : Glossary} {s t : TokenTree} (h : s.names ⊆ t.names) :
    g.height s ≤ g.height t :=
  height_le_iff.2 fun _ hmem => rank_lt_height (h hmem)

/-- A value is lower than whatever holds its name. -/
theorem height_value_lt {g : Glossary} {t value : TokenTree} {name : Text}
    (hv : g.value? name = some value) (hmem : name ∈ t.names) : g.height value < g.height t :=
  Nat.lt_of_le_of_lt (height_le_iff.2 (g.rank_lt hv)) (rank_lt_height hmem)

/-- The measure by which meaning goes down: first the height, then the length. -/
def Below (g : Glossary) (s t : TokenTree) : Prop :=
  Prod.Lex (· < ·) (· < ·) (g.height s, s.text.length) (g.height t, t.text.length)

theorem below_value {g : Glossary} {t value : TokenTree} {name : Text}
    (hv : g.value? name = some value) (hmem : name ∈ t.names) : g.Below value t :=
  .left _ _ (height_value_lt hv hmem)

theorem below_part {g : Glossary} {s t : TokenTree} (hnames : s.names ⊆ t.names)
    (hlength : s.text.length < t.text.length) : g.Below s t := by
  rcases Nat.lt_or_eq_of_le (height_mono (g := g) hnames) with hlt | heq
  · exact .left _ _ hlt
  · rw [Below, heq]
    exact .right _ hlength

/-! ## meaning -/

/-- What a tree means. -/
def meaning (g : Glossary) : TokenTree → Text
  | .nil => []
  | .literal c rest => c.1 :: g.meaning rest
  | .use b name rest =>
    (match _h : g.value? name.1 with
      | some value => g.meaning value
      | none => (TokenTree.use b name .nil).text) ++ g.meaning rest
  | .useOr _ name default rest =>
    (match _h : g.value? name.1 with
      | some value => g.meaning value
      | none => g.meaning default.trim) ++ g.meaning rest
termination_by t => (g.height t, t.text.length)
decreasing_by
  · exact below_part (List.Subset.refl _) (Nat.lt_succ_self _)
  · exact below_value _h List.mem_cons_self
  · refine below_part (List.subset_cons_self _ _) ?_
    simp only [TokenTree.text, List.length_cons, List.length_append]
    omega
  · exact below_value _h List.mem_cons_self
  · have hlength := default.length_text_trim_le
    refine below_part ?_ ?_
    · rw [default.names_trim, TokenTree.names]
      exact List.subset_cons_of_subset _ (List.subset_append_left _ _)
    · simp only [TokenTree.text, List.length_cons, List.length_append]
      omega
  · refine below_part (List.subset_cons_of_subset _ (List.subset_append_right _ _)) ?_
    simp only [TokenTree.text, List.length_cons, List.length_append]
    omega

section

variable {g : Glossary} {b : Bracket} {name : Name} {default rest value : TokenTree}

theorem meaning_use_of_value (h : g.value? name.1 = some value) :
    g.meaning (.use b name rest) = g.meaning value ++ g.meaning rest := by
  rw [meaning]
  split
  next v hv => rw [Option.some.inj (h.symm.trans hv)]
  next hv => rw [h] at hv; contradiction

theorem meaning_use_of_none (h : g.value? name.1 = none) :
    g.meaning (.use b name rest) =
      '$' :: b.opener :: (name.1 ++ b.closer :: g.meaning rest) := by
  rw [meaning]
  split
  next v hv => rw [h] at hv; contradiction
  next hv => simp only [TokenTree.text, List.cons_append, List.append_assoc, List.nil_append]

theorem meaning_useOr_of_value (h : g.value? name.1 = some value) :
    g.meaning (.useOr b name default rest) = g.meaning value ++ g.meaning rest := by
  rw [meaning]
  split
  next v hv => rw [Option.some.inj (h.symm.trans hv)]
  next hv => rw [h] at hv; contradiction

theorem meaning_useOr_of_none (h : g.value? name.1 = none) :
    g.meaning (.useOr b name default rest) = g.meaning default.trim ++ g.meaning rest := by
  rw [meaning]
  split
  next v hv => rw [h] at hv; contradiction
  next hv => rfl

end

end Glossary

end TextMacros
