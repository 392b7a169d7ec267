import Mathlib.Data.Set.Basic
import TextMacros.Proofs.Expansion.Steps

/-!
# TextMacros.Proofs.Expansion.Cycle

Names that keep one another going.

A set of names is `Cyclic` if the value of each starts with a token of another one of them;
whatever else stands in the values does not matter.  Once the first token of a text bears such
a name, the text never settles: the value takes the token's place, and the first token of the
value becomes the first token of the text (`Driven.step`), so every step asks for one more of
the names, until the budget is used up.  Main statement: `exceeded_of_cyclic`.
-/

namespace TextMacros

variable {rules : Rules} {names : Set Text}

/-- Names each of which has a value that starts with a token of another one of them. -/
structure Cyclic (rules : Rules) (names : Set Text) : Prop where
  /-- They are names. -/
  isName : ∀ name ∈ names, rules.isName name = true
  /-- The first token of each value leads on to another one. -/
  next : ∀ name ∈ names, ∃ v inner, rules.value? name = some v ∧
    Token.find? v 0 = some inner ∧ inner.name ∈ names ∧ inner.name ≠ name

/-- The next token, found from the front of the text, bears one of the names. -/
def Driven (names : Set Text) (e : Expansion) : Prop :=
  e.offset = 0 ∧ ∃ token, Token.find? e.text 0 = some token ∧ token.name ∈ names

/-- A step asks for one of the names, and then the next token bears one of them again. -/
theorem Driven.step {e : Expansion} (cyclic : Cyclic rules names) (h : Driven names e) :
    ∃ s f, e.step? rules = some (s, f) ∧ s.action.looksUp = true ∧ s.token.name ∈ names ∧
      Driven names f := by
  obtain ⟨hzero, token, ht, hmem⟩ := h
  obtain ⟨v, inner, hv, hinner, hnext, hne⟩ := cyclic.next token.name hmem
  have hrefers : refersTo token.name v = false := by
    rw [refersTo, hinner, Option.map_some, beq_eq_false_iff_ne]
    exact fun h => hne (Option.some.inj h)
  have hdue : Action.Due rules token (.splice v) :=
    .value (cyclic.isName token.name hmem) hv hrefers
  have hfind : Token.find? e.text e.offset = some token := by rw [hzero]; exact ht
  refine ⟨⟨token, .splice v⟩, _, Expansion.step?_eq_some_iff.2 ⟨hfind, hdue, rfl⟩, rfl, hmem,
    rfl, inner.shift token.start, ?_, hnext⟩
  exact find?_splice_zero ht hinner

/-- A run uses up its whole budget, and asks for one of the names in every step. -/
theorem Driven.run (cyclic : Cyclic rules names) (budget : Nat) {e : Expansion}
    (h : Driven names e) :
    (e.run rules budget).ending = .exceeded ∧ (e.run rules budget).lookups.length = budget ∧
      ∀ name ∈ (e.run rules budget).lookups, name ∈ names := by
  induction budget generalizing e with
  | zero => exact ⟨rfl, rfl, fun name hname => absurd hname List.not_mem_nil⟩
  | succ budget ih =>
    obtain ⟨s, f, hs, hlooks, hname, hf⟩ := h.step cyclic
    obtain ⟨hending, hlength, hall⟩ := ih hf
    rw [Expansion.run_of_step?_eq_some hs, Run.lookups_cons hlooks, Run.ending_cons,
      List.length_cons, hlength]
    refine ⟨hending, rfl, fun name hmem => ?_⟩
    rcases List.mem_cons.1 hmem with rfl | hmem
    · exact hname
    · exact hall name hmem

/-- **Cycles are always caught**: a text whose first token bears one of the names of a cycle
exceeds every bound, after one look-up more than the bound allows steps, all of them for names
of the cycle. -/
theorem exceeded_of_cyclic (cyclic : Cyclic rules names) {text : Text} {token : Token}
    (first : Token.find? text 0 = some token) (mem : token.name ∈ names) (bound : Int) :
    (∃ u, (expand rules text bound).result = .error u) ∧
      (0 ≤ bound → ((expand rules text bound).lookups.length : Int) = bound + 1) ∧
      ∀ name ∈ (expand rules text bound).lookups, name ∈ names := by
  have hdriven : Driven names (.start text) := ⟨rfl, token, first, mem⟩
  obtain ⟨hending, hlength, hall⟩ := hdriven.run cyclic (bound + 1).toNat
  refine ⟨⟨_, Run.result_eq_error_iff.2 ⟨hending, rfl⟩⟩, fun hbound => ?_, hall⟩
  rw [expand, hlength]
  omega

/-- Three names whose values hold other text, escapes, defaults and further tokens besides, and
a text that gives a default for the first of them. -/
theorem exceeded_of_three_cyclic :
    let rules := Rules.ofPairs [(['A'], .ofString "\\$(A) <$(B=1)>"), (['B'], .ofString "$(C)$(B)"),
      (['C'], .ofString "=$(A=$(X))")]
    let names : Set Text := {['A'], ['B'], ['C']}
    let text := Text.ofString "on $(A=off) off"
    (Cyclic rules names ∧ Token.find? text 0 = some ⟨['A'], some (.ofString "off"), 3, 10⟩) ∧
      (∃ u, (expand rules text 6).result = .error u) ∧
      ((0 : Int) ≤ 6 → ((expand rules text 6).lookups.length : Int) = 6 + 1) ∧
      ∀ name ∈ (expand rules text 6).lookups, name ∈ names := by
  intro rules names text
  have cyclic : Cyclic rules names := by
    refine ⟨?_, ?_⟩
    · rintro name (rfl | rfl | rfl) <;> decide +kernel
    · rintro name (rfl | rfl | rfl)
      · exact ⟨_, ⟨['B'], some ['1'], 7, 12⟩, rfl, by decide +kernel, .inr (.inl rfl), by decide⟩
      · exact ⟨_, ⟨['C'], none, 0, 3⟩, rfl, by decide +kernel, .inr (.inr rfl), by decide⟩
      · exact ⟨_, ⟨['A'], some (.ofString "$(X)"), 1, 9⟩, rfl, by decide +kernel, .inl rfl,
          by decide⟩
  have first : Token.find? text 0 = some ⟨['A'], some (.ofString "off"), 3, 10⟩ := by
    decide +kernel
  exact ⟨⟨cyclic, first⟩, exceeded_of_cyclic cyclic first (.inl rfl) 6⟩

end TextMacros
