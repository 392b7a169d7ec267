import TextMacros.Proofs.Expansion.Steps

/-!
# TextMacros.Proofs.Expansion.NormalForm

What a settled expansion leaves behind.

A dollar is `MatchedAt` its index if a bracket opens behind it and closes somewhere.  The scan
goes from one matched dollar to the next and gives up at the first one that is not matched, so
that is how far it can reach.  A step that passes a token over moves the offset two characters
behind its dollar, and a step that puts something in moves it back to the front; either way
every dollar before the offset has been tried on the text as it is now (`Passed`), and nothing
could be put for it.  Main statement: `unresolvable_of_settled`, by which the text left at the
end holds no token within reach for which anything could be put.
-/

namespace TextMacros

variable {rules : Rules} {e f : Expansion}

/-- Whether the bracket behind the dollar at an index is there and closes. -/
def MatchedAt (t : Text) (i : Nat) : Prop :=
  (Bracket.findClosing t ((i + 1 : Nat) : Int)).isSome

instance (t : Text) (i : Nat) : Decidable (MatchedAt t i) :=
  inferInstanceAs (Decidable (_ = true))

theorem matchedAt_iff {t : Text} {i : Nat} :
    MatchedAt t i ↔ ∃ token, Token.at? t i = some token := by
  rw [MatchedAt, ← Option.isSome_iff_exists, Token.at?, Option.isSome_map]

namespace Expansion

/-- Every unescaped dollar before the offset starts a token for which nothing can be put. -/
def Passed (rules : Rules) (e : Expansion) : Prop :=
  ∀ i < e.offset, UnescapedAt e.text i →
    ∃ token, Token.at? e.text i = some token ∧ token.Unresolvable rules

theorem passed_start (rules : Rules) (text : Text) : Passed rules (start text) :=
  fun i hi => absurd hi (Nat.not_lt_zero i)

/-- Passing a token over adds its dollar to those passed, and no other. -/
theorem Passed.over {token : Token} (h : Passed rules e)
    (ht : Token.find? e.text e.offset = some token) (hu : token.Unresolvable rules) :
    Passed rules ⟨e.text, token.start + 2⟩ := by
  obtain ⟨hfirst, hat⟩ := Token.find?_eq_some_iff.1 ht
  intro i hi hun
  change i < token.start + 2 at hi
  rcases Nat.lt_or_ge i e.offset with hlt | hge
  · exact h i hlt hun
  · rcases Nat.lt_trichotomy i token.start with hbefore | rfl | hbehind
    · exact absurd hun (hfirst.2.2 i hge hbefore)
    · exact ⟨token, hat, hu⟩
    · obtain rfl : i = token.start + 1 := by omega
      exact absurd hun (Token.not_unescapedAt_succ hat)

/-- Each step keeps what has been passed up to date. -/
theorem Passed.step {s : Step} (h : Passed rules e) (hs : e.step? rules = some (s, f)) :
    Passed rules f := by
  obtain ⟨ht, hdue, rfl⟩ := step?_eq_some_iff.1 hs
  generalize s.action = action at hdue
  cases hdue with
  | skip name => exact h.over ht (.inl name)
  | leave name value default => exact h.over ht (.inr ⟨default, value⟩)
  | restart => exact passed_start rules _
  | value => exact passed_start rules _
  | default => exact passed_start rules _

end Expansion

/-- **Exhaustive resolution**: at the end of a settled expansion, every unescaped matched dollar
that has no unescaped unmatched one before it starts a token for which nothing can be put,
whatever was passed over, put in and laid open on the way. -/
theorem unresolvable_of_settled {text : Text} {bound : Int}
    (settled : (expand rules text bound).ending = .settled) {i : Nat}
    (unescaped : UnescapedAt (expand rules text bound).text i)
    (matched : MatchedAt (expand rules text bound).text i)
    (before : ∀ j < i, UnescapedAt (expand rules text bound).text j →
      MatchedAt (expand rules text bound).text j) :
    ∃ token, Token.at? (expand rules text bound).text i = some token ∧
      (rules.isName token.name = false ∨
        token.default? = none ∧ rules.value? token.name = none) := by
  obtain ⟨f, hsteps, htext, hnone⟩ := steps_of_settled settled
  have hpassed : f.Passed rules :=
    hsteps.induct (fun _ _ _ hs h => h.step hs) (Expansion.passed_start rules text)
  rw [htext] at unescaped matched before ⊢
  rcases Nat.lt_or_ge i f.offset with hlt | hge
  · exact hpassed i hlt unescaped
  · -- the scan from the offset on stopped at an unmatched dollar, which is `i` or before it
    have hnext := Expansion.step?_eq_none_iff.1 hnone
    obtain ⟨j, hj⟩ : ∃ j, nextDollar f.text (f.offset : Int) = some j := by
      refine Option.ne_none_iff_exists'.1 fun h => ?_
      exact nextDollar_eq_iff.1 h i hge unescaped
    have hfirst := nextDollar_eq_iff.1 hj
    have hji : j ≤ i := Nat.le_of_not_lt fun hlt => hfirst.2.2 i hge hlt unescaped
    have hjmatched : MatchedAt f.text j := by
      rcases Nat.lt_or_eq_of_le hji with hlt | rfl
      · exact before j hlt hfirst.2.1
      · exact matched
    obtain ⟨token, htoken⟩ := matchedAt_iff.1 hjmatched
    rw [Token.find?_eq_none_iff.1 hnext j hfirst] at htoken
    contradiction

/-- A value lays a token open, and behind an escaped dollar a token that is no name holds one
that has no value; the open bracket at the end comes too late to hide it. -/
theorem unresolvable_inside_skipped :
    let rules := Rules.ofPairs [(.ofString "A", .ofString "$(B)")]
    let run := expand rules (.ofString "$(A)\\$(A)$(1$(B))$(") 9
    (run.ending = .settled ∧ UnescapedAt run.text 12 ∧ MatchedAt run.text 12 ∧
      ∀ j < 12, UnescapedAt run.text j → MatchedAt run.text j) ∧
    ∃ token, Token.at? run.text 12 = some token ∧
      (rules.isName token.name = false ∨
        token.default? = none ∧ rules.value? token.name = none) := by
  intro rules run
  have settled : run.ending = .settled := by decide +kernel
  have unescaped : UnescapedAt run.text 12 := by decide +kernel
  have matched : MatchedAt run.text 12 := by decide +kernel
  have before : ∀ j < 12, UnescapedAt run.text j → MatchedAt run.text j := by decide +kernel
  exact ⟨⟨settled, unescaped, matched, before⟩,
    unresolvable_of_settled settled unescaped matched before⟩

end TextMacros
