import TextMacros.Proofs.Expansion.NormalForm
import TextMacros.Proofs.Token.Nesting

/-!
# TextMacros.Proofs.Token.Walk

The tokens that repeated searching comes to.

`Searched text offset tokens` says that searches from the offset on, each one two characters
behind the dollar found before, find these tokens and then nothing more.  Skipping two characters
loses no dollar, since the second of them is a bracket; and it hides no escape, since every search
looks back in the whole text.  So a search goes on from one unescaped dollar to the next, inside
tokens and outside, and stops for good at the first one whose bracket is missing or never closes:

* `reachedFrom_iff`: what one search reaches, and what it leaves for the next one;
* `Searched.exists_start_iff`: so the tokens found start at the dollars within reach.

Main statement: `starts_of_walk`.
-/

namespace TextMacros

namespace Token

variable {text : Text} {token inner : Token} {tokens : List Token} {offset i : Nat}

/-! ## searching again and again -/

/-- What searching from an offset on finds, one token after the other, until nothing is found. -/
inductive Searched (text : Text) : Nat → List Token → Prop
  | done {offset : Nat} (none : find? text (offset : Int) = none) : Searched text offset []
  | next {offset : Nat} {token : Token} {tokens : List Token}
      (found : find? text (offset : Int) = some token)
      (rest : Searched text (token.start + 2) tokens) : Searched text offset (token :: tokens)

/-- The walk is such a sequence of searches. -/
theorem searched_walk (text : Text) (offset : Nat) : Searched text offset (walk text offset) := by
  fun_induction walk text offset with
  | case1 offset none => exact .done none
  | case2 offset token found ih => exact .next found ih

/-- There is no other. -/
theorem Searched.eq_walk (h : Searched text offset tokens) : tokens = walk text offset := by
  induction h with
  | done none =>
    rw [walk]
    split
    next => rfl
    next token found => simp [none] at found
  | next found rest ih =>
    rw [walk]
    split
    next none => simp [found] at none
    next token found' =>
      rw [found, Option.some.injEq] at found'
      rw [← found', ih]

/-! ## the dollars within reach -/

/-- An unescaped dollar at or behind an offset, with none from the offset up to it, itself
included, at which a search would give up. -/
structure ReachedFrom (text : Text) (offset i : Nat) : Prop where
  /-- It lies at or behind the offset. -/
  le : offset ≤ i
  /-- It is an unescaped dollar. -/
  unescaped : UnescapedAt text i
  /-- No search gives up on the way. -/
  matched : ∀ j, offset ≤ j → j ≤ i → UnescapedAt text j → MatchedAt text j

/-- Where a search finds nothing, nothing is within reach. -/
theorem not_reachedFrom (h : find? text (offset : Int) = none) : ¬ ReachedFrom text offset i := by
  intro hi
  cases hnext : nextDollar text (offset : Int) with
  | none => exact nextDollar_eq_iff.1 hnext i hi.le hi.unescaped
  | some j =>
    have hfirst := nextDollar_eq_iff.1 hnext
    have hji : j ≤ i := Nat.le_of_not_lt fun hlt => hfirst.2.2 i hi.le hlt hi.unescaped
    obtain ⟨token, htoken⟩ := matchedAt_iff.1 (hi.matched j hfirst.1 hji hfirst.2.1)
    rw [find?_eq_none_iff.1 h j hfirst] at htoken
    contradiction

/-- Where a search finds a token, its dollar is within reach, and what the next search, two
characters behind it, can reach. -/
theorem reachedFrom_iff (h : find? text (offset : Int) = some token) :
    ReachedFrom text offset i ↔ i = token.start ∨ ReachedFrom text (token.start + 2) i := by
  obtain ⟨⟨hle, hdollar, hfirst⟩, hat⟩ := find?_eq_some_iff.1 h
  have hmatched : MatchedAt text token.start := matchedAt_iff.2 ⟨token, hat⟩
  -- from the offset on, the token's dollar is the only unescaped one before the next search
  have honly : ∀ j, offset ≤ j → j < token.start + 2 → UnescapedAt text j → j = token.start := by
    intro j hj hlt hun
    rcases Nat.lt_trichotomy j token.start with hbefore | heq | hbehind
    · exact absurd hun (hfirst j hj hbefore)
    · exact heq
    · obtain rfl : j = token.start + 1 := by omega
      exact absurd hun (not_unescapedAt_succ hat)
  constructor
  · intro hi
    rcases Nat.lt_or_ge i (token.start + 2) with hlt | hge
    · exact .inl (honly i hi.le hlt hi.unescaped)
    · exact .inr ⟨hge, hi.unescaped, fun j hj => hi.matched j (by omega)⟩
  · rintro (rfl | hi)
    · refine ⟨hle, hdollar, fun j hj hji hun => ?_⟩
      rw [honly j hj (by omega) hun]
      exact hmatched
    · refine ⟨by have := hi.le; omega, hi.unescaped, fun j hj hji hun => ?_⟩
      rcases Nat.lt_or_ge j (token.start + 2) with hlt | hge
      · rw [honly j hj hlt hun]
        exact hmatched
      · exact hi.matched j hge hji hun

/-- The tokens found start at the dollars within reach. -/
theorem Searched.exists_start_iff (h : Searched text offset tokens) :
    (∃ token ∈ tokens, token.start = i) ↔ ReachedFrom text offset i := by
  induction h with
  | done none => simp [not_reachedFrom none]
  | next found rest ih =>
    rw [reachedFrom_iff found, ← ih]
    simp only [List.mem_cons, exists_eq_or_imp]
    rw [@eq_comm _ i]

/-- They are found from left to right. -/
theorem Searched.pairwise_start_lt (h : Searched text offset tokens) :
    tokens.Pairwise fun a b => a.start < b.start := by
  induction h with
  | done => exact .nil
  | @next offset token tokens found rest ih =>
    refine .cons (fun later hlater => ?_) ih
    have := (rest.exists_start_iff.1 ⟨later, hlater, rfl⟩).le
    omega

/-- Each of them is the token that stands there. -/
theorem Searched.at?_of_mem (h : Searched text offset tokens) (hmem : token ∈ tokens) :
    at? text token.start = some token := by
  induction h with
  | done => exact absurd hmem List.not_mem_nil
  | next found rest ih =>
    rcases List.mem_cons.1 hmem with rfl | hmem
    · exact at?_of_find? found
    · exact ih hmem

/-! ## the walk -/

/-- Within reach of a search from the front is every unescaped dollar that has no unescaped
unmatched one before it and is matched itself. -/
theorem reachedFrom_zero_iff :
    ReachedFrom text 0 i ↔
      UnescapedAt text i ∧ ∀ j ≤ i, UnescapedAt text j → MatchedAt text j :=
  ⟨fun h => ⟨h.unescaped, fun j => h.matched j (Nat.zero_le j)⟩,
    fun h => ⟨Nat.zero_le i, h.1, fun j _ => h.2 j⟩⟩

/-- **The walk is complete and ordered**: searching on from the front comes to an end and finds the
tokens of the walk, from left to right.  They start at the unescaped dollars before the first
unescaped dollar that is unmatched, and at no other index, and they stop where the brackets behind
those dollars close.  So a dollar inside one of them starts one of them too, which ends inside it,
unless an unmatched dollar comes before; and behind an unmatched dollar there are none. -/
theorem starts_of_walk (text : Text) :
    (∀ tokens, Searched text 0 tokens ↔ tokens = walk text 0) ∧
    ((walk text 0).map start).Pairwise (· < ·) ∧
    (∀ i, i ∈ (walk text 0).map start ↔
      UnescapedAt text i ∧ ∀ j ≤ i, UnescapedAt text j → MatchedAt text j) ∧
    (∀ token ∈ walk text 0, at? text token.start = some token ∧
      Bracket.findClosing text ((token.start + 1 : Nat) : Int) = some token.stop) ∧
    (∀ token ∈ walk text 0, ∀ i, token.start < i → i < token.stop → UnescapedAt text i →
      (∀ j ≤ i, UnescapedAt text j → MatchedAt text j) →
      ∃ inner ∈ walk text 0, inner.start = i ∧ inner.stop < token.stop) ∧
    (∀ i, UnescapedAt text i → ¬ MatchedAt text i → ∀ token ∈ walk text 0, token.start < i) := by
  have hwalk := searched_walk text 0
  have hstarts : ∀ i, (∃ token ∈ walk text 0, token.start = i) ↔
      UnescapedAt text i ∧ ∀ j ≤ i, UnescapedAt text j → MatchedAt text j :=
    fun i => hwalk.exists_start_iff.trans reachedFrom_zero_iff
  refine ⟨fun tokens => ⟨Searched.eq_walk, fun h => h ▸ hwalk⟩,
    List.pairwise_map.2 hwalk.pairwise_start_lt, fun i => List.mem_map.trans (hstarts i),
    fun token ht => ?_, fun token ht i hstart hstop hun hbefore => ?_,
    fun i hun hunmatched token ht => ?_⟩
  · have hat := hwalk.at?_of_mem ht
    exact ⟨hat, findClosing_of_at? hat⟩
  · obtain ⟨inner, hinner, rfl⟩ := (hstarts i).2 ⟨hun, hbefore⟩
    exact ⟨inner, hinner, rfl, stop_lt_of_start_le (hwalk.at?_of_mem ht)
      (hwalk.at?_of_mem hinner) hun hstart (Nat.le_of_lt hstop)⟩
  · refine Nat.lt_of_not_le fun hle => hunmatched ?_
    exact ((hstarts token.start).1 ⟨token, ht, rfl⟩).2 i hle hun

/-- A name that holds two tokens and an escaped one between them, then a dollar with a bracket
that never closes and a token behind it: the first three tokens are found. -/
theorem starts_of_walk_of_unclosed :
    let text := Text.ofString "$(A$(B)\\$(C)$\x7bD\x7d) $(E=$\x7bF\x7d"
    let outer : Token := ⟨.ofString "A$(B)\\$(C)$\x7bD\x7d", none, 0, 16⟩
    let inner : Token := ⟨['D'], none, 12, 15⟩
    let tokens := [outer, ⟨['B'], none, 3, 6⟩, inner]
    (Searched text 0 tokens ∧ (outer.start < inner.start ∧ inner.start < outer.stop) ∧
      UnescapedAt text inner.start ∧
      (∀ j ≤ inner.start, UnescapedAt text j → MatchedAt text j) ∧
      UnescapedAt text 18 ∧ ¬ MatchedAt text 18) ∧
    tokens = walk text 0 ∧ inner.start ∈ (walk text 0).map start ∧
    (∃ nested ∈ walk text 0, nested.start = inner.start ∧ nested.stop < outer.stop) ∧
    ∀ token ∈ walk text 0, token.start < 18 := by
  intro text outer inner tokens
  have houter : find? text 0 = some outer := by decide +kernel
  have hfirst : find? text 2 = some ⟨['B'], none, 3, 6⟩ := by decide +kernel
  have hinner : find? text 5 = some inner := by decide +kernel
  have hnone : find? text 14 = none := by decide +kernel
  have hsearched : Searched text 0 tokens :=
    .next houter (.next hfirst (.next hinner (.done hnone)))
  have hun : UnescapedAt text inner.start := by decide +kernel
  have hbefore : ∀ j ≤ inner.start, UnescapedAt text j → MatchedAt text j := by decide +kernel
  have hun' : UnescapedAt text 18 := by decide +kernel
  have hunmatched : ¬ MatchedAt text 18 := by decide +kernel
  obtain ⟨hall, -, hstarts, -, hnested, hbehind⟩ := starts_of_walk text
  have hwalk := (hall tokens).1 hsearched
  have hmem : outer ∈ walk text 0 := by
    rw [← hwalk]
    exact List.mem_cons_self
  exact ⟨⟨hsearched, by decide, hun, hbefore, hun', hunmatched⟩, hwalk,
    (hstarts inner.start).2 ⟨hun, hbefore⟩,
    hnested outer hmem inner.start (by decide) (by decide) hun hbefore,
    hbehind 18 hun' hunmatched⟩

end Token

end TextMacros
