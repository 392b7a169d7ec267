import TextMacros.Proofs.Expansion.Steps
import TextMacros.Resolver

/-!
# TextMacros.Proofs.Expansion.Quoting

Carrying a text through an expansion unchanged.

`escapeDollars` puts a backslash before every dollar.  No dollar is left to start a token then,
however many backslashes stood before it and whatever stands behind it, so an expansion has
nothing to do (`not_unescapedAt_escapeDollars`).  What it takes away at its end is what was put
in and nothing else (`unescape_escapeDollars`), since no two dollars share a backslash.  Main
statement: `expand_escapeDollars`.
-/

namespace TextMacros

/-- The text with a backslash put before every dollar. -/
def escapeDollars (t : Text) : Text :=
  t.flatMap fun c => if c = '$' then [Bracket.escape, '$'] else [c]

@[simp] theorem escapeDollars_nil : escapeDollars [] = [] := rfl

@[simp] theorem escapeDollars_dollar (t : Text) :
    escapeDollars ('$' :: t) = Bracket.escape :: '$' :: escapeDollars t := rfl

theorem escapeDollars_cons {c : Char} (h : c ≠ '$') (t : Text) :
    escapeDollars (c :: t) = c :: escapeDollars t := by
  simp [escapeDollars, h]

/-! ## no dollar is left -/

/-- A dollar that is not escaped by more of the text in front is not by less. -/
theorem UnescapedAt.of_cons {c : Char} {t : Text} {i : Nat} (h : UnescapedAt (c :: t) (i + 1)) :
    UnescapedAt t i := by
  obtain ⟨hget, hback⟩ := h
  refine ⟨hget, ?_⟩
  cases i with
  | zero => exact .inl rfl
  | succ i => simpa using hback

theorem not_unescapedAt_escapeDollars (t : Text) (i : Nat) :
    ¬ UnescapedAt (escapeDollars t) i := by
  induction t generalizing i with
  | nil => exact fun h => absurd h.lt_length (Nat.not_lt_zero i)
  | cons c cs ih =>
    intro h
    by_cases hc : c = '$'
    · subst hc
      rw [escapeDollars_dollar] at h
      obtain _ | _ | i := i
      · exact absurd h.1 (by simp [Bracket.escape])
      · exact absurd h.2 (by simp)
      · exact ih i h.of_cons.of_cons
    · rw [escapeDollars_cons hc] at h
      obtain _ | i := i
      · exact hc (Option.some.inj h.1)
      · exact ih i h.of_cons

/-! ## what is put in is taken away -/

theorem head?_escapeDollars_ne (t : Text) : (escapeDollars t).head? ≠ some '$' := by
  cases t with
  | nil => simp
  | cons c cs =>
    by_cases hc : c = '$'
    · simp [hc, Bracket.escape]
    · simp [escapeDollars_cons hc, hc]

theorem unescape_escapeDollars (t : Text) : unescape (escapeDollars t) = t := by
  induction t with
  | nil => rfl
  | cons c cs ih =>
    by_cases hc : c = '$'
    · rw [hc, escapeDollars_dollar, Bracket.escape, unescape, ih]
    · -- a backslash stays, since what comes next starts with no dollar
      rw [escapeDollars_cons hc, unescape, ih]
      intro rest _ heq
      exact head?_escapeDollars_ne cs (by rw [heq, List.head?_cons])

/-! ## nothing to expand -/

variable {rules : Rules} {t u : Text}

/-- A text in which every dollar is escaped settles at once, within any bound. -/
theorem expand_of_escaped (h : ∀ i, ¬ UnescapedAt t i) {bound : Int} (nonneg : 0 ≤ bound) :
    expand rules t bound = ⟨[], t, .settled⟩ := by
  have hnone : (Expansion.start t).step? rules = none :=
    Expansion.step?_eq_none_iff.2 (Token.find?_of_escaped h _)
  exact expand_of_steps_settled (.nil (.start t)) hnone nonneg

/-- A resolver says what an expansion yields, also of a text for which it starts none. -/
theorem Resolver.resolve_of_ok {r : Resolver} (h : (expand rules t r.bound).result = .ok u) :
    r.resolve rules (some t) = .resolved u := by
  cases hmay : mayHoldToken t with
  | true => simp [Resolver.resolve, Resolver.run?, hmay, h]
  | false =>
    have hdollar : '$' ∉ t := by simpa [mayHoldToken] using hmay
    have hescaped : ∀ i, ¬ UnescapedAt t i := fun i hi => hdollar (List.mem_of_getElem? hi.1)
    rw [expand_of_escaped hescaped (Int.natCast_nonneg r.bound)] at h
    obtain rfl : t = u := by rw [← (Run.result_eq_ok_iff.1 h).2, unescape_of_noDollar hdollar]
    simp [Resolver.resolve, Resolver.run?, hmay]

/-- **Escaping is lossless**: a text with its dollars escaped is expanded to the text, whatever the
values and the names are, within any bound, and no value is asked for.  So a resolver with any
bound resolves it to the text. -/
theorem expand_escapeDollars (t : Text) (bound : Int) (nonneg : 0 ≤ bound) :
    (∀ rules : Rules, (expand rules (escapeDollars t) bound).result = .ok t ∧
      (expand rules (escapeDollars t) bound).lookups = []) ∧
    (∀ scope : Scope, ∃ r, Resolver.of? (.scope scope) bound = .ok r ∧
      ∀ rules : Rules, r.resolve rules (some (escapeDollars t)) = .resolved t) := by
  have hexpand : ∀ rules : Rules, expand rules (escapeDollars t) bound =
      ⟨[], escapeDollars t, .settled⟩ :=
    fun rules => expand_of_escaped (not_unescapedAt_escapeDollars t) nonneg
  have hresult : ∀ rules : Rules, (expand rules (escapeDollars t) bound).result = .ok t := by
    intro rules
    rw [hexpand]
    exact Run.result_eq_ok_iff.2 ⟨rfl, unescape_escapeDollars t⟩
  refine ⟨fun rules => ⟨hresult rules, by rw [hexpand]; rfl⟩, fun scope => ?_⟩
  have hbound : ((⟨scope, bound.toNat⟩ : Resolver).bound : Int) = bound :=
    Int.toNat_of_nonneg nonneg
  refine ⟨⟨scope, bound.toNat⟩, ?_, fun rules => Resolver.resolve_of_ok ?_⟩
  · simp [Resolver.of?, Int.not_lt.2 nonneg]
  · rw [hbound]
    exact hresult rules

/-- Backslashes before a dollar, a dollar behind a dollar, a token of a name that refers to itself,
and an open bracket; no step is allowed. -/
theorem expand_escapeDollars_of_mixed :
    let t := Text.ofString "\\\\$$$(S=\\)$("
    let scope := Scope.mapping (.ofList [(['S'], .ofString "$(S)")])
    let rules := Rules.ofPairs [(['S'], .ofString "$(S)")]
    escapeDollars t = .ofString "\\\\\\$\\$\\$(S=\\)\\$(" ∧
    (expand rules (escapeDollars t) 0).result = .ok t ∧
    (expand rules (escapeDollars t) 0).lookups = [] ∧
    ∃ r, Resolver.of? (.scope scope) 0 = .ok r ∧
      r.resolve rules (some (escapeDollars t)) = .resolved t := by
  intro t scope rules
  obtain ⟨hexpand, hresolve⟩ := expand_escapeDollars t 0 (Int.le_refl 0)
  obtain ⟨r, hr, hresolved⟩ := hresolve scope
  exact ⟨by decide +kernel, (hexpand rules).1, (hexpand rules).2, r, hr, hresolved rules⟩

end TextMacros
