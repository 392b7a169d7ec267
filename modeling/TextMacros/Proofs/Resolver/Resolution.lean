import TextMacros.Proofs.Expansion.Quoting

/-!
# TextMacros.Proofs.Resolver.Resolution

What a resolver says of a text.

A resolver expands a text only if it holds a dollar (`run?_eq`).  That it leaves out the other
expansions cannot be told from its answers: without a dollar there is no token to make a step at
and no escape to take away, so the expansion would settle at once, on the text as it stands
(`expand_of_noDollar`).  It would not settle with a negative bound, but no resolver has one.  Main
statement: `resolution_of_expansion`.
-/

namespace TextMacros

variable {rules : Rules} {t : Text}

/-- A text without a dollar settles at once, within any bound. -/
theorem expand_of_noDollar (h : '$' ∉ t) {bound : Int} (nonneg : 0 ≤ bound) :
    expand rules t bound = ⟨[], t, .settled⟩ := by
  have hescaped : ∀ i, ¬ UnescapedAt t i := fun i hi => h (List.mem_of_getElem? hi.1)
  exact expand_of_escaped hescaped nonneg

namespace Resolver

variable {r : Resolver} {text? : Option Text}

/-- A text is expanded if it holds a dollar; a missing one counts as empty. -/
theorem run?_eq : r.run? rules text? =
    if '$' ∈ text?.getD [] then some (expand rules (text?.getD []) r.bound) else none := by
  cases text? with
  | none => rfl
  | some t => simp [run?, mayHoldToken]

/-- A resolver says how the expansion of the text ends, whether it starts one or not. -/
theorem resolve_eq : r.resolve rules text? =
    match (expand rules (text?.getD []) r.bound).result with
    | .ok u => .resolved u
    | .error u => .failed (r.recursionMessage u) := by
  rw [resolve, run?_eq]
  by_cases h : '$' ∈ text?.getD []
  · cases hresult : (expand rules (text?.getD []) r.bound).result <;>
      simp only [if_pos h, hresult]
  · rw [if_neg h, expand_of_noDollar h (Int.natCast_nonneg r.bound)]
    simp [Run.result, unescape_of_noDollar h]

/-- A resolver asks for the names that the expansion of the text asks for. -/
theorem lookups_eq :
    r.lookups rules text? = (expand rules (text?.getD []) r.bound).lookups := by
  rw [lookups, run?_eq]
  by_cases h : '$' ∈ text?.getD []
  · rw [if_pos h]
  · rw [if_neg h, expand_of_noDollar h (Int.natCast_nonneg r.bound)]
    rfl

end Resolver

/-- **A resolver agrees with the expansion**: whatever the values and the names are, and for every
bound that a resolver takes, it says of each text what expanding it yields, a missing text
counting as empty.  If the bound is exceeded, it says so with the text at which it was, and
nothing of the text that was expanded until then stays.  The same names are asked for, in the same
order; if the text is missing or holds no dollar, none is, and no expansion is started. -/
theorem resolution_of_expansion {scope : Scope} {bound : Int} {r : Resolver}
    (accepted : Resolver.of? (.scope scope) bound = .ok r) (rules : Rules)
    (text? : Option Text) :
    let run := expand rules (text?.getD []) bound
    let answer := r.resolve rules text?
    (∀ u, run.result = .ok u →
      answer.text = u ∧ answer.error? = none ∧ answer.success = true) ∧
    (∀ u, run.result = .error u →
      answer.text = [] ∧
      answer.error? = some (.ofString "Recursive macro " ++ u ++ .ofString ". Values: " ++
        scope.describe) ∧
      answer.success = false) ∧
    r.lookups rules text? = run.lookups ∧
    ('$' ∉ text?.getD [] → r.run? rules text? = none ∧ r.lookups rules text? = [] ∧
      answer = .resolved (text?.getD []) ∧ run.result = .ok (text?.getD [])) := by
  intro run answer
  obtain ⟨nonneg, rfl⟩ := Resolver.of?_scope_eq_ok_iff.1 accepted
  have hbound : (bound.toNat : Int) = bound := Int.toNat_of_nonneg nonneg
  have hrun : run = expand rules (text?.getD []) bound.toNat := by rw [hbound]
  have hanswer : answer = match run.result with
      | .ok u => .resolved u
      | .error u => .failed (recursionMessage u scope.describe) := by
    rw [hrun]
    exact Resolver.resolve_eq
  have hlookups : Resolver.lookups ⟨scope, bound.toNat⟩ rules text? = run.lookups := by
    rw [hrun]
    exact Resolver.lookups_eq
  refine ⟨fun u hu => ?_, fun u hu => ?_, hlookups, fun hdollar => ?_⟩
  · rw [hanswer, hu]
    exact ⟨rfl, rfl, rfl⟩
  · rw [hanswer, hu]
    exact ⟨rfl, rfl, rfl⟩
  · have hsettled : run = ⟨[], text?.getD [], .settled⟩ := expand_of_noDollar hdollar nonneg
    have hresult : run.result = .ok (text?.getD []) := by
      rw [hsettled, Run.result_eq_ok_iff]
      exact ⟨rfl, unescape_of_noDollar hdollar⟩
    refine ⟨?_, ?_, ?_, hresult⟩
    · rw [Resolver.run?_eq, if_neg hdollar]
    · rw [hlookups, hsettled]
      rfl
    · rw [hanswer, hresult]

/-- Two names that refer to each other, with no step allowed: nothing of the text is kept. -/
theorem resolution_of_expansion_of_cycle :
    let scope := Scope.mapping (.ofList [(['A'], .ofString "$(B)"), (['B'], .ofString "$(A)")])
    let rules := scope.rules (fun _ => .empty) defaultName.isMatch
    let text := Text.ofString "before $(A) after"
    ∃ r, Resolver.of? (.scope scope) 0 = .ok r ∧
      (expand rules text 0).result = .error (.ofString "before $(B) after") ∧
      (r.resolve rules (some text)).text = [] ∧
      (r.resolve rules (some text)).error? = some (.ofString
        "Recursive macro before $(B) after. Values: " ++ .ofString
        "MappingProvider(\x7b'A': '$(B)', 'B': '$(A)'\x7d)") ∧
      (r.resolve rules (some text)).success = false ∧
      r.lookups rules (some text) = [['A']] := by
  intro scope rules text
  have accepted : Resolver.of? (.scope scope) 0 = .ok ⟨scope, 0⟩ := by
    simp [Resolver.of?_scope_eq_ok_iff]
  have hresult : (expand rules text 0).result = .error (.ofString "before $(B) after") := by
    rw [Run.result_eq_error_iff]
    decide +kernel
  obtain ⟨-, hfailed, hlookups, -⟩ := resolution_of_expansion accepted rules (some text)
  obtain ⟨htext, herror, hsuccess⟩ := hfailed _ hresult
  refine ⟨⟨scope, 0⟩, accepted, hresult, htext, ?_, hsuccess, ?_⟩
  · rw [herror]
    decide +kernel
  · rw [hlookups]
    decide +kernel

end TextMacros
