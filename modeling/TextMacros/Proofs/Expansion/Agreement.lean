import TextMacros.Scope
import TextMacros.Proofs.Expansion.Steps

/-!
# TextMacros.Proofs.Expansion.Agreement

On which values an expansion depends.

A step asks for one value at most, that of its token's name.  Rules that agree on it make the
same step (`Action.Due.congr`, `step?_congr`), and the text they go on with is the same.  Which
names are asked for later depends on values asked for before, but each of these is a name the
run asks for; so by induction along the run, rules that agree on the names asked for make the
same run (`run_congr`).

A scope put behind the others of a chain is asked only for the names that those leave undefined
(`lookup_chain_concat`).  Main statement: `expand_congr`.
-/

namespace TextMacros

variable {p q : Rules} {token : Token} {e f : Expansion} {step : Step}

/-! ## one step -/

/-- What is due depends on the value of the token's name only, and only if that is asked for. -/
theorem Action.Due.congr {action : Action} (h : Due p token action) (names : q.isName = p.isName)
    (agree : action.looksUp = true → q.value? token.name = p.value? token.name) :
    Due q token action := by
  have hnames : q.isName token.name = p.isName token.name := by rw [names]
  cases h with
  | skip name => exact .skip (hnames.trans name)
  | leave name value default =>
    have hvalue := agree rfl
    exact .leave (hnames.trans name) (hvalue.trans value) default
  | restart name value refers =>
    have hvalue := agree rfl
    exact .restart (hnames.trans name) (hvalue.trans value) refers
  | value name value refers =>
    have hvalue := agree rfl
    exact .value (hnames.trans name) (hvalue.trans value) refers
  | default name value default =>
    have hvalue := agree rfl
    exact .default (hnames.trans name) (hvalue.trans value) default

namespace Expansion

/-- Rules that agree on the name a step asks for, if it does, make the same step. -/
theorem step?_congr (h : e.step? p = some (step, f)) (names : q.isName = p.isName)
    (agree : step.action.looksUp = true → q.value? step.token.name = p.value? step.token.name) :
    e.step? q = some (step, f) := by
  obtain ⟨hfind, hdue, hnext⟩ := step?_eq_some_iff.1 h
  exact step?_eq_some_iff.2 ⟨hfind, hdue.congr names agree, hnext⟩

/-! ## a run -/

/-- Rules that agree on the names a run asks for make the same run. -/
theorem run_congr (names : q.isName = p.isName) (budget : Nat) (e : Expansion)
    (agree : ∀ s ∈ (e.run p budget).steps, s.action.looksUp = true →
      q.value? s.token.name = p.value? s.token.name) :
    e.run q budget = e.run p budget := by
  induction budget generalizing e with
  | zero => rfl
  | succ budget ih =>
    cases hstep : e.step? p with
    | none =>
      have hnone : e.step? q = none := by
        rw [step?_eq_none_iff] at hstep ⊢
        exact hstep
      rw [run_of_step?_eq_none hstep, run_of_step?_eq_none hnone]
    | some next =>
      obtain ⟨s, f⟩ := next
      rw [run_of_step?_eq_some hstep, Run.steps_cons, List.forall_mem_cons] at agree
      obtain ⟨hhead, htail⟩ := agree
      have hsame := step?_congr hstep names hhead
      rw [run_of_step?_eq_some hstep, run_of_step?_eq_some hsame, ih f htail]

end Expansion

/-! ## chains of scopes -/

/-- The last scope of a chain is asked for what the ones before it leave undefined. -/
theorem Scope.lookup_chain_concat (environments : Environments) (members : List Scope)
    (outer : Scope) (name : Text) :
    lookup environments (chain (members ++ [outer])) name =
      (lookup environments (chain members) name).or (lookup environments outer name) := by
  simp only [lookup_chain, List.findSome?_append, List.findSome?_cons, List.findSome?_nil]
  cases lookup environments outer name <;> rfl

/-! ## agreement -/

/-- **Only the names asked for matter**: values that agree with others on the names which an
expansion asks for give the same expansion, with the same look-ups, the same reports and the
same outcome.  So a scope put behind the others of a chain changes nothing, unless it defines a
name that was asked for and found undefined. -/
theorem expand_congr (isName : Text → Bool) (text : Text) (bound : Int) :
    (∀ value value' : Text → Option Text,
      (∀ name ∈ (expand ⟨value, isName⟩ text bound).lookups, value' name = value name) →
      expand ⟨value', isName⟩ text bound = expand ⟨value, isName⟩ text bound) ∧
    ∀ (environments : Environments) (members : List Scope) (outer : Scope),
      (∀ name ∈ (expand ((Scope.chain members).rules environments isName) text bound).lookups,
        (Scope.chain members).lookup environments name = none →
        outer.lookup environments name = none) →
      expand ((Scope.chain (members ++ [outer])).rules environments isName) text bound =
        expand ((Scope.chain members).rules environments isName) text bound := by
  have hagree : ∀ value value' : Text → Option Text,
      (∀ name ∈ (expand ⟨value, isName⟩ text bound).lookups, value' name = value name) →
      expand ⟨value', isName⟩ text bound = expand ⟨value, isName⟩ text bound := by
    intro value value' agree
    unfold expand
    apply Expansion.run_congr
    · rfl
    · intro s hs hlooks
      exact agree s.token.name (mem_lookupsOf hs hlooks)
  refine ⟨hagree, fun environments members outer undefined => ?_⟩
  apply hagree
  intro name hmem
  rw [Scope.lookup_chain_concat]
  cases hvalue : (Scope.chain members).lookup environments name with
  | none => exact undefined name hmem hvalue
  | some v => rfl

/-- Values found by way of one another and a name found undefined; the other values, and the
environment behind the chain, differ on names that are not asked for, or are hidden. -/
theorem expand_congr_of_hidden :
    let values : Dictionary Text := .ofList [(['A'], Text.ofString "$(B)"), (['B'], ['b'])]
    let outer : Dictionary Text := .ofList [(['A'], ['a']), (['C'], ['c'])]
    let environments : Environments := fun _ => outer
    let isName := defaultName.isMatch
    let inner := Scope.chain [.mapping values]
    let text := Text.ofString "$(A)$(D)"
    let value : Text → Option Text := fun name => if name = ['C'] then some [] else values.get? name
    ((∀ name ∈ (expand ⟨values.get?, isName⟩ text 9).lookups, value name = values.get? name) ∧
      expand ⟨value, isName⟩ text 9 = expand ⟨values.get?, isName⟩ text 9) ∧
    (∀ name ∈ (expand (inner.rules environments isName) text 9).lookups,
      inner.lookup environments name = none →
      (Scope.environment .process).lookup environments name = none) ∧
    expand ((Scope.chain [.mapping values, .environment .process]).rules environments isName)
      text 9 = expand (inner.rules environments isName) text 9 := by
  intro values outer environments isName inner text value
  have hlookups : (expand ⟨values.get?, isName⟩ text 9).lookups = [['A'], ['B'], ['D']] := by
    decide +kernel
  have hchain : (expand (inner.rules environments isName) text 9).lookups =
      [['A'], ['B'], ['D']] := by decide +kernel
  have hagree : ∀ name ∈ (expand ⟨values.get?, isName⟩ text 9).lookups,
      value name = values.get? name := by
    rw [hlookups]
    decide +kernel
  have hundefined : ∀ name ∈ (expand (inner.rules environments isName) text 9).lookups,
      inner.lookup environments name = none →
      (Scope.environment .process).lookup environments name = none := by
    rw [hchain]
    decide +kernel
  obtain ⟨hvalues, hscopes⟩ := expand_congr isName text 9
  exact ⟨⟨hagree, hvalues _ _ hagree⟩, hundefined,
    hscopes environments [.mapping values] (.environment .process) hundefined⟩

end TextMacros
