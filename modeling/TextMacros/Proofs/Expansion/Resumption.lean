import TextMacros.Proofs.Expansion.Bound

/-!
# TextMacros.Proofs.Expansion.Resumption

Going on with the text that an exceeded expansion reports.

An exceeded expansion reports its working text, but not the offset at which it was interrupted.
The offset can be found again.  It is either zero or was reached by passing tokens over, which
leaves the text as it is; so from the front of the working text there is a way back to where the
expansion was (`WayBack`), and it takes no more steps than had been made (`exists_wayBack`).

The interrupted expansion and a fresh one of its text thus come to the same point, and from
there on they do the same (`run_ok_of_meet`).  Main statement: `expand_resumed`.
-/

namespace TextMacros

variable {rules : Rules} {e f g : Expansion} {step : Step} {steps back more : List Step}
  {text : Text}

namespace Expansion

/-! ## the way back -/

/-- From the front of its text, steps that pass tokens over lead back to an expansion. -/
structure WayBack (rules : Rules) (e : Expansion) (back : List Step) : Prop where
  /-- The steps lead back. -/
  steps : Steps rules (.start e.text) back e
  /-- They leave the text as it is. -/
  passes : ∀ s ∈ back, s.action = .skip ∨ s.action = .leave

theorem WayBack.start (rules : Rules) (text : Text) : WayBack rules (.start text) [] :=
  ⟨.nil _, fun _ hs => absurd hs List.not_mem_nil⟩

/-- A step either leaves the text as it is and makes the way back longer by itself, or leads to
the front of another text. -/
theorem WayBack.next (h : WayBack rules e back) (hstep : e.step? rules = some (step, f)) :
    ∃ back', WayBack rules f back' ∧ back'.length ≤ back.length + 1 := by
  have hnext := h.steps.append (.single hstep)
  obtain ⟨-, -, rfl⟩ := step?_eq_some_iff.1 hstep
  cases haction : step.action with
  | skip | leave =>
    rw [haction] at hnext
    refine ⟨back ++ [step], ⟨hnext, fun s hs => ?_⟩, by simp⟩
    rcases List.mem_append.1 hs with hs | hs
    · exact h.passes s hs
    · rw [List.mem_singleton.1 hs, haction]
      simp
  | restart r | splice r => exact ⟨[], .start rules _, Nat.zero_le _⟩

/-- There is a way back to wherever steps lead, and it has no more steps than they are. -/
theorem Steps.exists_wayBack (hsteps : Steps rules e steps f) (h : WayBack rules e back) :
    ∃ back', WayBack rules f back' ∧ back'.length ≤ back.length + steps.length := by
  induction hsteps generalizing back with
  | nil => exact ⟨back, h, Nat.le_add_right _ _⟩
  | cons head _ ih =>
    obtain ⟨back₁, h₁, hle₁⟩ := h.next head
    obtain ⟨back₂, h₂, hle₂⟩ := ih h₁
    refine ⟨back₂, h₂, ?_⟩
    rw [List.length_cons]
    omega

/-! ## coming to the same point -/

/-- Where two expansions come to the same point, the one gives an answer that the other gives,
and after that point it takes as many steps. -/
theorem run_ok_of_meet {budget : Nat} {r : Text} (h : Steps rules e steps g)
    (h' : Steps rules f more g) (hok : (e.run rules budget).result = .ok r) :
    ∃ d, budget = steps.length + d ∧ (f.run rules (more.length + d)).result = .ok r := by
  have hsettled := (Run.result_eq_ok_iff.1 hok).1
  have hlt : steps.length < budget := by
    apply Nat.lt_of_not_le
    intro hle
    exact Run.not_settled_iff.2 (exceeded_of_steps h hle) hsettled
  obtain ⟨d, rfl⟩ := Nat.exists_eq_add_of_le (Nat.le_of_lt hlt)
  refine ⟨d, rfl, ?_⟩
  rw [run_of_steps h, Run.result_after] at hok
  rw [run_of_steps h', Run.result_after]
  exact hok

end Expansion

/-! ## resuming -/

/-- An exceeded expansion was interrupted at a point that a fresh expansion of the text reported
comes to as well, after no more steps. -/
theorem exists_interruption {bound : Int} {u : Text}
    (h : (expand rules text bound).result = .error u) :
    ∃ (f : Expansion) (back : List Step),
      Expansion.Steps rules (.start text) (expand rules text bound).steps f ∧
      Expansion.Steps rules (.start u) back f ∧
      back.length ≤ (expand rules text bound).steps.length := by
  obtain ⟨f, hsteps, htext⟩ := exists_steps rules text bound
  obtain ⟨-, rfl⟩ := Run.result_eq_error_iff.1 h
  obtain ⟨back, hback, hle⟩ := hsteps.exists_wayBack (.start rules text)
  have hfresh := hback.steps
  rw [← htext] at hfresh
  refine ⟨f, back, hsteps, hfresh, ?_⟩
  rwa [List.length_nil, Nat.zero_add] at hle

/-- Every budget is that of a bound. -/
theorem expand_natCast_sub_one (rules : Rules) (text : Text) (budget : Nat) :
    expand rules text ((budget : Int) - 1) = (Expansion.start text).run rules budget := by
  rw [expand, Int.sub_add_cancel, Int.toNat_natCast]

/-- No bound gives an answer if and only if every one is exceeded. -/
theorem forall_exceeded_iff (rules : Rules) (text : Text) :
    (∀ m, ∃ v, (expand rules text m).result = .error v) ↔
      ∀ r, ¬ ∃ m, (expand rules text m).result = .ok r := by
  constructor
  · rintro hall r ⟨m, hok⟩
    obtain ⟨v, herror⟩ := hall m
    rw [hok] at herror
    contradiction
  · intro hnone m
    cases hresult : (expand rules text m).result with
    | error v => exact ⟨v, rfl⟩
    | ok r => exact absurd ⟨m, hresult⟩ (hnone r)

/-- **The text reported is a faithful resumption point**: expanding it afresh gives the answer
that the interrupted expansion would have come to with a larger bound, and with no larger bound
than that; and where the one exceeds every bound, so does the other. -/
theorem expand_resumed {bound : Int} {u : Text}
    (exceeded : (expand rules text bound).result = .error u) :
    (∀ r, (∃ m, (expand rules text m).result = .ok r) ↔
      ∃ m, (expand rules u m).result = .ok r) ∧
    ((∀ m, ∃ v, (expand rules text m).result = .error v) ↔
      ∀ m, ∃ v, (expand rules u m).result = .error v) ∧
    ∀ m r, (expand rules text m).result = .ok r → (expand rules u m).result = .ok r := by
  obtain ⟨f, back, hsteps, hback, hle⟩ := exists_interruption exceeded
  have hfresh : ∀ m r, (expand rules text m).result = .ok r →
      (expand rules u m).result = .ok r := by
    intro m r hok
    obtain ⟨d, hbudget, hrun⟩ := Expansion.run_ok_of_meet hsteps hback hok
    exact Expansion.run_ok_of_le (by omega) hrun
  have hiff : ∀ r, (∃ m, (expand rules text m).result = .ok r) ↔
      ∃ m, (expand rules u m).result = .ok r := by
    intro r
    constructor
    · rintro ⟨m, hok⟩
      exact ⟨m, hfresh m r hok⟩
    · rintro ⟨m, hok⟩
      obtain ⟨d, -, hrun⟩ := Expansion.run_ok_of_meet hback hsteps hok
      rw [← expand_natCast_sub_one] at hrun
      exact ⟨_, hrun⟩
  refine ⟨hiff, ?_, hfresh⟩
  rw [forall_exceeded_iff, forall_exceeded_iff]
  exact forall_congr' fun r => not_congr (hiff r)

/-- The expansion is interrupted behind tokens that it has passed over twice: before and after a
value was put in, which holds tokens of both kinds itself. -/
theorem expand_resumed_behind_skipped :
    let rules := Rules.ofPairs [(['X'], .ofString "<$(2)>$(Y)"), (['Y'], ['y'])]
    let text := Text.ofString "$(1$(Z))$(X)"
    let u := Text.ofString "$(1$(Z))<$(2)>$(Y)"
    let r := Text.ofString "$(1$(Z))<$(2)>y"
    (expand rules text 4).result = .error u ∧
      ((∃ m, (expand rules text m).result = .ok r) ↔ ∃ m, (expand rules u m).result = .ok r) ∧
      (¬ ∀ m, ∃ v, (expand rules text m).result = .error v) ∧
      (¬ ∀ m, ∃ v, (expand rules u m).result = .error v) ∧
      (expand rules text 10).result = .ok r ∧ (expand rules u 10).result = .ok r := by
  intro rules text u r
  have hexceeded : (expand rules text 4).result = .error u :=
    Run.result_eq_error_iff.2 (by decide +kernel)
  have hten : (expand rules text 10).result = .ok r :=
    Run.result_eq_ok_iff.2 (by decide +kernel)
  obtain ⟨hiff, hnever, hfresh⟩ := expand_resumed hexceeded
  have hsome : ¬ ∀ m, ∃ v, (expand rules text m).result = .error v := by
    rw [forall_exceeded_iff]
    exact fun hnone => hnone r ⟨10, hten⟩
  exact ⟨hexceeded, hiff r, hsome, mt hnever.2 hsome, hten, hfresh 10 r hten⟩

end TextMacros
