import TextMacros.Proofs.Expansion.Steps

/-!
# TextMacros.Proofs.Expansion.Bound

What the bound of an expansion decides.

A text is expanded in one way only, and a bound does no more than cut this short: a run with a
larger budget is the run with the smaller one if that has settled, and otherwise it goes on
where the smaller budget was used up (`run_of_le`).  So a settled expansion needs just as many
steps as it has made.  With a bound of at least that many it is always the same
(`expand_eq_of_settled`), and with any smaller one the bound is exceeded (`exceeded_of_lt`).

Main statement: `expand_bound`, by which the bound decides whether there is an answer, but never
which one.
-/

namespace TextMacros

variable {rules : Rules} {e : Expansion} {text : Text} {m n : Int}

/-! ## two budgets -/

namespace Expansion

/-- A larger budget changes nothing of a run that has settled, and goes on where the budget of a
run was used up. -/
theorem run_of_le (rules : Rules) (e : Expansion) {b b' : Nat} (hb : b ≤ b') :
    (e.run rules b).ending = .settled ∧ e.run rules b' = e.run rules b ∨
      (e.run rules b).ending = .exceeded ∧ ∃ f, Steps rules e (e.run rules b).steps f ∧
        e.run rules b' = (f.run rules (b' - b)).after (e.run rules b).steps := by
  obtain ⟨f, hsteps, htext, hending⟩ := run_spec rules b e
  rcases hending with ⟨hsettled, hnone, hlength⟩ | ⟨hexceeded, hlength⟩
  · left
    refine ⟨hsettled, ?_⟩
    obtain ⟨d, rfl⟩ : ∃ d, b' = (e.run rules b).steps.length + (d + 1) :=
      ⟨b' - (e.run rules b).steps.length - 1, by omega⟩
    rw [run_of_steps hsteps, run_of_step?_eq_none hnone, Run.after, List.append_nil, ← htext,
      ← hsettled]
  · right
    refine ⟨hexceeded, f, hsteps, ?_⟩
    have hrun := run_of_steps hsteps (b' - b)
    rwa [hlength, Nat.add_sub_cancel' hb] at hrun

/-- A run with a smaller budget makes the first steps of a run with a larger one. -/
theorem steps_run_prefix (rules : Rules) (e : Expansion) {b b' : Nat} (hb : b ≤ b') :
    (e.run rules b).steps <+: (e.run rules b').steps := by
  rcases run_of_le rules e hb with ⟨-, hrun⟩ | ⟨-, f, -, hrun⟩
  · simp [hrun]
  · simp [hrun]

/-- An answer stays the answer with a larger budget. -/
theorem run_ok_of_le {b b' : Nat} {r : Text} (hb : b ≤ b')
    (hok : (e.run rules b).result = .ok r) : (e.run rules b').result = .ok r := by
  have hsettled := (Run.result_eq_ok_iff.1 hok).1
  rcases run_of_le rules e hb with ⟨-, hrun⟩ | ⟨hexceeded, -⟩
  · rw [hrun]
    exact hok
  · exact absurd hsettled (Run.not_settled_iff.2 hexceeded)

end Expansion

/-! ## two bounds -/

/-- A settled expansion has made no more steps than its bound allows. -/
theorem length_steps_le (h : (expand rules text m).ending = .settled) :
    ((expand rules text m).steps.length : Int) ≤ m := by
  obtain ⟨_, -, -, ⟨-, -, hlength⟩ | ⟨hexceeded, -⟩⟩ :=
    Expansion.run_spec rules (m + 1).toNat (.start text)
  · have hlt : (expand rules text m).steps.length < (m + 1).toNat := hlength
    omega
  · exact absurd h (Run.not_settled_iff.2 hexceeded)

/-- An expansion whose bound was exceeded has made one step more than it allows. -/
theorem length_steps_of_exceeded (h : (expand rules text m).ending = .exceeded) (nonneg : 0 ≤ m) :
    ((expand rules text m).steps.length : Int) = m + 1 := by
  obtain ⟨_, -, -, ⟨hsettled, -⟩ | ⟨-, hlength⟩⟩ :=
    Expansion.run_spec rules (m + 1).toNat (.start text)
  · exact absurd hsettled (Run.not_settled_iff.2 h)
  · have heq : (expand rules text m).steps.length = (m + 1).toNat := hlength
    omega

/-- Every bound that allows the steps of a settled expansion gives that expansion. -/
theorem expand_eq_of_settled (h : (expand rules text m).ending = .settled)
    (hn : ((expand rules text m).steps.length : Int) ≤ n) :
    expand rules text n = expand rules text m := by
  obtain ⟨f, hsteps, -, hnone⟩ := steps_of_settled h
  rw [expand_of_steps_settled hsteps hnone hn]
  exact (expand_of_steps_settled hsteps hnone (length_steps_le h)).symm

/-- A bound that does not allow the steps of a settled expansion is exceeded. -/
theorem exceeded_of_lt (h : (expand rules text m).ending = .settled)
    (hn : n < (expand rules text m).steps.length) : (expand rules text n).ending = .exceeded := by
  obtain ⟨f, hsteps, -, -⟩ := steps_of_settled h
  exact Expansion.exceeded_of_steps hsteps (by omega)

/-- A larger bound changes nothing of a settled expansion. -/
theorem expand_eq_of_le (h : (expand rules text m).ending = .settled) (hmn : m ≤ n) :
    expand rules text n = expand rules text m :=
  expand_eq_of_settled h (Int.le_trans (length_steps_le h) hmn)

/-- The names asked for with a smaller bound are the first ones asked for with a larger one. -/
theorem lookups_prefix (rules : Rules) (text : Text) (hmn : m ≤ n) :
    (expand rules text m).lookups <+: (expand rules text n).lookups := by
  have hbudget : (m + 1).toNat ≤ (n + 1).toNat := by omega
  have hsteps : (expand rules text m).steps <+: (expand rules text n).steps :=
    Expansion.steps_run_prefix rules _ hbudget
  exact (hsteps.filter _).map _

/-- **The bound only decides success, never the answer**: an answer that one bound gives, every
larger bound gives as well, after the same look-ups; where a larger bound is exceeded, the
smaller one is; and the look-ups with the smaller bound are the first ones with the larger.  So
for each text there is a least bound from which on the answer is always the same, or no bound
gives one. -/
theorem expand_bound (rules : Rules) (text : Text) :
    (∀ m n : Int, m ≤ n →
      (∀ r, (expand rules text m).result = .ok r → (expand rules text n).result = .ok r ∧
        (expand rules text n).lookups = (expand rules text m).lookups) ∧
      (∀ u, (expand rules text n).result = .error u →
        ∃ v, (expand rules text m).result = .error v) ∧
      (expand rules text m).lookups <+: (expand rules text n).lookups) ∧
    ((∃ (least : Nat) (r : Text) (names : List Text),
        (∀ m : Int, least ≤ m → (expand rules text m).result = .ok r ∧
          (expand rules text m).lookups = names) ∧
        ∀ m : Int, m < least → ∃ u, (expand rules text m).result = .error u) ∨
      ∀ m : Int, ∃ u, (expand rules text m).result = .error u) := by
  constructor
  · intro m n hmn
    refine ⟨fun r hr => ?_, fun u hu => ?_, lookups_prefix rules text hmn⟩
    · have hsettled := (Run.result_eq_ok_iff.1 hr).1
      rw [expand_eq_of_le hsettled hmn]
      exact ⟨hr, rfl⟩
    · rw [Run.exists_error_iff, ← Run.not_settled_iff]
      intro hsettled
      rw [expand_eq_of_le hsettled hmn] at hu
      exact Run.not_settled_iff.2 (Run.exists_error_iff.1 ⟨u, hu⟩) hsettled
  · by_cases hsome : ∃ m, (expand rules text m).ending = .settled
    · obtain ⟨m, hsettled⟩ := hsome
      left
      -- the least bound allows exactly the steps that are made
      refine ⟨(expand rules text m).steps.length, unescape (expand rules text m).text,
        (expand rules text m).lookups, fun n hn => ?_, fun n hn => ?_⟩
      · rw [expand_eq_of_settled hsettled hn]
        exact ⟨Run.result_eq_ok_iff.2 ⟨hsettled, rfl⟩, rfl⟩
      · exact Run.exists_error_iff.2 (exceeded_of_lt hsettled hn)
    · right
      intro m
      rw [Run.exists_error_iff, ← Run.not_settled_iff]
      exact fun hsettled => hsome ⟨m, hsettled⟩

/-- A text that takes four steps, one of each kind but a restart, with bounds that allow them, one
that does not, and a negative one. -/
theorem expand_bound_of_four_steps :
    let rules := Rules.ofPairs [(['A'], .ofString "$(B)$(C)"), (['B'], ['b'])]
    let text := Text.ofString "$(A)$(1)"
    ((4 : Int) ≤ 9 ∧ (expand rules text 4).result = .ok (.ofString "b$(C)$(1)")) ∧
      (expand rules text 9).result = .ok (.ofString "b$(C)$(1)") ∧
      (expand rules text 9).lookups = (expand rules text 4).lookups ∧
    ((-2 : Int) ≤ 1 ∧ (expand rules text 1).result = .error (.ofString "b$(C)$(1)")) ∧
      (∃ v, (expand rules text (-2)).result = .error v) ∧
    (1 : Int) ≤ 4 ∧ (expand rules text 1).lookups <+: (expand rules text 4).lookups := by
  intro rules text
  have hfour : (expand rules text 4).result = .ok (.ofString "b$(C)$(1)") :=
    Run.result_eq_ok_iff.2 (by decide +kernel)
  have hone : (expand rules text 1).result = .error (.ofString "b$(C)$(1)") :=
    Run.result_eq_error_iff.2 (by decide +kernel)
  obtain ⟨hbounds, -⟩ := expand_bound rules text
  obtain ⟨hnine, hlookups⟩ := (hbounds 4 9 (by decide)).1 _ hfour
  refine ⟨⟨by decide, hfour⟩, hnine, hlookups, ⟨by decide, hone⟩, ?_, by decide, ?_⟩
  · exact (hbounds (-2) 1 (by decide)).2.1 _ hone
  · exact (hbounds 1 4 (by decide)).2.2

end TextMacros
