import TextMacros.NamePattern
import TextMacros.Proofs.Token.Context
import TextMacros.Expansion

/-!
# TextMacros.Proofs.Expansion.Steps

What one step does, and what a run is made of.

A step is taken apart once: `Action.Due` lists what is due for a token, one constructor for each
way a step can go, and `Action.of_eq_iff` says that nothing else is done.  A run is taken apart
once as well: `Steps rules e steps f` says that `steps` lead from `e` to `f`, and

* `run_spec`: a run is such a chain of steps, which ends where no step is left or where the
  budget is used up;
* `run_of_steps`: a chain of steps is the front of every run long enough.

Whatever each step keeps is kept by a chain of them (`Steps.induct`).
-/

namespace TextMacros

variable {rules : Rules} {token : Token} {e f g : Expansion} {step : Step} {steps : List Step}

/-! ## what is due for a token -/

/-- A value without dollars refers to nothing. -/
theorem refersTo_of_noDollar {v : Text} (h : '$' ∉ v) (name : Text) :
    refersTo name v = false := by
  rw [refersTo, Token.find?_of_noDollar h]
  rfl

/-- What is to be done with a token, by what its name and its default are. -/
inductive Action.Due (rules : Rules) (token : Token) : Action → Prop
  | skip (name : rules.isName token.name = false) : Due rules token .skip
  | leave (name : rules.isName token.name = true) (value : rules.value? token.name = none)
      (default : token.default? = none) : Due rules token .leave
  | restart {v : Text} (name : rules.isName token.name = true)
      (value : rules.value? token.name = some v) (refers : refersTo token.name v = true) :
      Due rules token (.restart (token.default?.getD v))
  | value {v : Text} (name : rules.isName token.name = true)
      (value : rules.value? token.name = some v) (refers : refersTo token.name v = false) :
      Due rules token (.splice v)
  | default {v : Text} (name : rules.isName token.name = true)
      (value : rules.value? token.name = none) (default : token.default? = some v) :
      Due rules token (.splice v)

theorem Action.of_of_due {action : Action} (h : Due rules token action) :
    Action.of rules token = action := by
  cases h with
  | skip name => simp [Action.of, name]
  | leave name value default => simp [Action.of, name, value, default]
  | restart name value refers => simp [Action.of, name, value, refers]
  | value name value refers => simp [Action.of, name, value, refers]
  | default name value default => simp [Action.of, name, value, default]

/-- Something is due for every token. -/
theorem Action.exists_due (rules : Rules) (token : Token) : ∃ action, Due rules token action := by
  cases hname : rules.isName token.name with
  | false => exact ⟨_, .skip hname⟩
  | true =>
    cases hvalue : rules.value? token.name with
    | none =>
      cases hdefault : token.default? with
      | none => exact ⟨_, .leave hname hvalue hdefault⟩
      | some v => exact ⟨_, .default hname hvalue hdefault⟩
    | some v =>
      cases hrefers : refersTo token.name v with
      | false => exact ⟨_, .value hname hvalue hrefers⟩
      | true => exact ⟨_, .restart hname hvalue hrefers⟩

/-- A step does what is due, and nothing else. -/
theorem Action.of_eq_iff {action : Action} :
    Action.of rules token = action ↔ Due rules token action := by
  refine ⟨fun h => ?_, of_of_due⟩
  obtain ⟨due, hdue⟩ := exists_due rules token
  rw [← h, of_of_due hdue]
  exact hdue

/-- Exactly the names are looked up. -/
theorem Action.Due.looksUp {action : Action} (h : Due rules token action) :
    action.looksUp = rules.isName token.name := by
  cases h with
  | skip name | leave name | restart name | value name | default name => exact name.symm

/-- What is due depends on the name and the default, not on where the token stands. -/
theorem Action.due_shift {action : Action} (d : Nat) :
    Due rules (token.shift d) action ↔ Due rules token action := by
  rw [← of_eq_iff, ← of_eq_iff]
  rfl

/-- A token for which nothing can ever be put: its name is no name, or it has neither a value
nor a default. -/
def Token.Unresolvable (rules : Rules) (token : Token) : Prop :=
  rules.isName token.name = false ∨ token.default? = none ∧ rules.value? token.name = none

/-- Exactly the tokens passed over are those for which nothing can be put. -/
theorem Token.unresolvable_iff :
    token.Unresolvable rules ↔
      Action.of rules token = .skip ∨ Action.of rules token = .leave := by
  rw [Action.of_eq_iff, Action.of_eq_iff]
  constructor
  · rintro (name | ⟨default, value⟩)
    · exact .inl (.skip name)
    · cases name : rules.isName token.name with
      | false => exact .inl (.skip name)
      | true => exact .inr (.leave name value default)
  · rintro (due | due)
    · cases due with
      | skip name => exact .inl name
    · cases due with
      | leave name value default => exact .inr ⟨default, value⟩

/-! ## one step -/

namespace Expansion

theorem step?_eq_some_iff :
    e.step? rules = some (step, f) ↔
      Token.find? e.text e.offset = some step.token ∧
        Action.Due rules step.token step.action ∧ f = e.apply step.token step.action := by
  rw [step?, Option.map_eq_some_iff]
  constructor
  · rintro ⟨token, ht, h⟩
    simp only [Prod.mk.injEq] at h
    obtain ⟨rfl, rfl⟩ := h
    exact ⟨ht, Action.of_eq_iff.1 rfl, rfl⟩
  · rintro ⟨ht, hdue, rfl⟩
    refine ⟨step.token, ht, ?_⟩
    rw [Action.of_eq_iff.2 hdue]

theorem step?_eq_none_iff :
    e.step? rules = none ↔ Token.find? e.text e.offset = none := by
  rw [step?, Option.map_eq_none_iff]

/-! ## chains of steps -/

/-- The steps lead from one expansion to another. -/
inductive Steps (rules : Rules) : Expansion → List Step → Expansion → Prop
  | nil (e : Expansion) : Steps rules e [] e
  | cons {e f g : Expansion} {step : Step} {steps : List Step}
      (head : e.step? rules = some (step, f)) (tail : Steps rules f steps g) :
      Steps rules e (step :: steps) g

theorem Steps.single (h : e.step? rules = some (step, f)) : Steps rules e [step] f :=
  .cons h (.nil f)

theorem Steps.append {more : List Step} (h : Steps rules e steps f)
    (h' : Steps rules f more g) : Steps rules e (steps ++ more) g := by
  induction h with
  | nil => exact h'
  | cons head _ ih => exact .cons head (ih h')

/-- Every step of a chain does what is due for its token. -/
theorem Steps.due (h : Steps rules e steps f) {s : Step} (hs : s ∈ steps) :
    Action.Due rules s.token s.action := by
  induction h with
  | nil => exact absurd hs List.not_mem_nil
  | cons head _ ih =>
    rcases List.mem_cons.1 hs with rfl | hmem
    · exact (step?_eq_some_iff.1 head).2.1
    · exact ih hmem

/-- What every step keeps, a chain of steps keeps. -/
theorem Steps.induct {P : Expansion → Prop}
    (keep : ∀ e f step, e.step? rules = some (step, f) → P e → P f)
    (h : Steps rules e steps f) (he : P e) : P f := by
  induction h with
  | nil => exact he
  | cons head _ ih => exact ih (keep _ _ _ head he)

end Expansion

/-! ## runs -/

namespace Run

/-- The run with some steps put before it. -/
def after (steps : List Step) (run : Run) : Run := { run with steps := steps ++ run.steps }

@[simp] theorem ending_after (steps : List Step) (run : Run) :
    (run.after steps).ending = run.ending := rfl

@[simp] theorem text_after (steps : List Step) (run : Run) :
    (run.after steps).text = run.text := rfl

@[simp] theorem steps_after (steps : List Step) (run : Run) :
    (run.after steps).steps = steps ++ run.steps := rfl

@[simp] theorem result_after (steps : List Step) (run : Run) :
    (run.after steps).result = run.result := rfl

@[simp] theorem result_cons (step : Step) (run : Run) : (run.cons step).result = run.result := rfl

theorem result_eq_ok_iff {run : Run} {r : Text} :
    run.result = .ok r ↔ run.ending = .settled ∧ unescape run.text = r := by
  rw [result]
  split
  next h => simp [h]
  next h => simp [h]

theorem result_eq_error_iff {run : Run} {u : Text} :
    run.result = .error u ↔ run.ending = .exceeded ∧ run.text = u := by
  rw [result]
  split
  next h => simp [h]
  next h => simp [h]

theorem exists_error_iff {run : Run} :
    (∃ u, run.result = .error u) ↔ run.ending = .exceeded := by
  constructor
  · rintro ⟨u, hu⟩
    exact (result_eq_error_iff.1 hu).1
  · intro hending
    exact ⟨run.text, result_eq_error_iff.2 ⟨hending, rfl⟩⟩

theorem not_settled_iff {run : Run} : run.ending ≠ .settled ↔ run.ending = .exceeded := by
  cases run.ending <;> simp

end Run

/-! ## names asked for -/

/-- The names whose values some steps ask for, in order and with repetitions. -/
def lookupsOf (steps : List Step) : List Text :=
  (steps.filter (·.action.looksUp)).map (·.token.name)

theorem Run.lookups_eq (run : Run) : run.lookups = lookupsOf run.steps := rfl

theorem lookupsOf_append (steps more : List Step) :
    lookupsOf (steps ++ more) = lookupsOf steps ++ lookupsOf more := by
  rw [lookupsOf, List.filter_append, List.map_append]
  rfl

@[simp] theorem Run.lookups_after (steps : List Step) (run : Run) :
    (run.after steps).lookups = lookupsOf steps ++ run.lookups :=
  lookupsOf_append steps run.steps

theorem Run.lookups_cons {s : Step} (h : s.action.looksUp = true) (run : Run) :
    (run.cons s).lookups = s.token.name :: run.lookups := by
  simp only [Run.lookups_eq, Run.steps_cons, lookupsOf, List.filter_cons, h, if_true,
    List.map_cons]

theorem mem_lookupsOf {s : Step} (hs : s ∈ steps) (h : s.action.looksUp = true) :
    s.token.name ∈ lookupsOf steps :=
  List.mem_map_of_mem (List.mem_filter.2 ⟨hs, h⟩)

/-! ## running -/

namespace Expansion

/-- Where no step is left, a run with any budget at all settles at once. -/
theorem run_of_step?_eq_none (h : e.step? rules = none) (budget : Nat) :
    e.run rules (budget + 1) = ⟨[], e.text, .settled⟩ := by
  rw [run, h]

/-- A run with any budget at all makes the next step. -/
theorem run_of_step?_eq_some (h : e.step? rules = some (step, f)) (budget : Nat) :
    e.run rules (budget + 1) = (f.run rules budget).cons step := by
  rw [run, h]

/-- A run of an expansion is a chain of steps.  It settles where no step is left, after fewer
steps than its budget, or it is exceeded when they are as many. -/
theorem run_spec (rules : Rules) (budget : Nat) (e : Expansion) :
    ∃ f, Steps rules e (e.run rules budget).steps f ∧ (e.run rules budget).text = f.text ∧
      ((e.run rules budget).ending = .settled ∧ f.step? rules = none ∧
          (e.run rules budget).steps.length < budget ∨
        (e.run rules budget).ending = .exceeded ∧
          (e.run rules budget).steps.length = budget) := by
  induction budget generalizing e with
  | zero => exact ⟨e, .nil e, rfl, .inr ⟨rfl, rfl⟩⟩
  | succ budget ih =>
    cases hstep : e.step? rules with
    | none =>
      rw [run_of_step?_eq_none hstep]
      exact ⟨e, .nil e, rfl, .inl ⟨rfl, hstep, Nat.succ_pos budget⟩⟩
    | some p =>
      obtain ⟨step, next⟩ := p
      rw [run_of_step?_eq_some hstep]
      obtain ⟨f, hsteps, htext, hending⟩ := ih next
      refine ⟨f, .cons hstep hsteps, htext, ?_⟩
      simpa only [Run.ending_cons, Run.steps_cons, List.length_cons, Nat.add_lt_add_iff_right,
        Nat.add_right_cancel_iff] using hending

/-- A chain of steps is the front of every run that is long enough. -/
theorem run_of_steps (h : Steps rules e steps f) (budget : Nat) :
    e.run rules (steps.length + budget) = (f.run rules budget).after steps := by
  induction h with
  | nil => rw [List.length_nil, Nat.zero_add]; rfl
  | @cons e f g step steps head tail ih =>
    rw [List.length_cons, Nat.add_right_comm, run_of_step?_eq_some head, ih]
    rfl

/-- A budget that a chain of steps uses up is exceeded. -/
theorem exceeded_of_steps (h : Steps rules e steps f) {budget : Nat}
    (hb : budget ≤ steps.length) : (e.run rules budget).ending = .exceeded := by
  induction h generalizing budget with
  | nil =>
    obtain rfl := Nat.le_zero.1 hb
    rfl
  | @cons e f g step steps head tail ih =>
    cases budget with
    | zero => rfl
    | succ budget =>
      rw [run_of_step?_eq_some head, Run.ending_cons]
      exact ih (Nat.le_of_succ_le_succ hb)

end Expansion

/-! ## expanding a text -/

/-- A negative bound is exceeded at once. -/
theorem expand_of_neg {bound : Int} (h : bound < 0) (text : Text) :
    expand rules text bound = ⟨[], text, .exceeded⟩ := by
  have hbudget : (bound + 1).toNat = 0 := by omega
  rw [expand, hbudget]
  rfl

/-- An expansion of a text is a chain of steps from its front. -/
theorem exists_steps (rules : Rules) (text : Text) (bound : Int) :
    ∃ f, Expansion.Steps rules (.start text) (expand rules text bound).steps f ∧
      (expand rules text bound).text = f.text := by
  obtain ⟨f, hsteps, htext, -⟩ := Expansion.run_spec rules (bound + 1).toNat (.start text)
  exact ⟨f, hsteps, htext⟩

/-- Only names are looked up. -/
theorem isName_of_mem_lookups {text name : Text} {bound : Int}
    (h : name ∈ (expand rules text bound).lookups) : rules.isName name = true := by
  obtain ⟨s, hs, rfl⟩ := List.mem_map.1 h
  obtain ⟨hmem, hlooks⟩ := List.mem_filter.1 hs
  obtain ⟨f, hsteps, -⟩ := exists_steps rules text bound
  rw [← (hsteps.due hmem).looksUp]
  exact hlooks

/-- A settled expansion of a text is a chain of steps to where no step is left. -/
theorem steps_of_settled {text : Text} {bound : Int}
    (h : (expand rules text bound).ending = .settled) :
    ∃ f, Expansion.Steps rules (.start text) (expand rules text bound).steps f ∧
      (expand rules text bound).text = f.text ∧ f.step? rules = none := by
  obtain ⟨f, hsteps, htext, ⟨-, hnone, -⟩ | ⟨hex, -⟩⟩ :=
    Expansion.run_spec rules (bound + 1).toNat (.start text)
  · exact ⟨f, hsteps, htext, hnone⟩
  · have hexp : (expand rules text bound).ending = .exceeded := hex
    rw [hexp] at h
    contradiction

/-- Once some steps of the bound are made, the rest of it is for what they lead to. -/
theorem expand_of_steps {text : Text} {bound : Int}
    (h : Expansion.Steps rules (.start text) steps f) (hb : steps.length ≤ bound) :
    expand rules text bound =
      (f.run rules (bound - steps.length + 1).toNat).after steps := by
  rw [← Expansion.run_of_steps h, expand]
  congr 1
  omega

/-- Steps that lead to where no step is left are a whole expansion, whatever the bound. -/
theorem expand_of_steps_settled {text : Text} {bound : Int}
    (h : Expansion.Steps rules (.start text) steps f) (hf : f.step? rules = none)
    (hb : steps.length ≤ bound) :
    expand rules text bound = ⟨steps, f.text, .settled⟩ := by
  obtain ⟨budget, hbudget⟩ : ∃ n, (bound - steps.length + 1).toNat = n + 1 :=
    ⟨(bound - steps.length).toNat, by omega⟩
  rw [expand_of_steps h hb, hbudget, Expansion.run_of_step?_eq_none hf, Run.after,
    List.append_nil]

/-- So they tell what the expansion yields, and within which bounds. -/
theorem result_eq_ok_iff_of_steps {text : Text} {bound : Int} {r : Text}
    (h : Expansion.Steps rules (.start text) steps f) (hf : f.step? rules = none) :
    (expand rules text bound).result = .ok r ↔ steps.length ≤ bound ∧ r = unescape f.text := by
  rcases Int.lt_or_le bound steps.length with hlt | hle
  · have hexceeded : (expand rules text bound).ending = .exceeded :=
      Expansion.exceeded_of_steps h (by omega)
    simp [Run.result_eq_ok_iff, hexceeded, Int.not_le.2 hlt]
  · rw [expand_of_steps_settled h hf hle, Run.result_eq_ok_iff]
    simp [hle, eq_comm]

/-! ## rules written out -/

/-- The rules of some pairs of a name and its value, with the names that are names by default. -/
def Rules.ofPairs (pairs : List (Text × Text)) : Rules :=
  ⟨fun name => pairs.lookup name, defaultName.isMatch⟩

/-- A name that has a value stands in a pair with it. -/
theorem Rules.mem_of_value?_ofPairs {pairs : List (Text × Text)} {name v : Text}
    (h : (Rules.ofPairs pairs).value? name = some v) : (name, v) ∈ pairs := by
  obtain ⟨_, _, rfl, -⟩ := List.lookup_eq_some_iff.1 h
  simp

end TextMacros
