import TextMacros.Proofs.Expansion.Steps

/-!
# TextMacros.Proofs.Expansion.Concatenation

Expanding two texts joined.

As long as no step restarts, what is done at a token leaves the rest of the text alone.  So the
steps of a text are made in the same way with more text behind it (`Steps.followedBy`), and with
an inert text in front of it (`run_behind`), where only the offsets change: a scan from the
front passes an inert text over without a step.

Expanding `a ++ b` then is expanding `a` and after it `b`, provided that what `a` ends with is
inert.  Main statement: `expand_append`.
-/

namespace TextMacros

variable {rules : Rules} {e f : Expansion} {steps : List Step} {a b : Text} {s : Step}

/-! ## steps that do not restart -/

/-- No step throws away the text around its token. -/
def NoRestart (steps : List Step) : Prop :=
  ∀ s ∈ steps, ∀ r, s.action ≠ .restart r

theorem noRestart_cons : NoRestart (s :: steps) ↔ (∀ r, s.action ≠ .restart r) ∧
    NoRestart steps := by
  rw [NoRestart, List.forall_mem_cons]
  rfl

/-- Steps restart only where a value asked for refers to its own name. -/
theorem Expansion.Steps.noRestart (h : Expansion.Steps rules e steps f)
    (noSelf : ∀ name ∈ lookupsOf steps, ∀ v, rules.value? name = some v →
      refersTo name v = false) : NoRestart steps := by
  intro s hs r hr
  have hdue := h.due hs
  rw [hr] at hdue
  cases hdue with
  | restart name value refers =>
    have hmem : s.token.name ∈ lookupsOf steps := mem_lookupsOf hs (by rw [hr]; rfl)
    rw [noSelf _ hmem _ value] at refers
    contradiction

/-! ## text behind -/

namespace Expansion

/-- The expansion with more text behind. -/
def followedBy (e : Expansion) (b : Text) : Expansion := ⟨e.text ++ b, e.offset⟩

/-- A step that does not restart is made in the same way with more text behind. -/
theorem step?_followedBy (h : e.step? rules = some (s, f)) (hs : ∀ r, s.action ≠ .restart r)
    (b : Text) : (e.followedBy b).step? rules = some (s, f.followedBy b) := by
  obtain ⟨ht, hdue, rfl⟩ := step?_eq_some_iff.1 h
  refine step?_eq_some_iff.2 ⟨Token.find?_append_left ht b, hdue, ?_⟩
  have hbounds := Token.bounds_of_at? (Token.at?_of_find? ht)
  cases haction : s.action with
  | skip => rfl
  | leave => rfl
  | restart r => exact absurd haction (hs r)
  | splice r =>
    have hsplice : splice (e.text ++ b) s.token.span r = splice e.text s.token.span r ++ b :=
      splice_append_left (show s.token.start ≤ e.text.length by omega) hbounds.2.2 b r
    simp only [followedBy, apply, start, hsplice]

theorem Steps.followedBy (h : Steps rules e steps f) (hs : NoRestart steps) (b : Text) :
    Steps rules (e.followedBy b) steps (f.followedBy b) := by
  induction h with
  | nil e => exact .nil _
  | cons head tail ih =>
    obtain ⟨hhead, htail⟩ := noRestart_cons.1 hs
    exact .cons (step?_followedBy head hhead b) (ih htail)

/-- The offset stays in the text. -/
theorem Steps.offset_le (h : Steps rules e steps f) (he : e.offset ≤ e.text.length) :
    f.offset ≤ f.text.length := by
  refine h.induct (P := fun e => e.offset ≤ e.text.length) (fun e f s hs _ => ?_) he
  obtain ⟨ht, -, rfl⟩ := step?_eq_some_iff.1 hs
  have hbounds := Token.bounds_of_at? (Token.at?_of_find? ht)
  cases s.action with
  | skip | leave => exact Nat.le_of_lt (Nat.lt_of_le_of_lt hbounds.2.1 hbounds.2.2)
  | restart r | splice r => exact Nat.zero_le _

end Expansion

/-! ## text in front -/

/-- The step as it is made with `d` more characters in front. -/
def Step.shift (d : Nat) (s : Step) : Step := ⟨s.token.shift d, s.action⟩

namespace Run

/-- The run with a text in front that it leaves alone. -/
def behind (a : Text) (run : Run) : Run :=
  ⟨run.steps.map (Step.shift a.length), a ++ run.text, run.ending⟩

theorem lookups_behind (a : Text) (run : Run) : (run.behind a).lookups = run.lookups := by
  rw [lookups_eq, lookups_eq, lookupsOf, lookupsOf, behind, List.filter_map, List.map_map]
  rfl

theorem result_behind_of_ok {run : Run} {r : Text} (ha : a.getLast? ≠ some Bracket.escape)
    (h : run.result = .ok r) : (run.behind a).result = .ok (unescape a ++ r) := by
  obtain ⟨hending, rfl⟩ := result_eq_ok_iff.1 h
  exact result_eq_ok_iff.2 ⟨hending, unescape_append ha run.text⟩

theorem result_behind_of_error {run : Run} {u : Text} (h : run.result = .error u) :
    (run.behind a).result = .error (a ++ u) := by
  obtain ⟨hending, rfl⟩ := result_eq_error_iff.1 h
  exact result_eq_error_iff.2 ⟨hending, rfl⟩

end Run

namespace Expansion

/-- `f` does with `a` in front what `e` does.  Where `e` is scanned from its front, `f` may be
scanned from anywhere in `a`. -/
structure Behind (a : Text) (e f : Expansion) : Prop where
  text : f.text = a ++ e.text
  offset : f.offset = a.length + e.offset ∨ e.offset = 0 ∧ f.offset ≤ a.length

theorem Behind.find? (h : Behind a e f) (ha : Inert a) :
    Token.find? f.text f.offset = (Token.find? e.text e.offset).map (Token.shift a.length) := by
  obtain ⟨htext, hoffset⟩ := h
  rw [htext]
  rcases hoffset with hoffset | ⟨hzero, hle⟩
  · rw [hoffset, Token.find?_append_right ha.getLast?_ne]
  · rw [hzero]
    exact Token.find?_inertFrom_append (ha.inertFrom hle) e.text

/-- A step that does not restart is made in the same way with an inert text in front. -/
theorem Behind.step (h : Behind a e f) (ha : Inert a) {e' : Expansion}
    (hstep : e.step? rules = some (s, e')) (hs : ∀ r, s.action ≠ .restart r) :
    ∃ f', f.step? rules = some (s.shift a.length, f') ∧ Behind a e' f' := by
  obtain ⟨ht, hdue, rfl⟩ := step?_eq_some_iff.1 hstep
  have hfind : Token.find? f.text f.offset = some (s.token.shift a.length) := by
    rw [h.find? ha, ht, Option.map_some]
  refine ⟨_, step?_eq_some_iff.2 ⟨hfind, (Action.due_shift a.length).2 hdue, rfl⟩, ?_⟩
  obtain ⟨token, action⟩ := s
  cases action with
  | skip | leave => exact ⟨h.text, .inl (Nat.add_assoc a.length token.start 2)⟩
  | restart r => exact absurd rfl (hs r)
  | splice r =>
    refine ⟨?_, .inr ⟨rfl, Nat.zero_le _⟩⟩
    simp only [Step.shift, apply, start, h.text]
    exact splice_append_right token a e.text r

/-- A run that never restarts is made in the same way with an inert text in front. -/
theorem run_behind (h : Behind a e f) (ha : Inert a) (budget : Nat)
    (hs : NoRestart (e.run rules budget).steps) :
    f.run rules budget = (e.run rules budget).behind a := by
  induction budget generalizing e f with
  | zero => rw [run, run, Run.behind, h.text]; rfl
  | succ budget ih =>
    cases hstep : e.step? rules with
    | none =>
      have hnone : f.step? rules = none := by
        rw [step?_eq_none_iff] at hstep ⊢
        rw [h.find? ha, hstep, Option.map_none]
      rw [run_of_step?_eq_none hstep, run_of_step?_eq_none hnone]
      simp only [Run.behind, h.text, List.map_nil]
    | some p =>
      obtain ⟨s, e'⟩ := p
      rw [run_of_step?_eq_some hstep] at hs ⊢
      obtain ⟨hhead, htail⟩ := noRestart_cons.1 hs
      obtain ⟨f', hf', hbehind⟩ := h.step ha hstep hhead
      rw [run_of_step?_eq_some hf', ih hbehind htail]
      rfl

end Expansion

/-! ## joining -/

/-- **Compositionality over concatenation**: where `a` settles with an inert text, expanding
`a ++ b` makes the steps of `a` and then those of `b`, as long as no name asked for refers to
itself; a bound on the whole is shared between the two. -/
theorem expand_append {a' : Text} {n m : Int}
    (first : expand rules a n = ⟨steps, a', .settled⟩) (inert : Inert a')
    (enough : steps.length ≤ m)
    (noSelf : ∀ name ∈ lookupsOf steps ++ (expand rules b (m - steps.length)).lookups,
      ∀ v, rules.value? name = some v → refersTo name v = false) :
    (∀ r, (expand rules b (m - steps.length)).result = .ok r →
      (expand rules (a ++ b) m).result = .ok (unescape a' ++ r)) ∧
    (∀ u, (expand rules b (m - steps.length)).result = .error u →
      (expand rules (a ++ b) m).result = .error (a' ++ u)) ∧
    (expand rules (a ++ b) m).lookups =
      lookupsOf steps ++ (expand rules b (m - steps.length)).lookups := by
  have hsettled : (expand rules a n).ending = .settled := by rw [first]
  obtain ⟨f, hsteps, htext, -⟩ := steps_of_settled hsettled
  rw [first] at hsteps htext
  obtain rfl : a' = f.text := htext
  -- the steps of `a` are made with `b` behind it
  have hleft := hsteps.noRestart fun name hmem => noSelf name (List.mem_append_left _ hmem)
  have hfront : Expansion.Steps rules (.start (a ++ b)) steps (f.followedBy b) :=
    hsteps.followedBy hleft b
  -- what they lead to does what `b` does, with what `a` settled as in front
  obtain ⟨_, hrun, -, -⟩ := Expansion.run_spec rules (m - steps.length + 1).toNat (.start b)
  have hright := hrun.noRestart fun name hmem => noSelf name (List.mem_append_right _ hmem)
  have hbehind : Expansion.Behind f.text (.start b) (f.followedBy b) :=
    ⟨rfl, .inr ⟨rfl, hsteps.offset_le (Nat.zero_le _)⟩⟩
  have hwhole : expand rules (a ++ b) m =
      ((expand rules b (m - steps.length)).behind f.text).after steps := by
    rw [expand_of_steps hfront enough, Expansion.run_behind hbehind inert _ hright, expand]
  rw [hwhole, Run.result_after, Run.lookups_after, Run.lookups_behind]
  exact ⟨fun r hr => Run.result_behind_of_ok inert.getLast?_ne hr,
    fun u hu => Run.result_behind_of_error hu, rfl⟩

/-- The first text leaves escaped dollars behind; the second starts with a token, and either
settles or has its bound exceeded. -/
theorem expand_append_of_escaped :
    let pairs := [(Text.ofString "A", Text.ofString "\\$x"), (.ofString "B", .ofString "<$(A)>")]
    let rules := Rules.ofPairs pairs
    let steps : List Step := [⟨⟨['A'], none, 0, 3⟩, .splice (.ofString "\\$x")⟩,
      ⟨⟨['B'], none, 3, 6⟩, .splice (.ofString "<$(A)>")⟩,
      ⟨⟨['A'], none, 4, 7⟩, .splice (.ofString "\\$x")⟩]
    let a := Text.ofString "$(A)$(B)"
    let b := Text.ofString "$(C=$(B))$(D)"
    (expand rules a 3 = ⟨steps, .ofString "\\$x<\\$x>", .settled⟩ ∧
      Inert (.ofString "\\$x<\\$x>") ∧
      ∀ name v, rules.value? name = some v → refersTo name v = false) ∧
    (expand rules (a ++ b) 7).result = .ok (.ofString "$x<$x><$x>$(D)") ∧
    (expand rules (a ++ b) 5).result = .error (.ofString "\\$x<\\$x><\\$x>$(D)") ∧
    (expand rules (a ++ b) 7).lookups = [['A'], ['B'], ['A'], ['C'], ['B'], ['A'], ['D']] := by
  intro pairs rules steps a b
  have first : expand rules a 3 = ⟨steps, .ofString "\\$x<\\$x>", .settled⟩ := by decide +kernel
  have inert : Inert (.ofString "\\$x<\\$x>") := by decide +kernel
  have noSelf : ∀ name v, rules.value? name = some v → refersTo name v = false := by
    intro name v hv
    have hall : ∀ p ∈ pairs, refersTo p.1 p.2 = false := by decide +kernel
    exact hall (name, v) (Rules.mem_of_value?_ofPairs hv)
  obtain ⟨hok, -, hlookups⟩ := expand_append (b := b) (m := 7) first inert (by decide)
    fun name _ v hv => noSelf name v hv
  obtain ⟨-, herror, -⟩ := expand_append (b := b) (m := 5) first inert (by decide)
    fun name _ v hv => noSelf name v hv
  refine ⟨⟨first, inert, noSelf⟩, ?_, ?_, ?_⟩
  · exact hok (.ofString "<$x>$(D)") (Run.result_eq_ok_iff.2 (by decide +kernel))
  · exact herror (.ofString "<\\$x>$(D)") (Run.result_eq_error_iff.2 (by decide +kernel))
  · rw [hlookups]
    decide +kernel

end TextMacros
