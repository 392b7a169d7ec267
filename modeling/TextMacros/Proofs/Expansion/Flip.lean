import TextMacros.Proofs.Expansion.Steps
import TextMacros.Proofs.Token.Flip
import TextMacros.Proofs.TokenTree.Basic

/-!
# TextMacros.Proofs.Expansion.Flip

Expanding a text with its brackets exchanged.

If the brackets of a text and of all values are exchanged for those of the other kind, each step
finds the same token, flipped, and does the same with it, flipped (`Action.Due.flip`,
`Expansion.step?_flip`); so the run is the same, flipped (`Expansion.run_flip`).

The values are asked for flipped names then.  As long as no name holds a bracket that is asking
for the same names: whatever holds one is passed over with both kinds of bracket.  Main statement:
`expand_flip`, by which round and curly brackets are treated alike.
-/

namespace TextMacros

variable {rules : Rules} {token : Token}

/-! ## rules -/

/-- The rules with the values flipped. -/
def Rules.flip (rules : Rules) : Rules :=
  ⟨fun name => (rules.value? name).map Text.flip, rules.isName⟩

/-- Rules by which no name holds a bracket. -/
def Rules.NoBracket (rules : Rules) : Prop :=
  ∀ name, rules.isName name = true → name.flip = name

theorem Rules.NoBracket.isName_flip (h : rules.NoBracket) (name : Text) :
    rules.isName name.flip = rules.isName name := by
  rw [Bool.eq_iff_iff]
  constructor
  · intro hname
    have hflip := h _ hname
    rw [Text.flip_flip] at hflip
    rwa [hflip]
  · intro hname
    rwa [h _ hname]

/-- The names that are names by default hold no bracket. -/
theorem Name.flip_eq (n : Name) : n.1.flip = n.1 := by
  refine Text.flip_of_forall fun c hc => flipChar_of_notMem fun hmem => ?_
  have hplain := n.isPlain hc
  simp only [List.mem_cons, List.not_mem_nil, or_false] at hmem
  rcases hmem with rfl | rfl | rfl | rfl <;> exact absurd hplain (by decide)

theorem noBracket_default (value? : Text → Option Text) :
    Rules.NoBracket ⟨value?, defaultName.isMatch⟩ :=
  fun name hname => Name.flip_eq ⟨name, hname⟩

/-! ## what is due -/

/-- A value refers to a name without brackets if and only if the flipped value does. -/
theorem refersTo_flip {name : Text} (h : name.flip = name) (v : Text) :
    refersTo name v.flip = refersTo name v := by
  rw [Bool.eq_iff_iff, refersTo, refersTo, beq_iff_eq, beq_iff_eq, Token.find?_flip]
  cases Token.find? v 0 with
  | none => rfl
  | some token => simp only [Option.map_some, Token.flip, Option.some.injEq, Text.flip_eq_iff h]

/-- The action with what it puts in flipped. -/
def Action.flip : Action → Action
  | skip => skip
  | leave => leave
  | restart r => restart r.flip
  | splice r => splice r.flip

theorem Action.looksUp_flip (action : Action) : action.flip.looksUp = action.looksUp := by
  cases action <;> rfl

/-- For the flipped token the same is due, flipped. -/
theorem Action.Due.flip {action : Action} (names : rules.NoBracket)
    (h : Due rules token action) : Due rules.flip token.flip action.flip := by
  have hname : rules.flip.isName token.flip.name = rules.isName token.name :=
    names.isName_flip token.name
  have hvalue : ∀ {o : Option Text}, rules.isName token.name = true →
      rules.value? token.name = o → rules.flip.value? token.flip.name = o.map Text.flip := by
    rintro o name rfl
    rw [Token.name_flip, names _ name]
    rfl
  have hrefers : ∀ {v : Text} {b : Bool}, rules.isName token.name = true →
      refersTo token.name v = b → refersTo token.flip.name v.flip = b := by
    rintro v b name rfl
    rw [Token.name_flip, names _ name, refersTo_flip (names _ name)]
  cases h with
  | skip name => exact .skip (hname.trans name)
  | leave name value default =>
    refine .leave (hname.trans name) (hvalue name value) ?_
    rw [Token.default?_flip, default, Option.map_none]
  | restart name value refers =>
    rw [Action.flip, ← Option.getD_map Text.flip]
    exact .restart (hname.trans name) (hvalue name value) (hrefers name refers)
  | value name value refers =>
    exact .value (hname.trans name) (hvalue name value) (hrefers name refers)
  | default name value default =>
    refine .default (hname.trans name) (hvalue name value) ?_
    rw [Token.default?_flip, default, Option.map_some]

/-! ## steps and runs -/

/-- The step with its token and its action flipped. -/
def Step.flip (s : Step) : Step := ⟨s.token.flip, s.action.flip⟩

namespace Expansion

/-- The expansion with its working text flipped. -/
def flip (e : Expansion) : Expansion := ⟨e.text.flip, e.offset⟩

theorem apply_flip (e : Expansion) (token : Token) (action : Action) :
    e.flip.apply token.flip action.flip = (e.apply token action).flip := by
  cases action with
  | skip | leave | restart r => rfl
  | splice r =>
    rw [Action.flip, apply, apply, flip, Token.span_flip, splice_flip]
    rfl

/-- The flipped expansion makes the flipped step. -/
theorem step?_flip (names : rules.NoBracket) (e : Expansion) :
    e.flip.step? rules.flip = (e.step? rules).map fun p => (p.1.flip, p.2.flip) := by
  cases hstep : e.step? rules with
  | none =>
    rw [step?_eq_none_iff] at hstep
    rw [Option.map_none, step?_eq_none_iff, flip, Token.find?_flip, hstep, Option.map_none]
  | some p =>
    obtain ⟨s, f⟩ := p
    obtain ⟨hfind, hdue, rfl⟩ := step?_eq_some_iff.1 hstep
    rw [Option.map_some, step?_eq_some_iff]
    refine ⟨?_, hdue.flip names, (apply_flip e s.token s.action).symm⟩
    rw [flip, Token.find?_flip, hfind]
    rfl

end Expansion

namespace Run

/-- The run with all its texts flipped. -/
def flip (run : Run) : Run := ⟨run.steps.map Step.flip, run.text.flip, run.ending⟩

theorem result_flip_eq_ok_iff {run : Run} {r : Text} :
    run.flip.result = .ok r.flip ↔ run.result = .ok r := by
  rw [result_eq_ok_iff, result_eq_ok_iff, flip, unescape_flip, Text.flip_inj]

theorem result_flip_eq_error_iff {run : Run} {u : Text} :
    run.flip.result = .error u.flip ↔ run.result = .error u := by
  rw [result_eq_error_iff, result_eq_error_iff, flip, Text.flip_inj]

theorem lookups_flip (run : Run) : run.flip.lookups = run.lookups.map Text.flip := by
  have hfilter : (fun s : Step => s.action.looksUp) ∘ Step.flip = fun s => s.action.looksUp :=
    funext fun s => Action.looksUp_flip s.action
  rw [lookups_eq, lookups_eq, lookupsOf, lookupsOf, flip, List.filter_map, hfilter, List.map_map,
    List.map_map]
  rfl

end Run

/-- The flipped expansion makes the flipped run. -/
theorem Expansion.run_flip (names : rules.NoBracket) (budget : Nat) (e : Expansion) :
    e.flip.run rules.flip budget = (e.run rules budget).flip := by
  induction budget generalizing e with
  | zero => rfl
  | succ budget ih =>
    have hflip := step?_flip names e
    cases hstep : e.step? rules with
    | none =>
      rw [hstep, Option.map_none] at hflip
      rw [run_of_step?_eq_none hstep, run_of_step?_eq_none hflip]
      rfl
    | some p =>
      rw [hstep, Option.map_some] at hflip
      rw [run_of_step?_eq_some hstep, run_of_step?_eq_some hflip, ih]
      rfl

/-! ## expanding a text -/

/-- **Round and curly brackets are treated alike**: with the brackets of the text and of all
values exchanged, the same names are looked up in the same order, and the answer, or the text at
which the bound was exceeded, is the one there was before with its brackets exchanged. -/
theorem expand_flip (value? : Text → Option Text) (text : Text) (bound : Int) :
    let rules : Rules := ⟨value?, defaultName.isMatch⟩
    (∀ r, (expand rules.flip text.flip bound).result = .ok r.flip ↔
      (expand rules text bound).result = .ok r) ∧
    (∀ u, (expand rules.flip text.flip bound).result = .error u.flip ↔
      (expand rules text bound).result = .error u) ∧
    (expand rules.flip text.flip bound).lookups = (expand rules text bound).lookups := by
  intro rules
  have names : rules.NoBracket := noBracket_default value?
  have hrun : expand rules.flip text.flip bound = (expand rules text bound).flip :=
    Expansion.run_flip names (bound + 1).toNat (.start text)
  rw [hrun, Run.lookups_flip]
  refine ⟨fun r => Run.result_flip_eq_ok_iff, fun u => Run.result_flip_eq_error_iff, ?_⟩
  refine (List.map_congr_left fun name hmem => ?_).trans (List.map_id _)
  exact names name (isName_of_mem_lookups hmem)

end TextMacros
