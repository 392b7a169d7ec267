import Mathlib.Data.Nat.Choose.Basic
import TextMacros.Proofs.Expansion.Steps
import TextMacros.Proofs.TokenTree.Basic

/-!
# TextMacros.Proofs.Expansion.StepBound

How many steps an expansion takes.

Let no value hold a dollar.  Then each step either passes a dollar over, or takes away at least
one dollar and has the scan start anew.  So there is one step for each dollar that is not yet
scanned, and one for each pair of dollars, since the one may be scanned again after the other has
gone: this is the `allowance` of an expansion, and every step uses some of it
(`Expansion.allowance_lt`).  A text with `d` dollars settles within `d * (d + 1) / 2` steps,
whatever its shape.

The text `$($(…$(name)…))` takes just as many: only the innermost token bears a name, and the scan
passes all the others over to come to it (`steps_round`), once for each name that leads to the
next one.  Main statement: `settled_within_dollars`.
-/

namespace TextMacros

variable {rules : Rules} {e f : Expansion} {steps : List Step} {token : Token} {t : Text}

/-- Rules by which no dollar comes in with a value. -/
def Rules.NoDollar (rules : Rules) : Prop :=
  ∀ name v, rules.value? name = some v → '$' ∉ v

/-! ## counting dollars -/

theorem count_drop_lt {c : Char} {i n m : Nat} (hi : t[i]? = some c) (hn : n ≤ i) (hm : i < m) :
    (t.drop m).count c < (t.drop n).count c := by
  obtain ⟨hlt, hget⟩ := List.getElem?_eq_some_iff.1 hi
  have hbefore := (List.drop_sublist_drop_left t hn).count_le c
  have hbehind := (List.drop_sublist_drop_left t (show i + 1 ≤ m from hm)).count_le c
  rw [List.drop_eq_getElem_cons hlt, hget, List.count_cons_self] at hbefore
  omega

/-- A dollar goes with the token, and no more come in than there are between its brackets. -/
theorem count_splice_lt {r : Text} (ht : Token.at? t token.start = some token)
    (hdollar : t[token.start]? = some '$')
    (hr : r.count '$' ≤ ((t.take token.stop).drop (token.start + 2)).count '$') :
    (splice t token.span r).count '$' < t.count '$' := by
  obtain ⟨-, hstop, hlt⟩ := Token.bounds_of_at? ht
  have hfront : t.count '$' = (t.take token.start).count '$' + (t.drop token.start).count '$' := by
    rw [← List.count_append, List.take_append_drop]
  have hopener := count_drop_lt hdollar (Nat.le_refl _) (show token.start < token.start + 2 by omega)
  have hbody : (t.drop (token.start + 2)).count '$' =
      ((t.take token.stop).drop (token.start + 2)).count '$' + (t.drop token.stop).count '$' := by
    rw [← List.count_append, ← List.drop_append_of_le_length (by rw [List.length_take]; omega),
      List.take_append_drop]
  have hbehind := (List.drop_sublist_drop_left t (Nat.le_add_right token.stop 1)).count_le '$'
  rw [splice, List.count_append, List.count_append]
  simp only [Token.span]
  omega

/-- What takes the place of a token brings fewer dollars in than go. -/
theorem count_splice_lt_of_due {r : Text} (values : rules.NoDollar)
    (ht : Token.at? t token.start = some token) (hdollar : t[token.start]? = some '$')
    (hdue : Action.Due rules token (.splice r)) :
    (splice t token.span r).count '$' < t.count '$' := by
  refine count_splice_lt ht hdollar ?_
  cases hdue with
  | value _ value _ =>
    rw [List.count_eq_zero.2 (values _ _ value)]
    exact Nat.zero_le _
  | default _ _ default => exact (Token.default_sublist_of_at? ht default).count_le '$'

/-! ## the allowance -/

/-- One step for each dollar not yet scanned, and one for each pair of dollars. -/
def Expansion.allowance (e : Expansion) : Nat :=
  (e.text.drop e.offset).count '$' + (e.text.count '$').choose 2

theorem add_choose_two (n : Nat) : n + n.choose 2 = (n + 1).choose 2 := by
  rw [Nat.choose_succ_succ', Nat.choose_one_right]

theorem choose_two_eq (n : Nat) : (n + 1).choose 2 = n * (n + 1) / 2 := by
  rw [Nat.choose_two_right, Nat.add_sub_cancel, Nat.mul_comm]

theorem Expansion.allowance_start (t : Text) :
    (start t).allowance = (t.count '$' + 1).choose 2 :=
  add_choose_two (t.count '$')

/-- Every step uses some of the allowance. -/
theorem Expansion.allowance_lt {s : Step} (values : rules.NoDollar)
    (h : e.step? rules = some (s, f)) : f.allowance < e.allowance := by
  obtain ⟨ht, hdue, rfl⟩ := step?_eq_some_iff.1 h
  obtain ⟨⟨hle, hdollar, -⟩, hat⟩ := Token.find?_eq_some_iff.1 ht
  have hscanned : (e.text.drop (s.token.start + 2)).count '$' < (e.text.drop e.offset).count '$' :=
    count_drop_lt hdollar.1 hle (by omega)
  cases haction : s.action with
  | skip | leave => exact Nat.add_lt_add_right hscanned _
  | restart r =>
    rw [haction] at hdue
    cases hdue with
    | restart _ value refers =>
      rw [refersTo_of_noDollar (values _ _ value)] at refers
      contradiction
  | splice r =>
    rw [haction] at hdue
    have hcount := count_splice_lt_of_due values hat hdollar.1 hdue
    have hpairs : ((splice e.text s.token.span r).count '$' + 1).choose 2 ≤
        (e.text.count '$').choose 2 := Nat.choose_le_choose 2 hcount
    rw [apply, allowance_start, allowance]
    omega

theorem Expansion.Steps.length_add_allowance_le (values : rules.NoDollar)
    (h : Expansion.Steps rules e steps f) : steps.length + f.allowance ≤ e.allowance := by
  induction h with
  | nil => rw [List.length_nil, Nat.zero_add]
  | cons head _ ih =>
    have hlt := Expansion.allowance_lt values head
    rw [List.length_cons]
    omega

/-- An expansion whose bound is as great as the allowance of its text settles. -/
theorem settled_of_choose_le {bound : Int} (values : rules.NoDollar)
    (hbound : (((t.count '$' + 1).choose 2 : Nat) : Int) ≤ bound) :
    (expand rules t bound).ending = .settled := by
  obtain ⟨f, hsteps, -, ⟨hsettled, -⟩ | ⟨-, hlength⟩⟩ :=
    Expansion.run_spec rules (bound + 1).toNat (.start t)
  · exact hsettled
  · have hle := hsteps.length_add_allowance_le values
    rw [Expansion.allowance_start] at hle
    omega

/-! ## tokens in one another's names -/

/-- A text in as many round tokens, each of which is the name of the next one. -/
def nested : Nat → Text → Text
  | 0, t => t
  | n + 1, t => '$' :: Bracket.round.opener :: (nested n t ++ [Bracket.round.closer])

/-- What stands before the text in as many tokens. -/
def openers : Nat → Text
  | 0 => []
  | k + 1 => openers k ++ ['$', Bracket.round.opener]

@[simp] theorem length_openers (k : Nat) : (openers k).length = 2 * k := by
  induction k with
  | zero => rfl
  | succ k ih =>
    rw [openers, List.length_append, ih]
    rfl

theorem getLast?_openers_ne (k : Nat) : (openers k).getLast? ≠ some Bracket.escape := by
  cases k with
  | zero => simp [openers]
  | succ k => simp [openers, Bracket.opener, Bracket.escape]

/-- The tokens around a text can be taken off from the outside. -/
theorem nested_add (k n : Nat) (t : Text) :
    nested (k + n) t =
      openers k ++ (nested n t ++ List.replicate k Bracket.round.closer) := by
  induction k generalizing n with
  | zero => rw [Nat.zero_add, openers, List.replicate_zero, List.append_nil, List.nil_append]
  | succ k ih =>
    rw [Nat.add_right_comm, Nat.add_assoc, ih, nested, openers, List.replicate_succ]
    simp only [List.cons_append, List.append_assoc, List.nil_append]

/-- Behind the openers of the tokens around it stands a token. -/
theorem nested_add_succ (k n : Nat) (t : Text) :
    nested (k + (n + 1)) t =
      openers k ++ '$' :: Bracket.round.opener ::
        (nested n t ++ Bracket.round.closer :: List.replicate k Bracket.round.closer) := by
  rw [nested_add, nested, List.cons_append, List.cons_append, List.append_assoc,
    List.singleton_append]

theorem count_nested (n : Nat) (t : Text) : (nested n t).count '$' = n + t.count '$' := by
  induction n with
  | zero => rw [nested, Nat.zero_add]
  | succ n ih =>
    rw [nested, List.count_cons_self, List.count_cons, List.count_append, ih]
    simp [Bracket.opener, Bracket.closer]
    omega

section

variable (name : Name) (k n : Nat)

theorem neutral_nested : Bracket.Neutral (nested n name.1) := by
  induction n with
  | zero => exact name.neutral
  | succ n ih => exact neutral_token .round ih

theorem separator_notMem_nested : '=' ∉ nested n name.1 := by
  induction n with
  | zero => exact name.ne_separator
  | succ n ih => simp [nested, ih, Bracket.opener, Bracket.closer]

/-- A token with a token in its name bears no name. -/
theorem isMatch_nested_succ : defaultName.isMatch (nested (n + 1) name.1) = false := by
  rw [nested, isMatch_defaultName]
  rfl

/-- The token that has `k` others around it and `n` others in its name. -/
def nestedToken : Token :=
  ⟨nested n name.1, none, 2 * k, 2 * k + 2 + (nested n name.1).length⟩

theorem find?_nested :
    Token.find? (nested (k + (n + 1)) name.1) ((2 * k : Nat) : Int) =
      some (nestedToken name k n) := by
  have hfind := Token.find?_group .round (neutral_nested name n) (getLast?_openers_ne k)
    (List.replicate k Bracket.round.closer)
  rw [Token.ofBody_of_notMem (separator_notMem_nested name n), length_openers] at hfind
  rw [nested_add_succ]
  exact hfind

/-- What is put for the innermost token stands in the tokens around it. -/
theorem splice_nested (v : Text) :
    splice (nested (k + 1) name.1) (nestedToken name k 0).span v = nested k v := by
  have hsplice := splice_group .round (openers k) name.1 (List.replicate k Bracket.round.closer) v
  have hv := nested_add k 0 v
  rw [length_openers] at hsplice
  rw [Nat.add_zero, nested, ← List.append_assoc, ← hsplice] at hv
  rw [hv, nested_add_succ k 0]
  rfl

end

namespace Expansion

variable {value? : Text → Option Text} {v : Text}

/-- One round: each outer token is passed over, and the innermost one makes way for its value. -/
theorem steps_round {name : Name} (hvalue : value? name.1 = some v) (hv : '$' ∉ v) (k n : Nat) :
    ∃ steps, steps.length = n + 1 ∧
      Steps ⟨value?, defaultName.isMatch⟩ ⟨nested (k + (n + 1)) name.1, 2 * k⟩ steps
        (start (nested (k + n) v)) := by
  induction n generalizing k with
  | zero =>
    have hdue : Action.Due ⟨value?, defaultName.isMatch⟩ (nestedToken name k 0) (.splice v) :=
      .value name.2 hvalue (refersTo_of_noDollar hv name.1)
    refine ⟨[⟨nestedToken name k 0, .splice v⟩], rfl, .single ?_⟩
    refine step?_eq_some_iff.2 ⟨find?_nested name k 0, hdue, ?_⟩
    exact congrArg start (splice_nested name k v).symm
  | succ n ih =>
    have hdue : Action.Due ⟨value?, defaultName.isMatch⟩ (nestedToken name k (n + 1)) .skip :=
      .skip (isMatch_nested_succ name n)
    obtain ⟨steps, hlength, hsteps⟩ := ih (k + 1)
    rw [show k + 1 + (n + 1) = k + (n + 1 + 1) by omega,
      show k + 1 + n = k + (n + 1) by omega] at hsteps
    refine ⟨⟨nestedToken name k (n + 1), .skip⟩ :: steps, ?_, .cons ?_ hsteps⟩
    · rw [List.length_cons, hlength]
    · exact step?_eq_some_iff.2 ⟨find?_nested name k (n + 1), hdue, rfl⟩

/-- All rounds: where each name leads to the next one, and the last one to a value without
dollars, the tokens go one by one. -/
theorem steps_nested (W : Nat → Name) (n : Nat)
    (next : ∀ i < n, value? (W i).1 = some (W (i + 1)).1) (last : value? (W n).1 = some v)
    (hv : '$' ∉ v) :
    ∃ steps, steps.length = (n + 1 + 1).choose 2 ∧
      Steps ⟨value?, defaultName.isMatch⟩ (start (nested (n + 1) (W 0).1)) steps (start v) := by
  induction n generalizing W with
  | zero => exact steps_round last hv 0 0
  | succ n ih =>
    obtain ⟨first, hfirst, hround⟩ :=
      steps_round (next 0 (Nat.succ_pos n)) (W 1).dollar_notMem 0 (n + 1)
    rw [Nat.zero_add, Nat.zero_add, Nat.mul_zero] at hround
    obtain ⟨others, hothers, hrest⟩ :=
      ih (fun i => W (i + 1)) (fun i hi => next (i + 1) (Nat.succ_lt_succ hi)) last
    refine ⟨first ++ others, ?_, hround.append hrest⟩
    rw [List.length_append, hfirst, hothers, add_choose_two]

end Expansion

/-! ## the bound -/

/-- **Quadratically many steps are enough, and may be needed**: where no value holds a dollar, a
text with `d` dollars settles within every bound from `d * (d + 1) / 2` on.  With `d` names that
lead from one to the next, the first of them in `d` round tokens settles within no smaller one. -/
theorem settled_within_dollars :
    (∀ (rules : Rules) (t : Text) (bound : Int), rules.NoDollar →
      ((t.count '$' * (t.count '$' + 1) / 2 : Nat) : Int) ≤ bound →
      ∃ r, (expand rules t bound).result = .ok r) ∧
    (∀ (value? : Text → Option Text) (W : Nat → Name) (d : Nat) (v : Text), 1 ≤ d →
      (∀ i, 1 ≤ i → i < d → value? (W i).1 = some (W (i + 1)).1) →
      value? (W d).1 = some v → '$' ∉ v →
      (nested d (W 1).1).count '$' = d ∧
      ∀ bound : Int,
        ((expand ⟨value?, defaultName.isMatch⟩ (nested d (W 1).1) bound).result = .ok v ↔
          ((d * (d + 1) / 2 : Nat) : Int) ≤ bound) ∧
        (bound < ((d * (d + 1) / 2 : Nat) : Int) → ∃ u,
          (expand ⟨value?, defaultName.isMatch⟩ (nested d (W 1).1) bound).result = .error u)) := by
  constructor
  · intro rules t bound values hbound
    rw [← choose_two_eq] at hbound
    have hsettled := settled_of_choose_le values hbound
    exact ⟨_, Run.result_eq_ok_iff.2 ⟨hsettled, rfl⟩⟩
  · intro value? W d v hd next last hv
    obtain ⟨n, rfl⟩ := Nat.exists_eq_add_of_le' hd
    obtain ⟨steps, hlength, hsteps⟩ := Expansion.steps_nested (fun i => W (i + 1)) n
      (fun i hi => next (i + 1) (Nat.le_add_left 1 i) (Nat.succ_lt_succ hi)) last hv
    rw [choose_two_eq] at hlength
    have hnone : (Expansion.start v).step? ⟨value?, defaultName.isMatch⟩ = none :=
      Expansion.step?_eq_none_iff.2 (Token.find?_of_noDollar hv _)
    have hexceeded : ∀ bound : Int, bound < (((n + 1) * (n + 1 + 1) / 2 : Nat) : Int) →
        (expand ⟨value?, defaultName.isMatch⟩ (nested (n + 1) (W 1).1) bound).ending =
          .exceeded := by
      intro bound hlt
      exact Expansion.exceeded_of_steps hsteps (by omega)
    refine ⟨?_, fun bound => ⟨⟨fun hok => ?_, fun hle => ?_⟩, fun hlt => ?_⟩⟩
    · rw [count_nested, List.count_eq_zero.2 (W 1).dollar_notMem, Nat.add_zero]
    · refine Int.not_lt.1 fun hlt => ?_
      have hsettled := (Run.result_eq_ok_iff.1 hok).1
      rw [hexceeded bound hlt] at hsettled
      contradiction
    · rw [expand_of_steps_settled hsteps hnone (by omega)]
      exact Run.result_eq_ok_iff.2 ⟨rfl, unescape_of_noDollar hv⟩
    · exact ⟨_, Run.result_eq_error_iff.2 ⟨hexceeded bound hlt, rfl⟩⟩

/-- A text with tokens in one another, an escaped dollar and one without a closer; and three
names, the last of which has a value. -/
theorem settled_within_dollars_of_three :
    let A : Name := ⟨['A'], by decide⟩
    let B : Name := ⟨['B'], by decide⟩
    let C : Name := ⟨['C'], by decide⟩
    let pairs : List (Text × Text) := [(A.1, B.1), (B.1, C.1), (C.1, .ofString "\\x")]
    let rules := Rules.ofPairs pairs
    let W : Nat → Name := fun i => if i = 1 then A else if i = 2 then B else C
    let t := Text.ofString "$(A=$(B))$(X)\\$$("
    (rules.NoDollar ∧ t.count '$' = 5 ∧ nested 3 A.1 = .ofString "$($($(A)))" ∧
      (∀ i, 1 ≤ i → i < 3 → rules.value? (W i).1 = some (W (i + 1)).1) ∧
      rules.value? (W 3).1 = some (.ofString "\\x")) ∧
    (∃ r, (expand rules t 15).result = .ok r) ∧
    (expand rules (nested 3 A.1) 6).result = .ok (.ofString "\\x") ∧
    ∃ u, (expand rules (nested 3 A.1) 5).result = .error u := by
  intro A B C pairs rules W t
  have values : rules.NoDollar := by
    intro name v hv
    have hall : ∀ p ∈ pairs, '$' ∉ p.2 := by decide
    exact hall (name, v) (Rules.mem_of_value?_ofPairs hv)
  have next : ∀ i, 1 ≤ i → i < 3 → rules.value? (W i).1 = some (W (i + 1)).1 := by
    intro i hi hlt
    obtain rfl | rfl : i = 1 ∨ i = 2 := by omega
    · rfl
    · rfl
  have last : rules.value? (W 3).1 = some (.ofString "\\x") := rfl
  obtain ⟨henough, hneeded⟩ := settled_within_dollars
  obtain ⟨-, hthree⟩ := hneeded rules.value? W 3 (.ofString "\\x") (by decide) next last (by decide)
  exact ⟨⟨values, by decide, by decide, next, last⟩, henough rules t 15 values (by decide),
    (hthree 6).1.2 (by decide), (hthree 5).2 (by decide)⟩

end TextMacros
