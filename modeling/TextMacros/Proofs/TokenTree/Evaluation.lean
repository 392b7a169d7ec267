import TextMacros.Proofs.Expansion.Steps
import TextMacros.Proofs.TokenTree.Meaning

/-!
# TextMacros.Proofs.TokenTree.Evaluation

Expanding a written tree yields what it means.

An expansion is followed up to the exact offset: two expansions of one text are `Alike` if they
go on in the same way.  `between a r` is the expansion that has `a` behind it and `r` before it.
A text is `Finished` if nothing in it is left to do; the scan walks through such a text
(`Finished.reaches`), so a token behind one may be replaced although the scan starts anew
(`reaches_put`).  The induction along `meaning` is then one case for each kind of item
(`evaluates`).  Main statements:

* `expand_eq_meaning`: from some bound on, a written tree yields what it means;
* `result_eq_ok_iff_of_ranked`: the same where the values are given as texts, with the least such
  bound.
-/

namespace TextMacros

namespace Expansion

variable {rules : Rules} {e f f' g : Expansion} {t : Text}

/-! ## up to the offset -/

/-- Two expansions of one text that go on in the same way. -/
def Alike (rules : Rules) (e f : Expansion) : Prop :=
  e.text = f.text ∧ e.step? rules = f.step? rules

/-- An offset counts only by the token found from it on. -/
theorem alike_of_find? {n m : Nat} (h : Token.find? t (n : Int) = Token.find? t (m : Int)) :
    Alike rules ⟨t, n⟩ ⟨t, m⟩ := by
  refine ⟨rfl, ?_⟩
  rw [step?, step?, h]
  rfl

theorem Alike.steps {steps : List Step} (h : Alike rules f' f)
    (hsteps : Steps rules f steps g) :
    ∃ g', Steps rules f' steps g' ∧ Alike rules g' g := by
  cases hsteps with
  | nil => exact ⟨f', .nil f', h⟩
  | cons head tail => exact ⟨g, .cons (h.2.trans head) tail, rfl, rfl⟩

/-- Some steps lead from one expansion to one like the other. -/
def Reaches (rules : Rules) (e f : Expansion) : Prop :=
  ∃ steps f', Steps rules e steps f' ∧ Alike rules f' f

theorem Alike.reaches (h : Alike rules e f) : Reaches rules e f := ⟨[], e, .nil e, h⟩

theorem Reaches.refl (e : Expansion) : Reaches rules e e := Alike.reaches ⟨rfl, rfl⟩

theorem Reaches.trans (h : Reaches rules e f) (h' : Reaches rules f g) : Reaches rules e g := by
  obtain ⟨steps, f', hsteps, hf⟩ := h
  obtain ⟨more, g', hmore, hg⟩ := h'
  obtain ⟨g'', hmore', hg'⟩ := hf.steps hmore
  exact ⟨steps ++ more, g'', hsteps.append hmore', hg'.1.trans hg.1, hg'.2.trans hg.2⟩

theorem reaches_of_step {s : Step} (h : e.step? rules = some (s, f)) : Reaches rules e f :=
  ⟨[s], f, .single h, rfl, rfl⟩

/-! ## between two texts -/

/-- The expansion of two texts joined that is scanned from the second one on. -/
def between (a r : Text) : Expansion := ⟨a ++ r, a.length⟩

/-- The scan passes over what holds no dollar. -/
theorem reaches_noDollar {w : Text} (hw : '$' ∉ w) (a r : Text) :
    Reaches rules (between a (w ++ r)) (between (a ++ w) r) := by
  rw [between, between, List.append_assoc, List.length_append]
  exact (alike_of_find? (Token.find?_noDollar hw a r)).reaches

theorem step?_between_nil (a : Text) : (between a []).step? rules = none := by
  have hend : ∀ j, ¬ FirstUnescaped (a ++ []) a.length (some j) := by
    intro j h
    have hlt := h.2.1.lt_length
    rw [List.append_nil] at hlt
    exact absurd h.1 (Nat.not_le.2 hlt)
  exact step?_eq_none_iff.2 (Token.find?_eq_none_iff.2 fun j h => absurd h (hend j))

end Expansion

open Expansion

/-! ## finished texts -/

variable {g : Glossary} {a t : Text}

/-- A text of plain characters and tokens that have neither a value nor a default. -/
inductive Finished (g : Glossary) : Text → Prop
  | nil : Finished g []
  | literal {t : Text} (c : PlainChar) (rest : Finished g t) : Finished g (c.1 :: t)
  | use {t : Text} (b : Bracket) (name : Name) (value : g.value? name.1 = none)
      (rest : Finished g t) : Finished g ('$' :: b.opener :: (name.1 ++ b.closer :: t))

namespace Finished

theorem append (ha : Finished g a) (ht : Finished g t) : Finished g (a ++ t) := by
  induction ha with
  | nil => exact ht
  | literal c _ ih => exact .literal c ih
  | use b name value _ ih =>
    rw [List.cons_append, List.cons_append, List.append_assoc, List.cons_append]
    exact .use b name value ih

theorem exists_tree (h : Finished g t) : ∃ tree : TokenTree, tree.text = t := by
  induction h with
  | nil => exact ⟨.nil, rfl⟩
  | literal c _ ih =>
    obtain ⟨rest, rfl⟩ := ih
    exact ⟨.literal c rest, rfl⟩
  | use b name _ _ ih =>
    obtain ⟨rest, rfl⟩ := ih
    exact ⟨.use b name rest, rfl⟩

theorem escape_notMem (h : Finished g t) : Bracket.escape ∉ t := by
  obtain ⟨tree, rfl⟩ := h.exists_tree
  exact tree.escape_notMem_text

theorem getLast?_ne (h : Finished g t) : t.getLast? ≠ some Bracket.escape :=
  fun hlast => h.escape_notMem (List.mem_of_getLast? hlast)

end Finished

/-- What is meant has nothing left to do. -/
theorem finished_meaning (g : Glossary) (t : TokenTree) : Finished g (g.meaning t) := by
  induction t using Glossary.meaning.induct (g := g) with
  | case1 =>
    rw [Glossary.meaning]
    exact .nil
  | case2 c rest ih =>
    rw [Glossary.meaning]
    exact .literal c ih
  | case3 b name rest ihv ih =>
    cases hvalue : g.value? name.1 with
    | none =>
      rw [Glossary.meaning_use_of_none hvalue]
      exact .use b name hvalue ih
    | some value =>
      rw [Glossary.meaning_use_of_value hvalue]
      exact (ihv value hvalue).append ih
  | case4 b name default rest ihv ihd ih =>
    cases hvalue : g.value? name.1 with
    | none =>
      rw [Glossary.meaning_useOr_of_none hvalue]
      exact ihd.append ih
    | some value =>
      rw [Glossary.meaning_useOr_of_value hvalue]
      exact (ihv value hvalue).append ih

/-! ## passing over and putting in -/

/-- What is due for the token of a defined name: its value comes in its place. -/
theorem Glossary.due_value {token : Token} {name : Name} {value : TokenTree}
    (hname : token.name = name.1) (hv : g.value? name.1 = some value) :
    Action.Due g.rules token (.splice value.text) := by
  have hrefers : refersTo name.1 value.text = false := by
    cases hfind : Token.find? value.text 0 with
    | none => rw [refersTo, hfind]; rfl
    | some inner =>
      have hlt := g.rank_lt hv inner.name (TokenTree.name_mem_names hfind)
      rw [refersTo, hfind, Option.map_some, beq_eq_false_iff_ne]
      intro h
      rw [Option.some.inj h] at hlt
      exact Nat.lt_irrefl _ hlt
  rw [← hname] at hrefers hv
  refine .value ?_ (by rw [value?_rules, hv, Option.map_some]) hrefers
  rw [hname]
  exact name.2

/-- A token with neither value nor default is passed over. -/
theorem reaches_use (ha : Finished g a) (b : Bracket) {name : Name}
    (hv : g.value? name.1 = none) (r : Text) :
    Reaches g.rules (between a ('$' :: b.opener :: (name.1 ++ b.closer :: r)))
      (between (a ++ '$' :: b.opener :: (name.1 ++ [b.closer])) r) := by
  have hfind := Token.find?_group b name.neutral ha.getLast?_ne r
  rw [TokenTree.ofBody_use] at hfind
  have hdue : Action.Due g.rules ⟨name.1, none, a.length, a.length + 2 + name.1.length⟩ .leave :=
    .leave name.2 (by rw [Glossary.value?_rules, hv, Option.map_none]) rfl
  have hstep : Reaches g.rules (between a ('$' :: b.opener :: (name.1 ++ b.closer :: r)))
      (between (a ++ ['$', b.opener]) ((name.1 ++ [b.closer]) ++ r)) := by
    refine reaches_of_step (s := ⟨_, .leave⟩) (step?_eq_some_iff.2 ⟨hfind, hdue, ?_⟩)
    simp [between, apply]
  have hdollar : '$' ∉ name.1 ++ [b.closer] := by
    rw [List.mem_append, List.mem_singleton, not_or]
    exact ⟨name.dollar_notMem, by cases b <;> decide⟩
  have hpass := hstep.trans (reaches_noDollar hdollar _ r)
  rwa [List.append_assoc] at hpass

/-- The scan passes over a finished text. -/
theorem Finished.reaches (ht : Finished g t) (ha : Finished g a) (r : Text) :
    Reaches g.rules (between a (t ++ r)) (between (a ++ t) r) := by
  induction ht generalizing a with
  | nil =>
    rw [List.append_nil]
    exact .refl _
  | @literal t c _ ih =>
    have hdollar : '$' ∉ [c.1] := by
      rw [List.mem_singleton]
      exact (ne_dollar_of_isPlain c.2).symm
    have hrest := ih (ha.append (.literal c .nil))
    rw [List.append_assoc] at hrest
    exact (reaches_noDollar hdollar a (t ++ r)).trans hrest
  | @use t b name value _ ih =>
    have hrest := ih (ha.append (.use b name value .nil))
    rw [List.append_assoc] at hrest
    have hfirst := reaches_use ha b value (t ++ r)
    simpa using hfirst.trans hrest

/-- What is put for a token behind a finished text is scanned next. -/
theorem reaches_put (ha : Finished g a) (b : Bracket) {body v : Text}
    (hbody : Bracket.Neutral body)
    (hdue : Action.Due g.rules
      (Token.ofBody a.length (a.length + 2 + body.length) body) (.splice v)) (r : Text) :
    Reaches g.rules (between a ('$' :: b.opener :: (body ++ b.closer :: r)))
      (between a (v ++ r)) := by
  have hfind := Token.find?_group b hbody ha.getLast?_ne r
  have hspan : (Token.ofBody a.length (a.length + 2 + body.length) body).span =
      ⟨a.length, a.length + 2 + body.length⟩ := by
    rw [Token.span, Token.start_ofBody, Token.stop_ofBody]
  generalize Token.ofBody a.length (a.length + 2 + body.length) body = token at hfind hdue hspan
  have hstep : Reaches g.rules (between a ('$' :: b.opener :: (body ++ b.closer :: r)))
      (between [] (a ++ (v ++ r))) := by
    refine reaches_of_step (s := ⟨token, .splice v⟩) (step?_eq_some_iff.2 ⟨hfind, hdue, ?_⟩)
    simp only [apply, between, hspan, splice_group, start, List.append_assoc, List.nil_append,
      List.length_nil]
  exact hstep.trans (ha.reaches .nil (v ++ r))

/-! ## following the meaning -/

/-- From the front of the tree, behind any finished text and before any text at all, the
expansion gets to the end of what the tree means. -/
def Evaluates (g : Glossary) (t : TokenTree) : Prop :=
  ∀ a r, Finished g a →
    Reaches g.rules (between a (t.text ++ r)) (between (a ++ g.meaning t) r)

/-- A token for which a tree is put, and a tree behind it. -/
theorem Evaluates.put {u rest : TokenTree} (hu : Evaluates g u) (hrest : Evaluates g rest)
    (ha : Finished g a) (b : Bracket) {body : Text} (hbody : Bracket.Neutral body)
    (hdue : Action.Due g.rules
      (Token.ofBody a.length (a.length + 2 + body.length) body) (.splice u.text)) (r : Text) :
    Reaches g.rules (between a ('$' :: b.opener :: (body ++ b.closer :: (rest.text ++ r))))
      (between (a ++ (g.meaning u ++ g.meaning rest)) r) := by
  have hput := reaches_put ha b hbody hdue (rest.text ++ r)
  have htree := hu a (rest.text ++ r) ha
  have hbehind := hrest (a ++ g.meaning u) r (ha.append (finished_meaning g u))
  rw [List.append_assoc] at hbehind
  exact (hput.trans htree).trans hbehind

theorem evaluates (g : Glossary) (t : TokenTree) : Evaluates g t := by
  induction t using Glossary.meaning.induct (g := g) with
  | case1 =>
    intro a r _
    rw [Glossary.meaning, List.append_nil]
    exact .refl _
  | case2 c rest ih =>
    intro a r ha
    have hc : Finished g [c.1] := .literal c .nil
    have hrest := ih (a ++ [c.1]) r (ha.append hc)
    rw [List.append_assoc] at hrest
    rw [Glossary.meaning]
    exact (hc.reaches ha (rest.text ++ r)).trans hrest
  | case3 b name rest ihv ih =>
    intro a r ha
    rw [TokenTree.text, List.cons_append, List.cons_append, List.append_assoc, List.cons_append]
    cases hvalue : g.value? name.1 with
    | none =>
      have hrest := ih _ r (ha.append (.use b name hvalue .nil))
      rw [Glossary.meaning_use_of_none hvalue]
      simpa using (reaches_use ha b hvalue (rest.text ++ r)).trans hrest
    | some value =>
      rw [Glossary.meaning_use_of_value hvalue]
      refine (ihv value hvalue).put ih ha b name.neutral ?_ r
      rw [TokenTree.ofBody_use]
      exact Glossary.due_value rfl hvalue
  | case4 b name default rest ihv ihd ih =>
    intro a r ha
    have hbody := name.neutral_separator default.neutral_text
    rw [TokenTree.text, List.cons_append, List.cons_append, List.append_assoc (_ ++ _),
      List.cons_append]
    cases hvalue : g.value? name.1 with
    | none =>
      rw [Glossary.meaning_useOr_of_none hvalue]
      refine ihd.put ih ha b hbody ?_ r
      rw [TokenTree.ofBody_useOr]
      exact .default name.2 (by rw [Glossary.value?_rules, hvalue, Option.map_none]) rfl
    | some value =>
      rw [Glossary.meaning_useOr_of_value hvalue]
      refine (ihv value hvalue).put ih ha b hbody ?_ r
      rw [TokenTree.ofBody_useOr]
      exact Glossary.due_value rfl hvalue

/-- A written tree takes some steps to what it means, and there no step is left. -/
theorem steps_meaning (g : Glossary) (t : TokenTree) :
    ∃ steps f, Steps g.rules (.start t.text) steps f ∧ f.step? g.rules = none ∧
      unescape f.text = g.meaning t := by
  obtain ⟨steps, f, hsteps, htext, hlast⟩ := evaluates g t [] [] .nil
  rw [List.append_nil] at hsteps
  have hmeaning : f.text = g.meaning t := by
    rw [htext, between, List.append_nil, List.nil_append]
  refine ⟨steps, f, hsteps, hlast.trans (step?_between_nil _), ?_⟩
  rw [hmeaning, unescape_of_noEscape (finished_meaning g t).escape_notMem]

/-- **Correctness against the meaning**: from some bound on, expanding a written tree settles and
yields what the tree means. -/
theorem expand_eq_meaning (g : Glossary) (t : TokenTree) :
    ∃ least : Int, ∀ bound, least ≤ bound →
      (expand g.rules t.text bound).result = .ok (g.meaning t) := by
  obtain ⟨steps, f, hsteps, hnone, hmeaning⟩ := steps_meaning g t
  refine ⟨steps.length, fun bound hbound => ?_⟩
  rw [result_eq_ok_iff_of_steps hsteps hnone]
  exact ⟨hbound, hmeaning.symm⟩

/-- A default with a token in it and blanks around, a value with two tokens, and a token for
which there is nothing to put. -/
theorem expand_eq_meaning_of_nested :
    let A : Name := ⟨['A'], by decide⟩
    let B : Name := ⟨['B'], by decide⟩
    let C : Name := ⟨['C'], by decide⟩
    let pairs : List (Text × TokenTree) :=
      [(A.1, .literal ⟨'x', by decide⟩ .nil), (B.1, .use .curly A (.useOr .round A .nil .nil))]
    let g := Glossary.ofPairs pairs (fun name => if name = B.1 then 1 else 0) (by decide)
    let t : TokenTree := .useOr .round C (.literal ⟨' ', by decide⟩ (.use .round B .nil))
      (.use .curly C .nil)
    t.text = .ofString "$(C= $(B))$\x7bC\x7d" ∧ ∃ least : Int, ∀ bound, least ≤ bound →
      (expand g.rules t.text bound).result = .ok (.ofString "xx$\x7bC\x7d") := by
  intro A B C pairs g t
  have hA : g.value? A.1 = some (.literal ⟨'x', by decide⟩ .nil) := rfl
  have hB : g.value? B.1 = some (.use .curly A (.useOr .round A .nil .nil)) := rfl
  have hC : g.value? C.1 = none := rfl
  have hmeaning : g.meaning t = .ofString "xx$\x7bC\x7d" := by
    rw [Glossary.meaning_useOr_of_none hC, show (TokenTree.literal _ _).trim = .use .round B .nil
      from rfl, Glossary.meaning_use_of_value hB, Glossary.meaning_use_of_value hA,
      Glossary.meaning_useOr_of_value hA, Glossary.meaning_use_of_none hC]
    simp only [Glossary.meaning]
    rfl
  obtain ⟨least, hleast⟩ := expand_eq_meaning g t
  rw [hmeaning] at hleast
  exact ⟨by decide, least, hleast⟩

/-- The values may be given as texts: if they are written trees and can be ranked, they are those of
a glossary, and each written tree has a least bound from which on it settles and yields what it
means. -/
theorem result_eq_ok_iff_of_ranked {value? : Text → Option Text} {rank : Text → Nat}
    (h : Ranked value? rank) :
    ∃ g : Glossary, g.rules = ⟨value?, defaultName.isMatch⟩ ∧
      ∀ t : TokenTree, ∃ least : Nat, ∀ (bound : Int) (r : Text),
        (expand ⟨value?, defaultName.isMatch⟩ t.text bound).result = .ok r ↔
          least ≤ bound ∧ r = g.meaning t := by
  obtain ⟨g, hg⟩ := Glossary.exists_glossary h
  refine ⟨g, hg, fun t => ?_⟩
  obtain ⟨steps, f, hsteps, hnone, hmeaning⟩ := steps_meaning g t
  refine ⟨steps.length, fun bound r => ?_⟩
  rw [← hg, result_eq_ok_iff_of_steps hsteps hnone, hmeaning]

end TextMacros
