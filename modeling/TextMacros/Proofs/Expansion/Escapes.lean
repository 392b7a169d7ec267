import TextMacros.Proofs.Expansion.Steps
import TextMacros.Proofs.Token.Nesting
import TextMacros.Proofs.TokenTree.Basic

/-!
# TextMacros.Proofs.Expansion.Escapes

What a replacement does to the escapes around it.

Whether a dollar is escaped is decided by the character before it.  So of all dollars outside a
token, only the one right behind it can be touched by what takes the token's place; and since
the dollar of the token is not escaped, an empty replacement leaves that one as it is too.  What
remains is a replacement that ends in a backslash: it escapes a dollar right behind it.  The
backslashes outside the token stand right before a dollar after the splice if and only if they
did so before.

Main statements: `escapedAt_of_value`, where a value takes the dollar of its neighbour, and
`escapedAt_of_splice`, by which nothing else happens to the escapes.
-/

namespace TextMacros

variable {rules : Rules} {e f : Expansion} {s : Step} {t r : Text} {i : Nat} {token : Token}
  {span : Span}

/-! ## around a span -/

section

variable (hspan : span.start ≤ t.length)

include hspan

/-- In front of a span every character stays where it is. -/
theorem getElem?_splice_front (r : Text) (hi : i < span.start) :
    (splice t span r)[i]? = t[i]? := by
  have hlength : (t.take span.start).length = span.start := List.length_take_of_le hspan
  rw [splice, List.append_assoc, List.getElem?_append_left (by omega), List.getElem?_take_of_lt hi]

/-- Behind a span every character moves along with the end of the replacement. -/
theorem getElem?_splice_behind (r : Text) (d : Nat) :
    (splice t span r)[span.start + r.length + d]? = t[span.stop + 1 + d]? := by
  have hlength : (t.take span.start ++ r).length = span.start + r.length := by
    rw [List.length_append, List.length_take_of_le hspan]
  rw [splice, ← hlength, List.getElem?_append_right (Nat.le_add_right _ _),
    Nat.add_sub_cancel_left, List.getElem?_drop]

theorem escapedAt_splice_front (r : Text) (hi : i < span.start) :
    EscapedAt (splice t span r) i ↔ EscapedAt t i := by
  cases i with
  | zero => exact iff_of_false (not_escapedAt_zero _) (not_escapedAt_zero _)
  | succ i =>
    rw [escapedAt_succ, escapedAt_succ, getElem?_splice_front hspan r hi,
      getElem?_splice_front hspan r (Nat.lt_of_succ_lt hi)]

theorem escapedAt_splice_behind (r : Text) (d : Nat) :
    EscapedAt (splice t span r) (span.start + r.length + (d + 1)) ↔
      EscapedAt t (span.stop + 1 + (d + 1)) := by
  rw [← Nat.add_assoc, ← Nat.add_assoc, escapedAt_succ, escapedAt_succ,
    getElem?_splice_behind hspan r d, Nat.add_assoc, getElem?_splice_behind hspan r (d + 1)]
  rfl

/-- Right behind a span, the end of the replacement decides, or what is in front of the span if
the replacement is empty. -/
theorem escapedAt_splice_seam (r : Text) :
    EscapedAt (splice t span r) (span.start + r.length) ↔ t[span.stop + 1]? = some '$' ∧
      (t.take span.start ++ r).getLast? = some Bracket.escape := by
  have hlength : (t.take span.start ++ r).length = span.start + r.length := by
    rw [List.length_append, List.length_take_of_le hspan]
  rw [splice, ← hlength, escapedAt_append, List.head?_drop]

end

/-! ## in place of a token -/

section

variable (ht : Token.at? t token.start = some token) (hdollar : UnescapedAt t token.start)

include ht hdollar

/-- A dollar behind a token is escaped after a splice if it was before, or if it stands right
behind a replacement that ends in a backslash. -/
theorem escapedAt_splice_token (r : Text) (d : Nat) :
    EscapedAt (splice t token.span r) (token.start + r.length + d) ↔
      EscapedAt t (token.stop + 1 + d) ∨
        d = 0 ∧ t[token.stop + 1]? = some '$' ∧ r.getLast? = some Bracket.escape := by
  obtain ⟨-, hstop, hlt⟩ := Token.bounds_of_at? ht
  have hspan : token.span.start ≤ t.length := show token.start ≤ t.length by omega
  cases d with
  | zero =>
    -- before the splice, the closer of the token stands before the dollar
    have hbefore : ¬ EscapedAt t (token.stop + 1) := by
      obtain ⟨k, hk⟩ := Token.exists_closer_of_at? ht
      rw [escapedAt_succ, hk, Option.some.injEq]
      exact fun h => k.closer_ne_escape h.2
    have hfront : (t.take token.start).getLast? ≠ some Bracket.escape := hdollar.getLast?_take_ne
    have hlast : (t.take token.start ++ r).getLast? = some Bracket.escape ↔
        r.getLast? = some Bracket.escape := by
      rw [List.getLast?_append]
      cases r.getLast? with
      | none => exact iff_of_false hfront (by simp)
      | some c => rw [Option.some_or]
    have hseam := escapedAt_splice_seam hspan r
    simp only [Token.span] at hseam
    simp only [Nat.add_zero, Token.span, hseam, hlast, hbefore, false_or, true_and]
  | succ d =>
    have hbehind := escapedAt_splice_behind hspan r d
    simp only [Nat.succ_ne_zero, false_and, or_false]
    exact hbehind

end

/-- In front of an unescaped dollar, no backslash comes to stand right before a dollar, and none
ceases to. -/
theorem dollar_behind_splice_iff (hdollar : UnescapedAt t token.start) (r : Text)
    (hi : i < token.start) (hescape : t[i]? = some Bracket.escape) :
    (splice t token.span r)[i + 1]? = some '$' ↔ t[i + 1]? = some '$' := by
  have hspan : token.span.start ≤ t.length := Nat.le_of_lt hdollar.lt_length
  have hne : i + 1 ≠ token.start := by
    rintro heq
    rcases hdollar.2 with hzero | hback
    · omega
    · rw [← heq, Nat.add_sub_cancel] at hback
      exact hback hescape
  have hlt : i + 1 < token.span.start := Nat.lt_of_le_of_ne hi hne
  rw [getElem?_splice_front hspan r hlt]

/-! ## two tokens side by side -/

/-- The first token behind an inert text makes way for its value. -/
theorem step?_use {a v : Text} (ha : Inert a) (k : Bracket) {name : Name}
    (hname : rules.isName name.1 = true) (hvalue : rules.value? name.1 = some v) (hv : '$' ∉ v)
    (b : Text) :
    (Expansion.start (a ++ '$' :: k.opener :: (name.1 ++ k.closer :: b))).step? rules =
      some (⟨⟨name.1, none, a.length, a.length + 2 + name.1.length⟩, .splice v⟩,
        .start (a ++ v ++ b)) := by
  have hfind := Token.find?_group k name.neutral ha.getLast?_ne b
  rw [TokenTree.ofBody_use] at hfind
  have hskip : Token.find? (a ++ '$' :: k.opener :: (name.1 ++ k.closer :: b)) ((0 : Nat) : Int) =
      Token.find? (a ++ '$' :: k.opener :: (name.1 ++ k.closer :: b)) (a.length : Int) := by
    refine Token.find?_skip (Nat.zero_le _) fun i _ hi => ?_
    rw [unescapedAt_append_left hi]
    exact ha.escaped i
  refine Expansion.step?_eq_some_iff.2 ⟨hskip.trans hfind, ?_, ?_⟩
  · exact .value hname hvalue (refersTo_of_noDollar hv name.1)
  · exact congrArg Expansion.start (splice_group k a name.1 b v).symm

/-- All dollars are escaped if there is a single one, behind a backslash. -/
theorem not_unescapedAt_of_single {a b : Text} (ha : '$' ∉ a) (hb : '$' ∉ b)
    (hlast : a.getLast? = some Bracket.escape) (i : Nat) : ¬ UnescapedAt (a ++ '$' :: b) i := by
  rintro ⟨hget, hback⟩
  rcases Nat.lt_trichotomy i a.length with hlt | rfl | hgt
  · rw [List.getElem?_append_left hlt] at hget
    exact ha (List.mem_of_getElem? hget)
  · have hescaped : EscapedAt (a ++ '$' :: b) a.length := escapedAt_append.2 ⟨rfl, hlast⟩
    rcases hback with hzero | hback
    · exact absurd hescaped.2.1 (by omega)
    · exact hback hescaped.2.2
  · obtain ⟨d, rfl⟩ := Nat.exists_eq_add_of_lt hgt
    rw [Nat.add_assoc, List.getElem?_append_right (Nat.le_add_right _ _), Nat.add_sub_cancel_left,
      List.getElem?_cons_succ] at hget
    exact hb (List.mem_of_getElem? hget)

/-- A token without a default, without its dollar, holds no dollar. -/
theorem dollar_notMem_group (k : Bracket) (name : Name) :
    '$' ∉ k.opener :: (name.1 ++ [k.closer]) := by
  simp only [List.mem_cons, List.mem_append, List.not_mem_nil, or_false, not_or]
  exact ⟨by cases k <;> decide, name.dollar_notMem, by cases k <;> decide⟩

section

variable {A B : Name} {a b : Text} (k l : Bracket)
  (hA : rules.isName A.1 = true) (hvalueA : rules.value? A.1 = some a) (ha : '$' ∉ a)

include hA hvalueA ha

/-- The first of two tokens side by side makes way for its value. -/
theorem steps_pair :
    Expansion.Steps rules (.start (TokenTree.use k A (.use l B .nil)).text)
      [⟨⟨A.1, none, 0, 0 + 2 + A.1.length⟩, .splice a⟩]
      (.start (a ++ (TokenTree.use l B .nil).text)) :=
  .single (step?_use inert_nil k hA hvalueA ha (TokenTree.use l B .nil).text)

/-- Two tokens side by side become their values, if the first one does not end in a backslash. -/
theorem expand_pair (hlast : a.getLast? ≠ some Bracket.escape) (hB : rules.isName B.1 = true)
    (hvalueB : rules.value? B.1 = some b) (hb : '$' ∉ b) {bound : Int} (hbound : 2 ≤ bound) :
    (expand rules (TokenTree.use k A (.use l B .nil)).text bound).result = .ok (a ++ b) := by
  have hsecond := step?_use (inert_of_noDollar ha hlast) l hB hvalueB hb []
  rw [List.append_nil] at hsecond
  have hsteps := (steps_pair k l hA hvalueA ha).append (.single hsecond)
  have hab : '$' ∉ a ++ b := fun hmem => (List.mem_append.1 hmem).elim ha hb
  have hnone : (Expansion.start (a ++ b)).step? rules = none :=
    Expansion.step?_eq_none_iff.2 (Token.find?_of_noDollar hab _)
  rw [expand_of_steps_settled hsteps hnone hbound]
  exact Run.result_eq_ok_iff.2 ⟨rfl, unescape_of_noDollar hab⟩

/-- Otherwise its backslash takes the dollar of the second token, which is left. -/
theorem expand_pair_of_escape (hlast : a.getLast? = some Bracket.escape) {bound : Int}
    (hbound : 1 ≤ bound) :
    (expand rules (TokenTree.use k A (.use l B .nil)).text bound).result =
      .ok (a.dropLast ++ (TokenTree.use l B .nil).text) := by
  have hgroup := dollar_notMem_group l B
  have hnone : (Expansion.start (a ++ (TokenTree.use l B .nil).text)).step? rules = none :=
    Expansion.step?_eq_none_iff.2
      (Token.find?_of_escaped (not_unescapedAt_of_single ha hgroup hlast) _)
  rw [expand_of_steps_settled (steps_pair k l hA hvalueA ha) hnone hbound]
  obtain ⟨init, rfl⟩ := List.getLast?_eq_some_iff.1 hlast
  have hinit : '$' ∉ init := fun hmem => ha (List.mem_append_left _ hmem)
  rw [List.dropLast_concat]
  refine Run.result_eq_ok_iff.2 ⟨rfl, ?_⟩
  rw [Expansion.start, List.append_assoc]
  exact unescape_append_escaped hinit hgroup

end

/-! ## hygiene -/

/-- A value takes the dollar of its neighbour: not escaped before the splice, it is after it, and
the neighbour is not expanded. -/
theorem escapedAt_of_value :
    let rules := Rules.ofPairs [(['A'], ['x', Bracket.escape]), (['B'], ['y'])]
    let text := Text.ofString "$(A)$(B)"
    let s : Step := ⟨⟨['A'], none, 0, 3⟩, .splice ['x', Bracket.escape]⟩
    let f := Expansion.start (.ofString "x\\$(B)")
    (Expansion.start text).step? rules = some (s, f) ∧
      (text[4]? = some '$' ∧ ¬ EscapedAt text 4) ∧ EscapedAt f.text 2 ∧
      (expand rules text 100).result = .ok (.ofString "x$(B)") ∧
      (expand rules text 100).result ≠ .ok (.ofString "x\\y") := by
  intro rules text s f
  have hresult : (expand rules text 100).result = .ok (.ofString "x$(B)") :=
    Run.result_eq_ok_iff.2 (by decide +kernel)
  refine ⟨by decide +kernel, by decide +kernel, by decide +kernel, hresult, ?_⟩
  rw [hresult, ne_eq, Except.ok.injEq]
  decide

/-- **What a replacement does to escapes**: in front of the token that it takes the place of,
every dollar is escaped as it was before; behind it likewise, but for a dollar right behind a
replacement that ends in a backslash, which is escaped then.  No backslash around the token comes
to stand right before a dollar, or ceases to.  So two tokens side by side become their values,
unless the first value ends in a backslash, which then takes the dollar of the second token. -/
theorem escapedAt_of_splice :
    (∀ (rules : Rules) (e f : Expansion) (s : Step) (r : Text),
      e.step? rules = some (s, f) → s.action = .splice r →
      (∀ i < s.token.start, f.text[i]? = e.text[i]? ∧
        (EscapedAt f.text i ↔ EscapedAt e.text i)) ∧
      (∀ d, f.text[s.token.start + r.length + d]? = e.text[s.token.stop + 1 + d]? ∧
        (EscapedAt f.text (s.token.start + r.length + d) ↔
          EscapedAt e.text (s.token.stop + 1 + d) ∨
            d = 0 ∧ e.text[s.token.stop + 1]? = some '$' ∧
              r.getLast? = some Bracket.escape)) ∧
      (∀ i < s.token.start, e.text[i]? = some Bracket.escape →
        (f.text[i + 1]? = some '$' ↔ e.text[i + 1]? = some '$')) ∧
      (∀ d, e.text[s.token.stop + 1 + d]? = some Bracket.escape →
        (f.text[s.token.start + r.length + d + 1]? = some '$' ↔
          e.text[s.token.stop + 1 + d + 1]? = some '$'))) ∧
    (∀ (rules : Rules) (k l : Bracket) (A B : Name) (a b : Text) (bound : Int),
      rules.isName A.1 = true → rules.isName B.1 = true → rules.value? A.1 = some a →
      rules.value? B.1 = some b → '$' ∉ a → '$' ∉ b → 2 ≤ bound →
      (expand rules (TokenTree.use k A (.use l B .nil)).text bound).result =
        .ok (if a.getLast? = some Bracket.escape then
          a.dropLast ++ (TokenTree.use l B .nil).text else a ++ b)) := by
  constructor
  · intro rules e f s r hstep haction
    obtain ⟨hfind, -, rfl⟩ := Expansion.step?_eq_some_iff.1 hstep
    obtain ⟨⟨-, hdollar, -⟩, ht⟩ := Token.find?_eq_some_iff.1 hfind
    have hspan : s.token.span.start ≤ e.text.length := Nat.le_of_lt hdollar.lt_length
    rw [haction]
    refine ⟨fun i hi => ⟨?_, ?_⟩, fun d => ⟨?_, ?_⟩, fun i hi hescape => ?_, fun d _ => ?_⟩
    · exact getElem?_splice_front hspan r hi
    · exact escapedAt_splice_front hspan r hi
    · exact getElem?_splice_behind hspan r d
    · exact escapedAt_splice_token ht hdollar r d
    · exact dollar_behind_splice_iff hdollar r hi hescape
    · exact iff_of_eq (congrArg (· = some '$') (getElem?_splice_behind hspan r (d + 1)))
  · intro rules k l A B a b bound hA hB hvalueA hvalueB ha hb hbound
    split
    next hlast => exact expand_pair_of_escape k l hA hvalueA ha hlast (by omega)
    next hlast => exact expand_pair k l hA hvalueA ha hlast hB hvalueB hb hbound

/-- A token between escaped dollars; and two tokens in both orders, one of which has a value that
ends in a backslash. -/
theorem escapedAt_of_splice_between :
    let A : Name := ⟨['A'], by decide⟩
    let C : Name := ⟨['C'], by decide⟩
    let rules := Rules.ofPairs [(A.1, ['x']), (C.1, ['z', Bracket.escape])]
    let text := Text.ofString "\\$(C)$(A)\\$$(C)"
    let s : Step := ⟨⟨['A'], none, 5, 8⟩, .splice ['x']⟩
    let f := Expansion.start (.ofString "\\$(C)x\\$$(C)")
    (Expansion.start text).step? rules = some (s, f) ∧
      (EscapedAt f.text 1 ↔ EscapedAt text 1) ∧
      (EscapedAt f.text 7 ↔ EscapedAt text 10 ∨
        1 = 0 ∧ text[9]? = some '$' ∧ ['x'].getLast? = some Bracket.escape) ∧
      (f.text[1]? = some '$' ↔ text[1]? = some '$') ∧
      (f.text[7]? = some '$' ↔ text[10]? = some '$') ∧
      (expand rules (TokenTree.use .round A (.use .curly C .nil)).text 2).result =
        .ok ['x', 'z', Bracket.escape] ∧
      (expand rules (TokenTree.use .curly C (.use .round A .nil)).text 2).result =
        .ok (.ofString "z$(A)") := by
  intro A C rules text s f
  have hstep : (Expansion.start text).step? rules = some (s, f) := by decide +kernel
  obtain ⟨hsplice, hpair⟩ := escapedAt_of_splice
  obtain ⟨hfront, hbehind, hescape, hescape'⟩ :=
    hsplice rules (.start text) f s ['x'] hstep rfl
  have hAC := hpair rules .round .curly A C ['x'] ['z', Bracket.escape] 2 A.2 C.2 rfl rfl
    (by decide) (by decide) (by decide)
  have hCA := hpair rules .curly .round C A ['z', Bracket.escape] ['x'] 2 C.2 A.2 rfl rfl
    (by decide) (by decide) (by decide)
  exact ⟨hstep, (hfront 1 (by decide)).2, (hbehind 1).2,
    hescape 0 (by decide) (by decide +kernel), hescape' 0 (by decide +kernel), hAC, hCA⟩

end TextMacros
