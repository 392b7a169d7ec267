import TextMacros.Proofs.Bracket.Grammar
import TextMacros.Proofs.Token.Context

/-!
# TextMacros.Proofs.Token.Nesting

Tokens never overlap in part.

A token is found by looking back one character from its dollar, and ended by a scan that passes
over a backslash and the character behind it.  The two agree: a scan comes to every character
that has no backslash right before it (`exists_scan_of_findClosing`), so it meets the brackets of
the tokens inside a token, and each of them closes before the ones around it do
(`findClosing_inside`).  Main statement: `disjoint_or_nested`.
-/

namespace TextMacros

namespace Bracket

variable {inner next : Bracket} {outer : List Bracket} {t u v : Text} {i j n : Nat}

/-- A scan comes to what stands behind a text that does not end in a backslash, unless it has
answered before. -/
theorem scan_behind (hu : u.getLast? ≠ some escape) (h : scan inner outer i (u ++ v) = some j)
    (hj : i + u.length ≤ j) :
    ∃ inner' outer', scan inner' outer' (i + u.length) v = some j := by
  fun_induction scan inner outer i u with
  | case1 inner outer i => exact ⟨inner, outer, h⟩
  | case2 inner outer i => exact absurd rfl hu
  | case3 inner outer i c cs ih =>
    rw [List.cons_append, List.cons_append, scan_escape_cons] at h
    rw [List.length_cons, List.length_cons] at hj ⊢
    rw [show i + (cs.length + 1 + 1) = i + 2 + cs.length by omega] at hj ⊢
    exact ih (getLast?_ne_of_cons (getLast?_ne_of_cons hu)) h hj
  | case4 inner i cs =>
    -- the scan answers at `i`, before it comes to `v`
    rw [List.cons_append, scan_closer_nil, Option.some.injEq] at h
    rw [List.length_cons] at hj
    omega
  | case5 inner i cs next others _ ih =>
    rw [List.cons_append, scan_closer_cons] at h
    rw [List.length_cons, Nat.add_comm cs.length, ← Nat.add_assoc] at hj ⊢
    exact ih (getLast?_ne_of_cons hu) h hj
  | case6 inner outer i c cs he hc b hb ih =>
    obtain rfl := ofOpener?_eq_some_iff.1 hb
    rw [List.cons_append, scan_opener] at h
    rw [List.length_cons, Nat.add_comm cs.length, ← Nat.add_assoc] at hj ⊢
    exact ih (getLast?_ne_of_cons hu) h hj
  | case7 inner outer i c cs he hc ho ih =>
    rw [List.cons_append, scan_other he hc ho] at h
    rw [List.length_cons, Nat.add_comm cs.length, ← Nat.add_assoc] at hj ⊢
    exact ih (getLast?_ne_of_cons hu) h hj

/-- Where several open brackets close, the innermost of them closes by itself, and before the
others. -/
theorem scan_of_outer (h : scan inner (next :: outer) i t = some j) :
    ∃ k < j, scan inner [] i t = some k := by
  obtain ⟨w, rest, rfl, hclosing, hlength⟩ := closing_of_scan h
  cases hclosing with
  | @next _ _ _ s u inside others =>
    refine ⟨i + s.length, ?_, ?_⟩
    · have := others.length_pos
      rw [List.length_append, List.length_cons] at hlength
      omega
    · rw [List.append_assoc, List.cons_append, inside.neutralIn, scan_closer_nil]

/-- The scan for the closer of a bracket comes to every index up to the closer that has no
backslash before it. -/
theorem exists_scan_of_findClosing (h : findClosing t (n : Int) = some j) (hn : n < i)
    (hj : i ≤ j) (hi : t[i - 1]? ≠ some escape) :
    ∃ inner outer, scan inner outer i (t.drop i) = some j := by
  obtain ⟨b, cs, hdrop, hscan⟩ := findClosing_eq_some_iff.1 h
  have hlt := (bounds_of_findClosing h).2
  have hcs : cs = t.drop (n + 1) := by
    rw [← List.drop_drop, hdrop, List.drop_one, List.tail_cons]
  have hsplit : cs = (t.take i).drop (n + 1) ++ t.drop i := by
    rw [hcs, ← List.drop_append_of_le_length (by rw [List.length_take]; omega),
      List.take_append_drop]
  have hlength : ((t.take i).drop (n + 1)).length = i - (n + 1) := by
    rw [List.length_drop, List.length_take]
    omega
  have hlast : ((t.take i).drop (n + 1)).getLast? ≠ some escape := by
    rw [List.getLast?_eq_getElem?, hlength, List.getElem?_drop]
    rcases Nat.eq_or_lt_of_le hn with rfl | hlt'
    · rw [List.getElem?_eq_none]
      · simp
      · rw [List.length_take]
        omega
    · rw [List.getElem?_take_of_lt (by omega), show n + 1 + (i - (n + 1) - 1) = i - 1 by omega]
      exact hi
  rw [hsplit] at hscan
  obtain ⟨inner, outer, hscan'⟩ := scan_behind hlast hscan (by omega)
  rw [hlength, show n + 1 + (i - (n + 1)) = i by omega] at hscan'
  exact ⟨inner, outer, hscan'⟩

/-- A bracket inside a matched bracket closes before it does, if it is not escaped. -/
theorem findClosing_inside {b : Bracket} (h : findClosing t (n : Int) = some j) (hn : n < i)
    (hj : i ≤ j) (hi : t[i - 1]? ≠ some escape) (hb : t[i]? = some b.opener) :
    ∃ k < j, findClosing t (i : Int) = some k := by
  obtain ⟨inner, outer, hscan⟩ := exists_scan_of_findClosing h hn hj hi
  have hdrop : t.drop i = b.opener :: t.drop (i + 1) := by
    obtain ⟨hlt, hget⟩ := List.getElem?_eq_some_iff.1 hb
    rw [List.drop_eq_getElem_cons hlt, hget]
  rw [hdrop, scan_opener] at hscan
  obtain ⟨k, hk, hinner⟩ := scan_of_outer hscan
  exact ⟨k, hk, findClosing_eq_some_iff.2 ⟨b, _, hdrop, hinner⟩⟩

end Bracket

namespace Token

variable {t : Text} {i j : Nat} {token inner : Token}

/-- The last character of a token is a closer, and no dollar. -/
theorem exists_closer_of_at? (h : at? t i = some token) :
    ∃ b : Bracket, t[token.stop]? = some b.closer := by
  obtain ⟨b, -, hb⟩ := Bracket.exists_ends_of_findClosing (findClosing_of_at? h)
  exact ⟨b, hb⟩

theorem not_unescapedAt_stop (h : at? t i = some token) : ¬ UnescapedAt t token.stop := by
  obtain ⟨b, hb⟩ := exists_closer_of_at? h
  rintro ⟨hdollar, -⟩
  rw [hb, Option.some.injEq] at hdollar
  cases b <;> simp [Bracket.closer] at hdollar

/-- Inside a token, every bracket behind a dollar closes before the token ends, be the dollar
escaped or not. -/
theorem findClosing_inside {b : Bracket} (h : at? t i = some token) (hlt : i < j)
    (hj : j < token.stop) (hdollar : t[j]? = some '$') (hb : t[j + 1]? = some b.opener) :
    ∃ k < token.stop, Bracket.findClosing t ((j + 1 : Nat) : Int) = some k := by
  have hback : t[j + 1 - 1]? ≠ some Bracket.escape := by
    rw [Nat.add_sub_cancel, hdollar]
    decide
  exact Bracket.findClosing_inside (findClosing_of_at? h) (Nat.succ_lt_succ hlt) hj hback hb

/-- A token that starts inside another one ends inside it. -/
theorem stop_lt_of_start_le (h : at? t i = some token) (h' : at? t j = some inner)
    (hj : UnescapedAt t j) (hlt : i < j) (hle : j ≤ token.stop) : inner.stop < token.stop := by
  have hlt' : j < token.stop := by
    refine Nat.lt_of_le_of_ne hle ?_
    rintro rfl
    exact not_unescapedAt_stop h hj
  obtain ⟨b, hb⟩ := exists_opener_of_at? h'
  obtain ⟨k, hk, hinner⟩ := findClosing_inside h hlt hlt' hj.1 hb
  rw [findClosing_of_at? h', Option.some.injEq] at hinner
  rwa [hinner]

/-- **Tokens never overlap in part**: of two tokens found in a text, from any positions, either
the one ends before the other starts or it holds the other one whole.  Inside a token, every
bracket behind a dollar closes before the token ends, be the dollar escaped or not. -/
theorem disjoint_or_nested (text : Text) :
    (∀ (p q : Int) (token inner : Token), find? text p = some token →
      find? text q = some inner → token.start < inner.start →
      token.stop < inner.start ∨ inner.stop < token.stop) ∧
    (∀ (p : Int) (token : Token), find? text p = some token → ∀ (i : Nat) (b : Bracket),
      token.start < i → i < token.stop → text[i]? = some '$' → text[i + 1]? = some b.opener →
      ∃ k < token.stop, Bracket.findClosing text ((i + 1 : Nat) : Int) = some k) := by
  constructor
  · intro p q token inner ht hinner hlt
    have hdollar := unescapedAt_of_nextDollar (start_of_find? hinner)
    rcases Nat.lt_or_ge token.stop inner.start with hdisjoint | hle
    · exact .inl hdisjoint
    · exact .inr (stop_lt_of_start_le (at?_of_find? ht) (at?_of_find? hinner) hdollar hlt hle)
  · intro p token ht i b hstart hstop hdollar hb
    exact findClosing_inside (at?_of_find? ht) hstart hstop hdollar hb

/-- A token with a bracket escaped in it, then a token, then a dollar behind two backslashes; and
another token behind it. -/
theorem disjoint_or_nested_of_escapes :
    let text := Text.ofString "$(A=\\($\x7bB\x7d\\\\$(C))$(D)"
    let token : Token := ⟨['A'], some (.ofString "\\($\x7bB\x7d\\\\$(C)"), 0, 16⟩
    let inner : Token := ⟨['B'], none, 6, 9⟩
    let behind : Token := ⟨['D'], none, 17, 20⟩
    (find? text 0 = some token ∧ find? text 2 = some inner ∧ find? text (-4) = some behind) ∧
      (token.stop < inner.start ∨ inner.stop < token.stop) ∧
      (token.stop < behind.start ∨ behind.stop < token.stop) ∧
      ∃ k < token.stop, Bracket.findClosing text ((12 + 1 : Nat) : Int) = some k := by
  intro text token inner behind
  have ht : find? text 0 = some token := by decide +kernel
  have hinner : find? text 2 = some inner := by decide +kernel
  have hbehind : find? text (-4) = some behind := by decide +kernel
  obtain ⟨hspans, hbrackets⟩ := disjoint_or_nested text
  exact ⟨⟨ht, hinner, hbehind⟩, hspans 0 2 token inner ht hinner (by decide),
    hspans 0 (-4) token behind ht hbehind (by decide),
    hbrackets 0 token ht 12 .round (by decide) (by decide) (by decide +kernel)
      (by decide +kernel)⟩

end Token

end TextMacros
