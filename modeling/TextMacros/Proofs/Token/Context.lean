import TextMacros.Proofs.Bracket.Locality
import TextMacros.Proofs.Token.Dollar

/-!
# TextMacros.Proofs.Token.Context

A token in a larger text.

The token that starts at an index depends on its own characters only, so putting text behind a
text keeps its tokens and putting text in front moves them:

* `at?_append_left`, `find?_append_left`: text behind keeps what is found;
* `at?_append_right`, `find?_append_right`, `find?_inert_append`: text in front moves it;
* `splice_append_left`, `splice_append_right`: replacing a token goes along with both.

`find?_splice_zero` puts these together: where a text holding a token takes the place of the
first token, the first token of that text becomes the first token of the whole.
-/

namespace TextMacros

variable {a b t : Text} {i j n : Nat}

namespace Token

variable {token : Token}

/-! ## where a token lies -/

/-- A token lies in its text, and takes up three characters at least. -/
theorem bounds_of_at? (h : at? t i = some token) :
    token.start = i ∧ i + 2 ≤ token.stop ∧ token.stop < t.length := by
  obtain ⟨stop, hs, rfl⟩ := Option.map_eq_some_iff.1 h
  have hb := Bracket.bounds_of_findClosing hs
  rw [start_ofBody, stop_ofBody]
  exact ⟨rfl, by omega, hb.2⟩

/-- A bracket opens behind the dollar of a token. -/
theorem exists_opener_of_at? (h : at? t i = some token) :
    ∃ b : Bracket, t[i + 1]? = some b.opener := by
  obtain ⟨stop, hs, -⟩ := Option.map_eq_some_iff.1 h
  obtain ⟨b, cs, hd, -⟩ := Bracket.findClosing_eq_some_iff.1 hs
  exact ⟨b, by rw [← List.head?_drop, hd, List.head?_cons]⟩

/-- That bracket is closed by the last character of the token. -/
theorem findClosing_of_at? (h : at? t i = some token) :
    Bracket.findClosing t ((i + 1 : Nat) : Int) = some token.stop := by
  obtain ⟨stop, hs, rfl⟩ := Option.map_eq_some_iff.1 h
  rw [hs, stop_ofBody]

/-- The character behind the dollar of a token is no dollar. -/
theorem not_unescapedAt_succ (h : at? t i = some token) : ¬ UnescapedAt t (i + 1) := by
  obtain ⟨b, hb⟩ := exists_opener_of_at? h
  rintro ⟨hdollar, -⟩
  rw [hb, Option.some.injEq] at hdollar
  cases b <;> simp [Bracket.opener] at hdollar

theorem at?_of_find? {position : Int} (h : find? t position = some token) :
    at? t token.start = some token := by
  obtain ⟨start, -, ht⟩ := Option.bind_eq_some_iff.1 h
  rwa [start_of_at? ht]

/-- The token that a search finds starts at the first unescaped dollar. -/
theorem find?_eq_some_iff :
    find? t (n : Int) = some token ↔
      FirstUnescaped t n (some token.start) ∧ at? t token.start = some token := by
  rw [← nextDollar_eq_iff]
  constructor
  · exact fun h => ⟨start_of_find? h, at?_of_find? h⟩
  · rintro ⟨hn, ht⟩
    rw [find?, hn, Option.bind_some, ht]

/-- A search finds nothing if no unescaped dollar is left, or the first one starts no token. -/
theorem find?_eq_none_iff :
    find? t (n : Int) = none ↔
      ∀ j, FirstUnescaped t n (some j) → at? t j = none := by
  rw [find?, Option.bind_eq_none_iff]
  exact forall_congr' fun j => by rw [nextDollar_eq_iff]

/-- A search may start behind anything that holds no unescaped dollar. -/
theorem find?_skip {m : Nat} (hnm : n ≤ m) (h : ∀ k, n ≤ k → k < m → ¬ UnescapedAt t k) :
    find? t (n : Int) = find? t (m : Int) := by
  rw [find?, find?, nextDollar_skip hnm h]

/-- Nothing is found where every dollar is escaped. -/
theorem find?_of_escaped (h : ∀ i, ¬ UnescapedAt t i) (position : Int) :
    find? t position = none := by
  rw [Option.eq_none_iff_forall_ne_some]
  intro token ht
  exact h token.start (unescapedAt_of_nextDollar (start_of_find? ht))

theorem find?_of_noDollar (h : '$' ∉ t) (position : Int) : find? t position = none :=
  find?_of_escaped (fun _ hi => h (List.mem_of_getElem? hi.1)) position

/-! ## text behind -/

/-- Text put behind a text keeps its tokens. -/
theorem at?_append_left (h : at? a i = some token) (b : Text) : at? (a ++ b) i = some token := by
  obtain ⟨stop, hs, rfl⟩ := Option.map_eq_some_iff.1 h
  have hlt := (Bracket.bounds_of_findClosing hs).2
  rw [at?, Bracket.findClosing_append_left hs, Option.map_some,
    List.take_append_of_le_length (Nat.le_of_lt hlt)]

theorem find?_append_left (h : find? a (n : Int) = some token) (b : Text) :
    find? (a ++ b) (n : Int) = some token := by
  rw [find?, nextDollar_append_left (start_of_find? h), Option.bind_some]
  exact at?_append_left (at?_of_find? h) b

/-! ## text in front -/

/-- The token as it stands with `d` more characters in front of its text. -/
def shift (d : Nat) (token : Token) : Token :=
  { token with start := d + token.start, stop := d + token.stop }

@[simp] theorem name_shift (d : Nat) (token : Token) : (token.shift d).name = token.name := rfl

@[simp] theorem default?_shift (d : Nat) (token : Token) :
    (token.shift d).default? = token.default? := rfl

@[simp] theorem start_shift (d : Nat) (token : Token) :
    (token.shift d).start = d + token.start := rfl

@[simp] theorem stop_shift (d : Nat) (token : Token) :
    (token.shift d).stop = d + token.stop := rfl

theorem shift_ofBody (d start stop : Nat) (body : Text) :
    (ofBody start stop body).shift d = ofBody (d + start) (d + stop) body := by
  simp only [ofBody]
  split <;> rfl

/-- A default stands between the brackets of its token. -/
theorem default_sublist_of_at? {v : Text} (h : at? t i = some token)
    (hv : token.default? = some v) : v.Sublist ((t.take token.stop).drop (i + 2)) := by
  obtain ⟨stop, -, rfl⟩ := Option.map_eq_some_iff.1 h
  rw [stop_ofBody]
  rw [ofBody] at hv
  split at hv
  next => contradiction
  next name value hsplit =>
    rw [Text.eq_append_of_splitAt hsplit, ← Option.some.inj hv]
    have hvalue := (Text.trim_sublist value).trans (List.sublist_cons_self '=' value)
    exact hvalue.trans (List.sublist_append_right name _)

/-- So it holds no character that the text does not. -/
theorem notMem_default {v : Text} {c : Char} (h : at? t i = some token) (ht : c ∉ t)
    (hv : token.default? = some v) : c ∉ v := by
  intro hc
  have hbody := (default_sublist_of_at? h hv).mem hc
  exact ht (List.mem_of_mem_take (List.mem_of_mem_drop hbody))

/-- Text put in front of a text moves its tokens. -/
theorem at?_append_right (a b : Text) (i : Nat) :
    at? (a ++ b) (a.length + i) = (at? b i).map (shift a.length) := by
  rw [at?, at?, Nat.add_assoc a.length i 1, Bracket.findClosing_append_right, Option.map_map,
    Option.map_map]
  congr 1
  funext stop
  simp only [Function.comp_apply, shift_ofBody]
  rw [List.take_length_add_append, Nat.add_assoc, List.drop_length_add_append]

/-- Behind a text that does not end in a backslash, a search finds what it finds in the rest. -/
theorem find?_append_right (ha : a.getLast? ≠ some Bracket.escape) (b : Text) (n : Nat) :
    find? (a ++ b) ((a.length + n : Nat) : Int) = (find? b (n : Int)).map (shift a.length) := by
  rw [find?, find?, nextDollar_append_right ha]
  cases nextDollar b (n : Int) with
  | none => rfl
  | some j => exact at?_append_right a b j

/-- Behind a text that is inert from an index on, a search from there finds what it finds in the
rest. -/
theorem find?_inertFrom_append (ha : InertFrom n a) (b : Text) :
    find? (a ++ b) (n : Int) = (find? b 0).map (shift a.length) := by
  have hskip : find? (a ++ b) (n : Int) = find? (a ++ b) (a.length : Int) := by
    refine find?_skip ha.le_length fun k hk hlt => ?_
    rw [unescapedAt_append_left hlt]
    exact ha.escaped k hk
  exact hskip.trans (find?_append_right ha.getLast?_ne b 0)

/-- Behind an inert text, a search from its front on finds what it finds in the rest. -/
theorem find?_inert_append (ha : Inert a) (b : Text) :
    find? (a ++ b) 0 = (find? b 0).map (shift a.length) :=
  find?_inertFrom_append (ha.inertFrom (Nat.zero_le _)) b

/-- Nothing is found where a text is inert. -/
theorem find?_of_inertFrom (h : InertFrom n t) : find? t (n : Int) = none :=
  find?_eq_none_iff.2 fun j hj => absurd hj.2.1 (h.escaped j hj.1)

/-- The first token of a text stays the first one with an inert text in front and any text
behind. -/
theorem find?_between (ha : Inert a) (h : find? t 0 = some token) (b : Text) :
    find? (a ++ t ++ b) 0 = some (token.shift a.length) := by
  have hbehind : find? (t ++ b) ((0 : Nat) : Int) = some token := find?_append_left h b
  rw [List.append_assoc, find?_inert_append ha]
  exact congrArg (Option.map (shift a.length)) hbehind

/-! ## a token written out -/

/-- A bracket around a neutral text makes a token with the dollar before it. -/
theorem at?_group (k : Bracket) {body : Text} (hbody : Bracket.Neutral body) (a b : Text) :
    at? (a ++ '$' :: k.opener :: (body ++ k.closer :: b)) a.length =
      some (ofBody a.length (a.length + 2 + body.length) body) := by
  have hclose := Bracket.findClosing_neutral k (hbody.inside k) (a ++ ['$']) b
  rw [List.append_assoc, List.singleton_append, List.length_append, List.length_singleton]
    at hclose
  have hbetween : ('$' :: k.opener :: (body ++ k.closer :: b)).take (body.length + 2) =
      '$' :: k.opener :: body := by
    rw [List.take_succ_cons, List.take_succ_cons, List.take_left]
  rw [at?, hclose, Option.map_some,
    show a.length + 1 + 1 + body.length = a.length + (body.length + 2) by omega,
    List.take_length_add_append, List.drop_length_add_append, hbetween,
    show a.length + (body.length + 2) = a.length + 2 + body.length by omega]
  rfl

/-- A search from the dollar on finds that token. -/
theorem find?_group (k : Bracket) {body : Text} (hbody : Bracket.Neutral body)
    (ha : a.getLast? ≠ some Bracket.escape) (b : Text) :
    find? (a ++ '$' :: k.opener :: (body ++ k.closer :: b)) (a.length : Int) =
      some (ofBody a.length (a.length + 2 + body.length) body) := by
  have hdollar : UnescapedAt (a ++ '$' :: k.opener :: (body ++ k.closer :: b)) a.length :=
    (unescapedAt_append_right (i := 0) ha).2 ⟨rfl, .inl rfl⟩
  rw [find?_eq_some_iff, start_ofBody]
  refine ⟨⟨Nat.le_refl _, hdollar, fun k hk hlt => ?_⟩, at?_group k hbody a b⟩
  exact absurd hlt (Nat.not_lt.2 hk)

/-- A search passes over what holds no dollar. -/
theorem find?_noDollar {w : Text} (hw : '$' ∉ w) (a b : Text) :
    find? (a ++ (w ++ b)) (a.length : Int) =
      find? (a ++ (w ++ b)) ((a.length + w.length : Nat) : Int) := by
  refine find?_skip (Nat.le_add_right _ _) fun k hk hlt h => hw ?_
  obtain ⟨d, rfl⟩ := Nat.exists_eq_add_of_le hk
  have hget := h.1
  rw [List.getElem?_append_right (Nat.le_add_right _ _), Nat.add_sub_cancel_left,
    List.getElem?_append_left (Nat.lt_of_add_lt_add_left hlt)] at hget
  exact List.mem_of_getElem? hget

/-- Without a separator, the whole body is the name. -/
theorem ofBody_of_notMem {body : Text} (h : '=' ∉ body) (start stop : Nat) :
    ofBody start stop body = ⟨body, none, start, stop⟩ := by
  rw [ofBody, Text.splitAt_eq_none_iff.2 h]

/-- The first separator ends the name. -/
theorem ofBody_separator {name : Text} (h : '=' ∉ name) (value : Text) (start stop : Nat) :
    ofBody start stop (name ++ '=' :: value) = ⟨name.trim, some value.trim, start, stop⟩ := by
  rw [ofBody, Text.splitAt_append h]

end Token

/-! ## replacing a token -/

/-- A character that is neither in the text nor in the replacement is not in the new text. -/
theorem notMem_splice {r : Text} {c : Char} (ht : c ∉ t) (hr : c ∉ r) (span : Span) :
    c ∉ splice t span r := by
  intro h
  rw [splice, List.mem_append, List.mem_append] at h
  rcases h with (h | h) | h
  · exact ht (List.mem_of_mem_take h)
  · exact hr h
  · exact ht (List.mem_of_mem_drop h)

/-- Replacing a token written out keeps what stands around it. -/
theorem splice_group (k : Bracket) (a body b r : Text) :
    splice (a ++ '$' :: k.opener :: (body ++ k.closer :: b))
      ⟨a.length, a.length + 2 + body.length⟩ r = a ++ r ++ b := by
  have hbehind : (a ++ '$' :: k.opener :: (body ++ k.closer :: b)).drop
      (a.length + 2 + body.length + 1) = b := by
    rw [show a.length + 2 + body.length + 1 = a.length + (body.length + 1 + 2) by omega,
      List.drop_length_add_append, List.drop_succ_cons, List.drop_succ_cons,
      List.drop_length_add_append]
    rfl
  simp only [splice, List.take_left, hbehind]

/-- Replacing a span that lies in the front part keeps the text behind. -/
theorem splice_append_left {span : Span} (hstart : span.start ≤ a.length)
    (hstop : span.stop < a.length) (b r : Text) :
    splice (a ++ b) span r = splice a span r ++ b := by
  rw [splice, splice, List.take_append_of_le_length hstart,
    List.drop_append_of_le_length (Nat.succ_le_of_lt hstop)]
  simp only [List.append_assoc]

/-- Replacing a token that lies behind keeps the text in front. -/
theorem splice_append_right (token : Token) (a b r : Text) :
    splice (a ++ b) (token.shift a.length).span r = a ++ splice b token.span r := by
  simp only [splice, Token.span, Token.start_shift, Token.stop_shift, Nat.add_assoc,
    List.take_length_add_append, List.drop_length_add_append, List.append_assoc]

/-- Where a text with a token replaces the first token of a text, the first token of the one
becomes the first token of the other. -/
theorem find?_splice_zero {token inner : Token} (ht : Token.find? t 0 = some token) {v : Text}
    (hv : Token.find? v 0 = some inner) :
    Token.find? (splice t token.span v) 0 = some (inner.shift token.start) := by
  have hlt := lt_of_nextDollar (Token.start_of_find? ht)
  have hin : Token.find? (v ++ t.drop (token.stop + 1)) ((0 : Nat) : Int) = some inner :=
    Token.find?_append_left hv _
  have hfront : (t.take token.start).length = token.start := by
    rw [List.length_take]
    omega
  rw [splice, List.append_assoc]
  have h := Token.find?_inert_append (inert_take (Token.start_of_find? ht))
    (v ++ t.drop (token.stop + 1))
  rw [show Token.find? (v ++ t.drop (token.stop + 1)) 0 = some inner from hin, hfront] at h
  exact h

end TextMacros
