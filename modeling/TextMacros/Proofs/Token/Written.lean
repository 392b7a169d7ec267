import TextMacros.Proofs.Bracket.Grammar
import TextMacros.Proofs.Token.Context

/-!
# TextMacros.Proofs.Token.Written

Tokens as they are written.

```text
token  ::=  '$' opener body closer           (opener and closer of one kind)
body   ::=  name  |  name '=' default        (no '=' in the name)
```

Nothing else is asked of the two parts but that the bracket, when the token stands alone, is
closed by its last character.  They may hold dollars, escapes, other tokens, and the closer of
the other kind; the default may hold more separators.  A `WrittenToken` is such a writing, and
`WrittenToken.token` is what it says.  Main statements:

* `find?_written`: a written token is found behind an inert text, whatever follows;
* `exists_written_of_at?`: whatever is found has been written so;
* `find?_undoes_writing`: both, for a search from any position.
-/

namespace TextMacros

/-! ## the writing -/

namespace Token

/-- What is written between the brackets of a token. -/
def writtenBody (name : Text) : Option Text → Text
  | none => name
  | some value => name ++ '=' :: value

/-- A dollar, and a text in brackets behind it. -/
def enclosed (k : Bracket) (body : Text) : Text := '$' :: k.opener :: (body ++ [k.closer])

theorem length_enclosed (k : Bracket) (body : Text) :
    (enclosed k body).length = body.length + 3 := by
  simp [enclosed]

/-- Between the brackets of such a text stands the text. -/
theorem between_enclosed (k : Bracket) (body : Text) :
    ((enclosed k body).take (body.length + 2)).drop 2 = body := by
  simp [enclosed]

theorem findClosing_enclosed (k : Bracket) {body : Text} (h : Bracket.NeutralIn k body) :
    Bracket.findClosing (enclosed k body) 1 = some (body.length + 2) := by
  have hclose := Bracket.findClosing_neutral k h ['$'] []
  rw [show ['$'].length + 1 + body.length = body.length + 2 from Nat.add_comm 2 _] at hclose
  exact hclose

end Token

/-- A token as it is written. -/
structure WrittenToken where
  /-- The kind of its brackets. -/
  kind : Bracket
  /-- What stands in them before the first separator. -/
  name : Text
  /-- What stands behind the first separator, if there is one. -/
  default? : Option Text
  /-- The separator is the first one. -/
  separator_notMem : '=' ∉ name
  /-- Alone, the bracket is closed by the last character. -/
  closes : Bracket.findClosing (Token.enclosed kind (Token.writtenBody name default?)) 1 =
    some ((Token.writtenBody name default?).length + 2)

namespace WrittenToken

variable (w : WrittenToken)

/-- What stands between its brackets. -/
def body : Text := Token.writtenBody w.name w.default?

/-- The whole writing. -/
def text : Text := Token.enclosed w.kind w.body

/-- What the writing says, when it stands alone: both parts are trimmed, but a name without a
default is taken as it stands. -/
def token : Token :=
  match w.default? with
  | none => ⟨w.name, none, 0, w.body.length + 2⟩
  | some value => ⟨w.name.trim, some value.trim, 0, w.body.length + 2⟩

theorem length_text : w.text.length = w.body.length + 3 := Token.length_enclosed w.kind w.body

@[simp] theorem start_token : w.token.start = 0 := by
  rw [token]; split <;> rfl

@[simp] theorem stop_token : w.token.stop = w.body.length + 2 := by
  rw [token]; split <;> rfl

/-- A written token ends in a closer. -/
theorem getLast?_text : w.text.getLast? = some w.kind.closer := by
  simp [text, Token.enclosed, List.getLast?_cons]

/-- The body is split where it was put together. -/
theorem ofBody_body : Token.ofBody 0 (w.body.length + 2) w.body = w.token := by
  rw [body, token]
  cases h : w.default? with
  | none => simp [body, h, Token.writtenBody, Token.ofBody_of_notMem w.separator_notMem]
  | some value => simp [body, h, Token.writtenBody, Token.ofBody_separator w.separator_notMem]

@[simp] theorem default?_token : w.token.default? = w.default?.map Text.trim := by
  rw [token]; cases w.default? <;> rfl

/-- A name without blanks around is taken as it stands, with and without a default. -/
theorem name_token (h : w.name.trim = w.name) : w.token.name = w.name := by
  rw [token]; cases w.default? with
  | none => rfl
  | some value => exact h

/-- Replacing a written token at the front keeps what stands behind it. -/
theorem splice_text (b r : Text) : splice (w.text ++ b) w.token.span r = r ++ b := by
  have hbehind : (w.text ++ b).drop (w.body.length + 2 + 1) = b :=
    List.drop_left' w.length_text
  simp [splice, Token.span, hbehind]

/-- Every text that is neutral in a bracket is the body of a written token. -/
theorem exists_of_neutralIn {k : Bracket} {body : Text} (h : Bracket.NeutralIn k body) :
    ∃ w : WrittenToken, w.text = Token.enclosed k body := by
  have hclose := Token.findClosing_enclosed k h
  cases hsplit : Text.splitAt '=' body with
  | none => exact ⟨⟨k, body, none, Text.splitAt_eq_none_iff.1 hsplit, hclose⟩, rfl⟩
  | some parts =>
    obtain ⟨name, value⟩ := parts
    obtain rfl := Text.eq_append_of_splitAt hsplit
    exact ⟨⟨k, name, some value, Text.mem_left_of_splitAt hsplit, hclose⟩, rfl⟩

end WrittenToken

namespace Token

variable {a text : Text} {token : Token} {i n : Nat}

/-! ## what is written is found -/

theorem at?_written (w : WrittenToken) : at? w.text 0 = some w.token := by
  have hclose : Bracket.findClosing w.text ((0 + 1 : Nat) : Int) = some (w.body.length + 2) :=
    w.closes
  have hbetween : (w.text.take (w.body.length + 2)).drop (0 + 2) = w.body :=
    between_enclosed w.kind w.body
  rw [at?, hclose, Option.map_some, hbetween, w.ofBody_body]

/-- A written token is found behind a text that is inert from the start of the search on, whatever
follows. -/
theorem find?_written_inertFrom (ha : InertFrom n a) (w : WrittenToken) (b : Text) :
    find? (a ++ (w.text ++ b)) (n : Int) = some (w.token.shift a.length) := by
  have hdollar : UnescapedAt w.text 0 := ⟨rfl, .inl rfl⟩
  have halone : find? w.text ((0 : Nat) : Int) = some w.token := by
    rw [find?_eq_some_iff, w.start_token]
    exact ⟨⟨Nat.le_refl 0, hdollar, fun k _ hk => absurd hk (Nat.not_lt_zero k)⟩, at?_written w⟩
  have hbehind : find? (w.text ++ b) 0 = some w.token := find?_append_left halone b
  rw [find?_inertFrom_append ha, hbehind, Option.map_some]

/-- In particular it is found from the front, behind an inert text. -/
theorem find?_written (ha : Inert a) (w : WrittenToken) (b : Text) :
    find? (a ++ w.text ++ b) 0 = some (w.token.shift a.length) := by
  rw [List.append_assoc]
  exact find?_written_inertFrom (ha.inertFrom (Nat.zero_le _)) w b

/-! ## what is found has been written -/

/-- What a bracket encloses stands between it and its closer. -/
theorem exists_enclosed_of_at? (h : at? text i = some token) (hdollar : text[i]? = some '$') :
    ∃ (k : Bracket) (body : Text), Bracket.NeutralIn k body ∧
      text = text.take i ++ enclosed k body ++ text.drop (token.stop + 1) := by
  obtain ⟨k, span⟩ := Bracket.groupSpan_of_findClosing (findClosing_of_at? h)
  obtain ⟨body, hgroup, inside⟩ := span.group.exists_items
  rw [Int.toNat_natCast] at hgroup
  refine ⟨k, body, inside.neutralIn, ?_⟩
  have hbounds := bounds_of_at? h
  have hfront : (text.take (token.stop + 1)).drop i = enclosed k body := by
    have hget : (text.take (token.stop + 1))[i]? = some '$' := by
      rw [List.getElem?_take_of_lt (by omega), hdollar]
    obtain ⟨hlt, hget⟩ := List.getElem?_eq_some_iff.1 hget
    rw [List.drop_eq_getElem_cons hlt, hget, hgroup, enclosed]
  calc
    text = text.take (token.stop + 1) ++ text.drop (token.stop + 1) :=
      (List.take_append_drop _ _).symm
    _ = (text.take (token.stop + 1)).take i ++ (text.take (token.stop + 1)).drop i ++
        text.drop (token.stop + 1) := by
      rw [List.take_append_drop i (text.take (token.stop + 1))]
    _ = text.take i ++ enclosed k body ++ text.drop (token.stop + 1) := by
      rw [hfront, List.take_take, Nat.min_eq_left (by omega)]

/-- Whatever is found has been written so. -/
theorem exists_written_of_at? (h : at? text i = some token) (hdollar : text[i]? = some '$') :
    ∃ w : WrittenToken, text = text.take i ++ w.text ++ text.drop (token.stop + 1) ∧
      token = w.token.shift i := by
  obtain ⟨k, body, hneutral, htext⟩ := exists_enclosed_of_at? h hdollar
  obtain ⟨w, hw⟩ := WrittenToken.exists_of_neutralIn hneutral
  rw [← hw] at htext
  refine ⟨w, htext, ?_⟩
  have hlength : (text.take i).length = i := by
    have := (List.getElem?_eq_some_iff.1 hdollar).1
    rw [List.length_take]
    omega
  have hat := at?_append_right (text.take i) (w.text ++ text.drop (token.stop + 1)) 0
  rw [at?_append_left (at?_written w), ← List.append_assoc, ← htext, hlength, Nat.add_zero, h,
    Option.map_some] at hat
  exact Option.some.inj hat

/-- **Finding undoes writing and writing undoes finding**: a written token is found from the front
of any text in which it stands behind an inert text, whatever follows, and it is found as what it
says.  And whatever is found, from any position, stands at the first unescaped dollar from there
on, and it is what a written token says that stands in the text from its start to its end. -/
theorem find?_undoes_writing :
    (∀ (a : Text) (w : WrittenToken) (b : Text), Inert a →
      find? (a ++ w.text ++ b) 0 = some (w.token.shift a.length)) ∧
    (∀ (text : Text) (position : Int) (token : Token), find? text position = some token →
      Text.startIndex text.length position ≤ token.start ∧
      token.start + 2 ≤ token.stop ∧ token.stop < text.length ∧
      (∀ i, Text.startIndex text.length position ≤ i → i < token.start →
        ¬ UnescapedAt text i) ∧
      ∃ w : WrittenToken,
        text = text.take token.start ++ w.text ++ text.drop (token.stop + 1) ∧
        token = w.token.shift token.start) := by
  refine ⟨fun a w b ha => find?_written ha w b, fun text position token h => ?_⟩
  have hat := at?_of_find? h
  obtain ⟨-, hspan, hstop⟩ := bounds_of_at? hat
  obtain ⟨hle, hdollar, hbefore⟩ := firstUnescaped_of_nextDollar (start_of_find? h)
  exact ⟨hle, hspan, hstop, hbefore, exists_written_of_at? hat hdollar.1⟩

/-- A name with blanks around, and a default that holds a closer of the other kind, a token with
an escaped closer, and one more separator; in front an escaped dollar, behind another token, which
is found from a position counted from the end. -/
theorem find?_undoes_writing_of_mixed :
    let w : WrittenToken :=
      ⟨.round, .ofString " A ", some (.ofString " \x7d$(B=\\))=d "), by decide, by decide +kernel⟩
    let a := Text.ofString "\\$(x"
    let text := a ++ w.text ++ .ofString ")$(C)"
    let behind : Token := ⟨['C'], none, 24, 27⟩
    text = .ofString "\\$(x$( A = \x7d$(B=\\))=d ))$(C)" ∧
    (Inert a ∧ find? text 0 = some ⟨['A'], some (.ofString "\x7d$(B=\\))=d"), 4, 22⟩) ∧
    find? text (-6) = some behind ∧ Text.startIndex text.length (-6) ≤ 24 ∧
      ∃ v : WrittenToken, text = text.take 24 ++ v.text ++ text.drop 28 ∧
        behind = v.token.shift 24 := by
  intro w a text behind
  have ha : Inert a := by decide +kernel
  have hbehind : find? text (-6) = some behind := by decide +kernel
  obtain ⟨hfound, hwritten⟩ := find?_undoes_writing
  obtain ⟨hle, -, -, -, hv⟩ := hwritten text (-6) behind hbehind
  exact ⟨by decide +kernel, ⟨ha, hfound a w (.ofString ")$(C)") ha⟩, hbehind, hle, hv⟩

end Token

end TextMacros
