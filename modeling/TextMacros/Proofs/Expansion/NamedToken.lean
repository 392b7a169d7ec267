import TextMacros.Proofs.Expansion.Steps
import TextMacros.Proofs.Token.Written
import TextMacros.Proofs.TokenTree.Basic

/-!
# TextMacros.Proofs.Expansion.NamedToken

Written tokens of which the name is a name by default, and the steps made at them.

What is put for such a token is the value of its name, or else its default (`NamedToken.put?`).
If there is neither, the token stays, and from behind its opener on nothing in it is found
(`inertFrom_text`).  A step at such a token is told for a token behind any text that is inert from
the offset on:

* `step?_leave`: a token for which nothing is put is passed over;
* `step?_splice`: otherwise what is put comes in its place.
-/

namespace TextMacros

/-- A written token with a name between its brackets. -/
abbrev NamedToken := { w : WrittenToken // defaultName.isMatch w.name = true }

theorem refersTo_of_inert {r : Text} (h : Inert r) (name : Text) : refersTo name r = false := by
  rw [refersTo, Token.find?_of_escaped h.escaped]
  rfl

namespace NamedToken

variable (w : NamedToken) (value? : Text → Option Text)

/-- What is put for the token: the value of its name, or else its default, trimmed. -/
def put? : Option Text := (value? w.1.name).or (w.1.default?.map Text.trim)

@[simp] theorem name_token : w.1.token.name = w.1.name :=
  w.1.name_token (Name.trim_eq ⟨w.1.name, w.2⟩)

variable {w value?} {a b r : Text} {n : Nat}

/-! ## what is due -/

theorem due_leave (h : w.put? value? = none) :
    Action.Due ⟨value?, defaultName.isMatch⟩ w.1.token .leave := by
  obtain ⟨hvalue, hdefault⟩ := Option.or_eq_none_iff.1 h
  exact .leave (by simpa using w.2) (by simpa using hvalue) (by simpa using hdefault)

theorem due_splice (h : w.put? value? = some r) (noSelf : refersTo w.1.name r = false) :
    Action.Due ⟨value?, defaultName.isMatch⟩ w.1.token (.splice r) := by
  rw [put?] at h
  cases hvalue : value? w.1.name with
  | none =>
    rw [hvalue, Option.none_or] at h
    exact .default (by simpa using w.2) (by simpa using hvalue) (by simpa using h)
  | some v =>
    rw [hvalue, Option.some_or] at h
    obtain rfl := Option.some.inj h
    exact .value (by simpa using w.2) (by simpa using hvalue) (by simpa using noSelf)

/-! ## tokens that stay -/

/-- A token for which nothing is put has no default. -/
theorem text_of_put?_eq_none (h : w.put? value? = none) :
    w.1.text = Token.enclosed w.1.kind w.1.name := by
  have hdefault : w.1.default? = none := by simpa using (Option.or_eq_none_iff.1 h).2
  rw [WrittenToken.text, WrittenToken.body, hdefault]
  rfl

/-- From behind its opener on, such a token is inert, whatever stands before it. -/
theorem inertFrom_text (h : w.put? value? = none) (a : Text) :
    InertFrom (a.length + 2) (a ++ w.1.text) := by
  have hname : '$' ∉ w.1.name := Name.dollar_notMem ⟨w.1.name, w.2⟩
  refine inertFrom_of_noDollar ?_ ?_ ?_
  · rw [List.length_append, w.1.length_text]
    omega
  · rw [List.drop_length_add_append, text_of_put?_eq_none h]
    cases w.1.kind <;> simp [Token.enclosed, Bracket.closer, hname]
  · simpa [List.getLast?_append, w.1.getLast?_text] using w.1.kind.closer_ne_escape

/-- It holds no backslash. -/
theorem escape_notMem_text (h : w.put? value? = none) : Bracket.escape ∉ w.1.text := by
  have hname : Bracket.escape ∉ w.1.name := fun hmem =>
    ne_escape_of_isPlain (Name.isPlain ⟨w.1.name, w.2⟩ hmem) rfl
  rw [text_of_put?_eq_none h]
  simp only [Token.enclosed, List.mem_cons, List.mem_append, List.not_mem_nil, or_false, not_or]
  exact ⟨by decide, w.1.kind.opener_ne_escape.symm, hname, w.1.kind.closer_ne_escape.symm⟩

/-! ## a step at a token -/

theorem step?_leave (ha : InertFrom n a) (h : w.put? value? = none) (b : Text) :
    Expansion.step? ⟨value?, defaultName.isMatch⟩ ⟨a ++ (w.1.text ++ b), n⟩ =
      some (⟨w.1.token.shift a.length, .leave⟩, ⟨a ++ (w.1.text ++ b), a.length + 2⟩) := by
  have hfind := Token.find?_written_inertFrom ha w.1 b
  have hdue := (Action.due_shift a.length).2 (due_leave h)
  refine Expansion.step?_eq_some_iff.2 ⟨hfind, hdue, ?_⟩
  simp [Expansion.apply]

theorem step?_splice (ha : InertFrom n a) (h : w.put? value? = some r)
    (noSelf : refersTo w.1.name r = false) (b : Text) :
    Expansion.step? ⟨value?, defaultName.isMatch⟩ ⟨a ++ (w.1.text ++ b), n⟩ =
      some (⟨w.1.token.shift a.length, .splice r⟩, .start (a ++ (r ++ b))) := by
  have hfind := Token.find?_written_inertFrom ha w.1 b
  have hdue := (Action.due_shift a.length).2 (due_splice h noSelf)
  refine Expansion.step?_eq_some_iff.2 ⟨hfind, hdue, ?_⟩
  simp only [Expansion.apply, splice_append_right, w.1.splice_text]

end NamedToken

end TextMacros
