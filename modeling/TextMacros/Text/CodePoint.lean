import TextMacros.Text.Basic

/-!
# TextMacros.Text.CodePoint

Texts of code points.

A code point is the number of a character, or one half of a surrogate pair that stands alone.
Such halves come from escapes in JSON; a `Text` cannot hold them, and shows U+FFFD in their
place.  Main statements:

* `CodePoint.char?_eq_some_iff`: a character and its code point stand for each other;
* `CodeText.text?_eq_some_iff`: the texts are the code texts without halves.
-/

namespace TextMacros

/-- A code point. -/
structure CodePoint where
  /-- The number. -/
  number : Nat
  /-- There is no greater one than U+10FFFF. -/
  lt : number < 0x110000
  deriving DecidableEq, Repr

namespace CodePoint

/-- The code point of a number; numbers that are too great start again from zero. -/
def ofNat (n : Nat) : CodePoint := ⟨n % 0x110000, Nat.mod_lt n (by decide)⟩

/-- The code point of a character. -/
def ofChar (c : Char) : CodePoint where
  number := c.toNat
  lt := by
    have hlow : c.toNat < 0xd800 ∨ 0xdfff < c.toNat ∧ c.toNat < 0x110000 := c.valid
    omega

/-- The character of a code point, unless it is half of a surrogate pair. -/
def char? (p : CodePoint) : Option Char :=
  if p.number.isValidChar then some (Char.ofNat p.number) else none

/-- A code point shown as a character. -/
def shown (p : CodePoint) : Char := p.char?.getD '\ufffd'

@[simp] theorem char?_ofChar (c : Char) : (ofChar c).char? = some c := by
  have hvalid : c.toNat.isValidChar := c.valid
  rw [char?, ofChar, if_pos hvalid, Char.ofNat_toNat]

theorem char?_eq_some_iff {p : CodePoint} {c : Char} : p.char? = some c ↔ p = ofChar c := by
  constructor
  · intro h
    simp only [char?, Option.ite_none_right_eq_some, Option.some.injEq] at h
    obtain ⟨hvalid, rfl⟩ := h
    obtain ⟨n, hn⟩ := p
    have hnumber : (Char.ofNat n).toNat = n := by
      rw [Char.ofNat, dif_pos hvalid]
      rfl
    simp only [ofChar, hnumber]
  · rintro rfl
    exact char?_ofChar c

end CodePoint

/-- A text that may hold halves of surrogate pairs. -/
abbrev CodeText := List CodePoint

/-- The code points of a text. -/
def Text.codes (t : Text) : CodeText := t.map .ofChar

namespace CodeText

/-- The text that has these code points, if there is one. -/
def text? : CodeText → Option Text
  | [] => some []
  | p :: s => p.char?.bind fun c => (text? s).map (c :: ·)

/-- A code text shown as a text. -/
def shown (s : CodeText) : Text := s.map CodePoint.shown

theorem text?_eq_some_iff {s : CodeText} {t : Text} : text? s = some t ↔ s = t.codes := by
  induction s generalizing t with
  | nil => cases t <;> simp [text?, Text.codes]
  | cons p s ih =>
    cases t with
    | nil => simp [text?, Text.codes, Option.bind_eq_some_iff]
    | cons c t =>
      simp only [text?, Option.bind_eq_some_iff, Option.map_eq_some_iff, ih, Text.codes,
        CodePoint.char?_eq_some_iff, List.map_cons, List.cons.injEq]
      constructor
      · rintro ⟨d, hp, u, hs, rfl, rfl⟩
        exact ⟨hp, hs⟩
      · rintro ⟨hp, hs⟩
        exact ⟨c, hp, t, hs, rfl, rfl⟩

@[simp] theorem shown_codes (t : Text) : shown t.codes = t := by
  simp [shown, Text.codes, CodePoint.shown, Function.comp_def]

end CodeText

end TextMacros
