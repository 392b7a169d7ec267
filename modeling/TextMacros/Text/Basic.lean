/-!
# TextMacros.Text.Basic

Text as a list of characters, and the positions in it.

A position is counted in characters from the front.  A position that a caller gives may be
negative, and then counts from the end; `startIndex` is the one place where such a position is
read.  Main statements:

* `startIndex_ofNat`: a natural position means itself;
* `eq_append_of_splitAt`: cutting at the first separator and joining again gives the text back;
* `mem_left_of_splitAt`: what stands left of the cut holds no separator.
-/

namespace TextMacros

/-- A text, character by character. -/
abbrev Text := List Char

namespace Text

/-- The text of a string literal. -/
def ofString (s : String) : Text := s.toList

/-- A natural number in decimal. -/
def ofNat (n : Nat) : Text := (toString n).toList

/-- An integer in decimal, with a sign only if it is negative. -/
def ofInt : Int → Text
  | .ofNat n => ofNat n
  | .negSucc n => '-' :: ofNat (n + 1)

/-! ## classes of characters -/

/-- Whether a character has its code point in one of some closed ranges. -/
def inRanges (ranges : List (Nat × Nat)) (c : Char) : Bool :=
  ranges.any fun r => r.1 ≤ c.toNat && c.toNat ≤ r.2

/-! ## positions -/

/-- The index a scan starts at: a negative position counts from the end and stops at the front. -/
def startIndex (length : Nat) (position : Int) : Nat :=
  if position < 0 then (position + length).toNat else position.toNat

@[simp] theorem startIndex_ofNat (length n : Nat) : startIndex length (n : Int) = n := by
  grind [startIndex]

theorem startIndex_of_neg {length : Nat} {position : Int} (h : position < 0) :
    startIndex length position ≤ length := by
  simp only [startIndex, h, if_true]; omega

/-! ## cutting -/

/-- Cuts at the first `sep`: what stands before it and what stands behind it. -/
def splitAt (sep : Char) : Text → Option (Text × Text)
  | [] => none
  | c :: cs => if c = sep then some ([], cs) else (splitAt sep cs).map fun p => (c :: p.1, p.2)

theorem splitAt_eq_none_iff {sep : Char} {t : Text} : splitAt sep t = none ↔ sep ∉ t := by
  induction t with
  | nil => simp [splitAt]
  | cons c cs ih =>
    by_cases h : c = sep
    · simp [splitAt, h]
    · simp [splitAt, h, ih, Ne.symm h]

theorem eq_append_of_splitAt {sep : Char} {t l r : Text} (h : splitAt sep t = some (l, r)) :
    t = l ++ sep :: r := by
  induction t generalizing l with
  | nil => simp [splitAt] at h
  | cons c cs ih =>
    by_cases hc : c = sep
    · simp only [splitAt, hc, if_true, Option.some.injEq, Prod.mk.injEq] at h
      obtain ⟨rfl, rfl⟩ := h
      simp [hc]
    · simp only [splitAt, hc, if_false, Option.map_eq_some_iff] at h
      obtain ⟨⟨l', r'⟩, hp, he⟩ := h
      simp only [Prod.mk.injEq] at he
      obtain ⟨rfl, rfl⟩ := he
      simp [ih hp]

/-- The cut is at the first separator. -/
theorem mem_left_of_splitAt {sep : Char} {t l r : Text} (h : splitAt sep t = some (l, r)) :
    sep ∉ l := by
  induction t generalizing l with
  | nil => simp [splitAt] at h
  | cons c cs ih =>
    by_cases hc : c = sep
    · simp only [splitAt, hc, if_true, Option.some.injEq, Prod.mk.injEq] at h
      simp [← h.1]
    · simp only [splitAt, hc, if_false, Option.map_eq_some_iff] at h
      obtain ⟨⟨l', r'⟩, hp, he⟩ := h
      simp only [Prod.mk.injEq] at he
      obtain ⟨rfl, rfl⟩ := he
      simp [ih hp, Ne.symm hc]

/-- A text without the separator stands left of the cut. -/
theorem splitAt_append {sep : Char} {l : Text} (h : sep ∉ l) (r : Text) :
    splitAt sep (l ++ sep :: r) = some (l, r) := by
  induction l with
  | nil => simp [splitAt]
  | cons c cs ih =>
    obtain ⟨hc, hcs⟩ := not_or.1 (mt List.mem_cons.2 h)
    simp [splitAt, Ne.symm hc, ih hcs]

/-- The pieces between the separators; a text without one is its own single piece. -/
def pieces (sep : Char) : Text → List Text
  | [] => [[]]
  | c :: cs =>
    if c = sep then [] :: pieces sep cs
    else match pieces sep cs with
      | [] => [[c]]
      | p :: ps => (c :: p) :: ps

/-- Joins texts with a text between each two. -/
def joined (between : Text) : List Text → Text
  | [] => []
  | [t] => t
  | t :: u :: ts => t ++ between ++ joined between (u :: ts)

end Text

end TextMacros
