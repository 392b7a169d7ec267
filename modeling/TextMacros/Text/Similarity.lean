import TextMacros.Text.Basic

/-!
# TextMacros.Text.Similarity

Which texts are like a text, for suggestions.

Two texts have as many characters in common as their longest common block and, beside it, what
their parts before it and their parts behind it have in common.  They are similar when these
characters are at least three fifths of all their characters.  Main statements:

* `mem_of_mem_closest`: the texts closest to a text are taken from those there are to choose from;
* `length_closest_le`: they are at most three.
-/

namespace TextMacros.Text

/-! ## blocks -/

/-- How many characters two texts share at their starts. -/
def commonStart : Text → Text → Nat
  | c :: cs, d :: ds => if c = d then commonStart cs ds + 1 else 0
  | _, _ => 0

/-- A block that two texts have in common: where it stands in the first and in the second, and
how long it is. -/
structure Block where
  /-- Its index in the first text. -/
  first : Nat
  /-- Its index in the second text. -/
  second : Nat
  /-- Its length. -/
  length : Nat
  deriving DecidableEq, Repr

/-- The longest block that two texts have in common; of several the first in the first text, and
of those the first in the second. -/
def longestBlock (s t : Text) : Block :=
  (List.range s.length).foldl (fun best i =>
    (List.range t.length).foldl (fun best j =>
      let length := commonStart (s.drop i) (t.drop j)
      if best.length < length then ⟨i, j, length⟩ else best) best) ⟨0, 0, 0⟩

/-- The characters that two texts have in common, with a bound on the blocks. -/
def commonWithin : (fuel : Nat) → Text → Text → Nat
  | 0, _, _ => 0
  | fuel + 1, s, t =>
    let block := longestBlock s t
    if block.length = 0 then 0
    else
      commonWithin fuel (s.take block.first) (t.take block.second) + block.length +
        commonWithin fuel (s.drop (block.first + block.length))
          (t.drop (block.second + block.length))

/-- How many characters two texts have in common. -/
def common (s t : Text) : Nat := commonWithin s.length s t

/-! ## suggestions -/

/-- Whether a text is similar to a word. -/
def isSimilar (word t : Text) : Bool :=
  3 * (t.length + word.length) ≤ 10 * common t word

/-- Whether a text does not come behind another in the alphabet, character by character. -/
def isSorted : Text → Text → Bool
  | [], _ => true
  | _ :: _, [] => false
  | c :: cs, d :: ds => c.toNat < d.toNat || (c == d && isSorted cs ds)

/-- Whether a text is at least as close to a word as another; of two that are equally close the
later in the alphabet comes first. -/
def isCloser (word s t : Text) : Bool :=
  let ofFirst := common s word * (t.length + word.length)
  let ofSecond := common t word * (s.length + word.length)
  ofSecond < ofFirst || (ofSecond == ofFirst && isSorted t s)

/-- How many texts are suggested at most. -/
def maxSuggestions : Nat := 3

/-- The texts closest to a word among some, as far as they are similar to it, in the order of the
alphabet. -/
def closest (word : Text) (choices : List Text) : List Text :=
  let similar := choices.filter (isSimilar word)
  ((similar.mergeSort (isCloser word)).take maxSuggestions).mergeSort isSorted

theorem mem_of_mem_closest {word t : Text} {choices : List Text}
    (h : t ∈ closest word choices) : t ∈ choices := by
  simp only [closest, List.mem_mergeSort] at h
  exact (List.mem_filter.1 (List.mem_mergeSort.1 (List.mem_of_mem_take h))).1

theorem length_closest_le (word : Text) (choices : List Text) :
    (closest word choices).length ≤ maxSuggestions := by
  simp only [closest, List.length_mergeSort, List.length_take]
  exact Nat.min_le_left _ _

/-- A name with two letters swapped. -/
example : common (ofString "form") (ofString "from") = 3 := by decide

end TextMacros.Text
