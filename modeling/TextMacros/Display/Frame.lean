import TextMacros.Display.Markup
import TextMacros.Text.Lines

/-!
# TextMacros.Display.Frame

Texts in frames: a panel around one text, and a grid of labelled values.

Both are as wide as their contents need, up to the columns there are.  Main statements:

* `width_of_mem_framed`: the lines of a framed text all have the same width, as far as they hold
  no joiners and selectors;
* `width_centred`: a centred text without these fills its columns.
-/

namespace TextMacros.Display

/-! ## measures -/

/-- The columns that the widest line of a text takes up. -/
def widestLine (t : Text) : Nat := ((Text.lines (withoutHidden t)).map width).foldl max 0

/-- The same character so many times. -/
def rule (n : Nat) (c : Char) : Text := List.replicate n c

/-! ## panels -/

/-- Lines of a width, with a rounded frame and a space on both sides. -/
def framed (columns : Nat) (lines : List Text) : List Text :=
  ('╭' :: rule (columns + 2) '─' ++ ['╮']) ::
    lines.map (fun line => '│' :: ' ' :: fitted columns line ++ [' ', '│']) ++
    ['╰' :: rule (columns + 2) '─' ++ ['╯']]

theorem totalWidth_rule (n : Nat) : totalWidth (rule n '─') = n := by
  have h : charWidth '─' = 1 := by decide +kernel
  induction n with
  | zero => rfl
  | succ n ih => simp only [rule, List.replicate_succ, totalWidth_cons] at ih ⊢; omega

theorem all_isPlain_rule (n : Nat) : (rule n '─').all isPlain := by
  have h : isPlain '─' = true := by decide
  simp [rule, h]

/-- A frame adds four columns to every line. -/
theorem width_of_mem_framed {columns : Nat} {lines : List Text} {line : Text}
    (hlines : ∀ l ∈ lines, l.all isPlain) (h : line ∈ framed columns lines) :
    width line = columns + 4 := by
  have corners : charWidth '╭' = 1 ∧ charWidth '╮' = 1 ∧ charWidth '╰' = 1 ∧ charWidth '╯' = 1 ∧
      charWidth '│' = 1 ∧ charWidth ' ' = 1 := by decide +kernel
  have plain : isPlain '╭' ∧ isPlain '╮' ∧ isPlain '╰' ∧ isPlain '╯' ∧ isPlain '│' ∧
      isPlain ' ' := by decide
  simp only [framed, List.cons_append, List.mem_cons, List.mem_append, List.mem_map,
    List.not_mem_nil, or_false] at h
  rcases h with rfl | ⟨line, hline, rfl⟩ | rfl
  · rw [width_of_plain (by simp [plain, all_isPlain_rule])]
    simp only [totalWidth_cons, totalWidth_append, totalWidth_rule, totalWidth_nil]; omega
  · have hplain := all_isPlain_fitted columns (hlines line hline)
    have hwidth := width_fitted columns (hlines line hline)
    rw [width_of_plain hplain] at hwidth
    rw [width_of_plain (by simp [plain, hplain])]
    simp only [totalWidth_cons, totalWidth_append, totalWidth_nil]; omega
  · rw [width_of_plain (by simp [plain, all_isPlain_rule])]
    simp only [totalWidth_cons, totalWidth_append, totalWidth_rule, totalWidth_nil]; omega

/-- A panel around a text, in so many columns at most.  Without a column inside, the panel has no
line between its rules. -/
def panel (columns : Nat) (t : Text) : List Text :=
  let inner := min (widestLine t) (columns - 4)
  framed inner (if inner = 0 then [] else wrap inner .fold t)

/-! ## grids -/

/-- A text centred in so many columns; odd space goes to its right. -/
def centred (columns : Nat) (t : Text) : Text :=
  fitted columns (spaces ((columns - width t) / 2) ++ t)

theorem width_centred (columns : Nat) {t : Text} (h : t.all isPlain) :
    width (centred columns t) = columns := by
  refine width_fitted columns ?_
  rw [List.all_append, all_isPlain_spaces, h, Bool.and_self]

/-- What is shown in a cell of so many columns.  A line that ends in a joiner takes the first of
the spaces behind it away, so it is filled up once more. -/
def cell (columns : Nat) (line : Text) : Text := fitted columns (padded columns line)

/-- A line of a grid with two cells. -/
def gridLine (side : Char) (left right : Nat) (label value : Text) : Text :=
  side :: ' ' :: cell left label ++ ' ' :: side :: ' ' :: cell right value ++ [' ', side]

/-- A rule of a grid with two columns, by its ends and its middle. -/
def gridRule (line first middle last : Char) (left right : Nat) : Text :=
  first :: rule (left + 2) line ++ middle :: rule (right + 2) line ++ [last]

/-- The lines of a row, whose value may take several. -/
def gridRow (left right : Nat) (label value : Text) : List Text :=
  match wrap right .ellipsis value with
  | [] => [gridLine '│' left right label []]
  | first :: others =>
    gridLine '│' left right label first :: others.map (gridLine '│' left right [])

/-- A grid of labelled values in so many columns at most, under a title and the names of its two
columns. -/
def grid (columns : Nat) (title label value : Text) (rows : List (Text × Text)) : List Text :=
  let left := (rows.map fun r => width r.1).foldl max (width label)
  let right := min ((rows.map fun r => widestLine r.2).foldl max (width value)) (columns - left - 7)
  [centred (left + right + 7) title,
    gridRule '━' '┏' '┳' '┓' left right,
    gridLine '┃' left right label value,
    gridRule '━' '┡' '╇' '┩' left right] ++
  rows.flatMap (fun r => gridRow left right r.1 r.2) ++
  [gridRule '─' '└' '┴' '┘' left right]

/-- Lines as they are printed. -/
def unlines (lines : List Text) : Text := lines.flatMap (· ++ ['\n'])

end TextMacros.Display
