import TextMacros.Text.Blank

/-!
# TextMacros.Text.Lines

The lines of a text, and taking off the indentation that they share.

Besides line feed and carriage return, alone or together, a line is ended by the other separators
of Unicode.  Main statement: `lines_of_noLineEnd`, by which a text without an end of line is its
own only line.
-/

namespace TextMacros.Text

/-! ## lines -/

/-- Whether a character ends a line. -/
def isLineEnd (c : Char) : Bool :=
  ['\n', '\r', '\x0b', '\x0c', '\x1c', '\x1d', '\x1e', '\u0085', '\u2028', '\u2029'].contains c

/-- The lines of a text, without their ends. -/
def lines : Text → List Text
  | [] => []
  | '\r' :: '\n' :: cs => [] :: lines cs
  | c :: cs =>
    if isLineEnd c then [] :: lines cs
    else match lines cs with
      | [] => [[c]]
      | l :: ls => (c :: l) :: ls

theorem lines_of_noLineEnd {t : Text} (hne : t ≠ []) (h : ∀ c ∈ t, isLineEnd c = false) :
    lines t = [t] := by
  fun_induction lines t with
  | case1 => simp at hne
  | case2 cs => exact absurd (h '\r' (by simp)) (by decide)
  | case3 c cs _ hc => simp [h c (by simp)] at hc
  | case4 c cs _ _ hl ih =>
    cases cs with
    | nil => rfl
    | cons d ds => simp [ih (by simp) (fun x hx => h x (by simp_all))] at hl
  | case5 c cs _ _ l ls hl ih =>
    cases cs with
    | nil => simp [lines] at hl
    | cons d ds =>
      rw [ih (by simp) (fun x hx => h x (by simp_all))] at hl
      simp_all

/-! ## indentation -/

/-- A text with its tabs replaced by spaces up to the next column that eight divides. -/
def expandTabStops (column : Nat) : Text → Text
  | [] => []
  | c :: cs =>
    if c = '\t' then
      let n := 8 - column % 8
      List.replicate n ' ' ++ expandTabStops (column + n) cs
    else if c = '\n' || c = '\r' then c :: expandTabStops 0 cs
    else c :: expandTabStops (column + 1) cs

/-- The number of blanks that a line starts with; a blank line has no such number. -/
def indentation? (line : Text) : Option Nat :=
  if line.all isBlank then none else some (line.takeWhile isBlank).length

/-- A text without its leading blanks, without the indentation that its lines but the first share,
and without empty lines at its start and end. -/
def dedent (t : Text) : Text :=
  match pieces '\n' (expandTabStops 0 t) with
  | [] => []
  | first :: others =>
    let shared := ((others.filterMap indentation?).min?).getD 0
    let all := trimLeft first :: others.map (·.drop shared)
    let trimmed := (all.dropWhile List.isEmpty).reverse.dropWhile List.isEmpty
    joined ['\n'] trimmed.reverse

end TextMacros.Text
