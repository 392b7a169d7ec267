import TextMacros.Display.Width
import TextMacros.Text.Blank

/-!
# TextMacros.Display.Wrap

Breaking a text into lines that fit a width.

A text is a row of words, each with the blanks behind it (the first also with those before it).  A
word goes to a new line if it does not fit behind what is on the line; the blanks behind it need
not fit.  A word that is wider than a line is either folded, that is cut into pieces of the width,
or put on a line of its own to be cut short there.  Blanks at the end of a line stay as far as
they fit.  Main statement: `cutWord_append`, by which cutting off a word loses nothing.
-/

namespace TextMacros.Display

/-! ## words -/

/-- The first word of a text with the blanks around it, and what follows. -/
def cutWord (t : Text) : Text × Text :=
  let fromWord := t.dropWhile Text.isBlank
  let behindWord := fromWord.dropWhile (!Text.isBlank ·)
  (t.takeWhile Text.isBlank ++ fromWord.takeWhile (!Text.isBlank ·) ++
    behindWord.takeWhile Text.isBlank, behindWord.dropWhile Text.isBlank)

theorem cutWord_append (t : Text) : (cutWord t).1 ++ (cutWord t).2 = t := by
  simp [cutWord, List.append_assoc, List.takeWhile_append_dropWhile]

/-- The words of a text, each with the blanks behind it, and the first with those before it; a
blank text has none.  `fuel` bounds their number. -/
def wordsWithin : (fuel : Nat) → Text → List Text
  | 0, _ => []
  | fuel + 1, t =>
    if t.all Text.isBlank then []
    else (cutWord t).1 :: wordsWithin fuel (cutWord t).2

/-- The words of a text. -/
def words (t : Text) : List Text := wordsWithin t.length t

/-! ## breaking -/

/-- What to do with a word that is wider than a line. -/
inductive Overflow where
  /-- Cut it into pieces. -/
  | fold
  /-- Cut it short and end it with an ellipsis. -/
  | ellipsis
  deriving DecidableEq, Repr

/-- The pieces of a word: clusters behind what is on the line and the columns it takes, as many
on a line as fit. -/
def piecesFrom (columns : Nat) (line : Text) (taken : Nat) : List Cluster → List Text
  | [] => [line]
  | c :: cs =>
    if columns < taken + c.width then line :: piecesFrom columns c.chars c.width cs
    else piecesFrom columns (line ++ c.chars) (taken + c.width) cs

/-- The pieces of a word that fit into so many columns.  Where the first cluster does not fit, an
empty piece stands before it. -/
def pieces (columns : Nat) (word : Text) : List Text := piecesFrom columns [] 0 (clusters word)

/-- The lines broken so far, and the line that is being filled. -/
structure Breaking where
  /-- The lines done, the last first. -/
  done : List Text
  /-- What is on the line. -/
  line : Text
  /-- The columns that count as taken. -/
  taken : Nat

namespace Breaking

/-- The breaking with a text put on a new line; at the start of all it stays on the first. -/
def onNewLine (b : Breaking) (t : Text) : Breaking :=
  if b.done.isEmpty && b.line.isEmpty then ⟨[], t, width t⟩
  else ⟨b.line :: b.done, t, width t⟩

/-- The breaking with a word put behind what is on the line, or on a new one. -/
def addWord (columns : Nat) (overflow : Overflow) (b : Breaking) (word : Text) : Breaking :=
  let needed := width word.trimRight
  if b.taken + needed ≤ columns then ⟨b.done, b.line ++ word, b.taken + width word⟩
  else if columns < needed && overflow == .fold then
    (pieces columns word).foldl onNewLine b
  else b.onNewLine word

/-- The lines, in order. -/
def lines (b : Breaking) : List Text := (b.line :: b.done).reverse

end Breaking

/-- A line without the blanks at its end, as far as it has more characters than columns. -/
def trimEnd (columns : Nat) (t : Text) : Text :=
  let blanks := (t.reverse.takeWhile Text.isBlank).length
  t.take (t.length - min blanks (t.length - columns))

/-- A line cut short to so many columns, if it takes up more. -/
def cutShort (columns : Nat) (overflow : Overflow) (t : Text) : Text :=
  if width t ≤ columns then t
  else match overflow with
    | .fold => fitted columns t
    | .ellipsis => fitted (columns - 1) t ++ ['…']

/-- The lines of a text without line feeds. -/
def wrapLine (columns : Nat) (overflow : Overflow) (t : Text) : List Text :=
  let broken := match words t with
    | [] => [t]
    | words => (words.foldl (Breaking.addWord columns overflow) ⟨[], [], 0⟩).lines
  broken.map fun line => cutShort columns overflow (trimEnd columns line)

/-! ## whole texts -/

/-- The distance of the tab stops. -/
def tabSize : Nat := 8

/-- The parts of a line between its tabs, from a column on, with each tab replaced by spaces up
to the next tab stop, one at least. -/
def joinAtStops (column : Nat) : List Text → Text
  | [] => []
  | [last] => last
  | part :: next :: rest =>
    let start := part ++ [' ']
    let stop := column + width start
    let filling := (tabSize - stop % tabSize) % tabSize
    start ++ spaces filling ++ joinAtStops (stop + filling) (next :: rest)

/-- A line with its tabs replaced by spaces. -/
def expandTabs (line : Text) : Text := joinAtStops 0 (Text.pieces '\t' line)

/-- The characters that are never shown: bell, backspace, vertical tab, form feed and carriage
return. -/
def isHidden (c : Char) : Bool := ['\x07', '\x08', '\x0b', '\x0c', '\r'].contains c

/-- A text without the characters that are never shown. -/
def withoutHidden (t : Text) : Text := t.filter (!isHidden ·)

/-- The lines of a text that fit into so many columns. -/
def wrap (columns : Nat) (overflow : Overflow) (t : Text) : List Text :=
  (Text.pieces '\n' (withoutHidden t)).flatMap fun line =>
    wrapLine columns overflow (expandTabs line)

/-- A text as it is printed into so many columns, with a line feed at its end. -/
def print (columns : Nat) (t : Text) : Text :=
  (wrap columns .fold t).flatMap (· ++ ['\n'])

end TextMacros.Display
