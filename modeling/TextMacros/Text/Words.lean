import TextMacros.Text.Basic

/-!
# TextMacros.Text.Words

The words of a line as a shell cuts it.

Words stand apart by white space.  Between quotes white space belongs to a word; between single
quotes every other character stands for itself as well.  A backslash takes away what the character
behind it means; between double quotes it does so only to a double quote and to a backslash.  A
word that is not complete at the end of the line counts as far as it goes.  Main statement:
`words_of_plain`, by which a line without white space, quotes and backslashes is one word.
-/

namespace TextMacros.Text

/-! ## states -/

/-- What a character of a line means by where it stands. -/
inductive WordState where
  /-- Between two words. -/
  | between
  /-- In a word. -/
  | inWord
  /-- Between quotes of a kind. -/
  | inQuotes (quote : Char)
  /-- Behind a backslash in a word. -/
  | escaped
  /-- Behind a backslash between quotes of a kind. -/
  | escapedIn (quote : Char)
  deriving DecidableEq, Repr

/-- Whether a character stands between words. -/
def isWordSpace (c : Char) : Bool := c = ' ' || c = '\t' || c = '\r' || c = '\n'

/-- Whether a character is a quote. -/
def isQuote (c : Char) : Bool := c = '\'' || c = '"'

/-- A word that is read in part. -/
structure OpenWord where
  /-- Its characters, the last first. -/
  reversed : Text
  /-- Whether there are quotes in it. -/
  hasQuotes : Bool

namespace OpenWord

/-- The word before its first character. -/
def empty : OpenWord := ⟨[], false⟩

/-- The word with one more character. -/
def push (w : OpenWord) (c : Char) : OpenWord := { w with reversed := c :: w.reversed }

/-- The characters in order. -/
def text (w : OpenWord) : Text := w.reversed.reverse

/-- The word, if it is one: without characters it is one only between quotes. -/
def toList (w : OpenWord) : List Text :=
  if w.reversed.isEmpty && !w.hasQuotes then [] else [w.text]

end OpenWord

/-! ## cutting -/

/-- What a character outside of quotes does to a word, unless it is white space. -/
def wordStep (w : OpenWord) (c : Char) : OpenWord × WordState :=
  if c = '\\' then (w, .escaped)
  else if isQuote c then ({ w with hasQuotes := true }, .inQuotes c)
  else (w.push c, .inWord)

/-- The words of a line, from a state and the word that is read in part. -/
def wordsFrom : WordState → OpenWord → Text → List Text
  | .between, _, [] => []
  | .inWord, w, [] => w.toList
  | .inQuotes _, w, [] | .escaped, w, [] | .escapedIn _, w, [] => [w.text]
  | .between, w, c :: cs =>
    if isWordSpace c then wordsFrom .between w cs
    else wordsFrom (wordStep w c).2 (wordStep w c).1 cs
  | .inWord, w, c :: cs =>
    if isWordSpace c then w.toList ++ wordsFrom .between .empty cs
    else wordsFrom (wordStep w c).2 (wordStep w c).1 cs
  | .inQuotes quote, w, c :: cs =>
    if c = quote then wordsFrom .inWord w cs
    else if c = '\\' && quote = '"' then wordsFrom (.escapedIn quote) w cs
    else wordsFrom (.inQuotes quote) (w.push c) cs
  | .escaped, w, c :: cs => wordsFrom .inWord (w.push c) cs
  | .escapedIn quote, w, c :: cs =>
    let w := if c = quote || c = '\\' then w else w.push '\\'
    wordsFrom (.inQuotes quote) (w.push c) cs

/-- The words of a line. -/
def words (line : Text) : List Text := wordsFrom .between .empty line

/-! ## plain lines -/

/-- Whether a character always stands for itself. -/
def isPlainInWord (c : Char) : Bool := !isWordSpace c && !isQuote c && c != '\\'

theorem wordsFrom_inWord_of_plain {w : OpenWord} {t : Text} (h : t.all isPlainInWord)
    (hw : w.reversed ≠ []) : wordsFrom .inWord w t = [w.text ++ t] := by
  induction t generalizing w with
  | nil => simp [wordsFrom, OpenWord.toList, hw]
  | cons c cs ih =>
    simp only [List.all_cons, Bool.and_eq_true, isPlainInWord, Bool.not_eq_true', bne_iff_ne,
      ne_eq] at h
    obtain ⟨⟨⟨hspace, hquote⟩, hslash⟩, hcs⟩ := h
    have := ih (w := w.push c) (by simpa [isPlainInWord] using hcs) (by simp [OpenWord.push])
    simpa [wordsFrom, wordStep, hspace, hquote, hslash, OpenWord.text, OpenWord.push] using this

theorem words_of_plain {t : Text} (h : t.all isPlainInWord) (hne : t ≠ []) : words t = [t] := by
  cases t with
  | nil => exact absurd rfl hne
  | cons c cs =>
    simp only [List.all_cons, Bool.and_eq_true, isPlainInWord, Bool.not_eq_true', bne_iff_ne,
      ne_eq] at h
    obtain ⟨⟨⟨hspace, hquote⟩, hslash⟩, hcs⟩ := h
    have := @wordsFrom_inWord_of_plain (OpenWord.empty.push c) cs
      (by simpa [isPlainInWord] using hcs) (by simp [OpenWord.push])
    simpa [words, wordsFrom, wordStep, hspace, hquote, hslash, OpenWord.text, OpenWord.push,
      OpenWord.empty] using this

end TextMacros.Text
