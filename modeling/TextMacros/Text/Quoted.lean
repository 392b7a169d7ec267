import TextMacros.Text.Printable

/-!
# TextMacros.Text.Quoted

Texts between quotes, with what would not show written as escapes.

The quotes are single, unless the text holds single quotes and no double ones.  The backslash,
the quote in use, line feed, carriage return and tab are escaped by a backslash; of the other
characters those that are not printable are written by their code point, with two, four or eight
lower-case hexadecimal digits.
-/

namespace TextMacros.Text

/-- The lowest `width` hexadecimal digits of a number. -/
def hexDigits : Nat → Nat → Text
  | 0, _ => []
  | width + 1, n => hexDigits width (n / 16) ++ [Nat.digitChar (n % 16)]

@[simp] theorem length_hexDigits (width n : Nat) : (hexDigits width n).length = width := by
  induction width generalizing n with
  | zero => rfl
  | succ w ih => simp [hexDigits, ih]

/-- The quote to put a text in. -/
def quoteFor (t : Text) : Char := if t.contains '\'' && !t.contains '"' then '"' else '\''

/-- A character written by its code point, in as few digits as there may be. -/
def codeEscape (c : Char) : Text :=
  if c.toNat < 0x100 then '\\' :: 'x' :: hexDigits 2 c.toNat
  else if c.toNat < 0x10000 then '\\' :: 'u' :: hexDigits 4 c.toNat
  else '\\' :: 'U' :: hexDigits 8 c.toNat

/-- A character as it is written between the quotes. -/
def quotedChar (quote c : Char) : Text :=
  if c = quote || c = '\\' then ['\\', c]
  else if c = '\n' then ['\\', 'n']
  else if c = '\r' then ['\\', 'r']
  else if c = '\t' then ['\\', 't']
  else if isPrintable c then [c]
  else codeEscape c

/-- The text between quotes. -/
def quoted (t : Text) : Text :=
  let quote := quoteFor t
  quote :: t.flatMap (quotedChar quote) ++ [quote]

/-- Two short texts: the quotes depend on the quotes in the text. -/
example : quoted ['a'] = ['\'', 'a', '\''] ∧ quoted ['\''] = ['"', '\'', '"'] := by decide

end TextMacros.Text
