import TextMacros.Text.Blank
import TextMacros.Text.Quoted

/-!
# TextMacros.Text.Numeral

Reading numbers from their digits.

The digits may be the ASCII ones or the decimal digits of any script, and single underscores may
stand between them.  Main statement: `ofDigits_append`, by which a digit more gives ten times the
number and the digit.
-/

namespace TextMacros.Text

/-! ## digits -/

/-- The value of an ASCII digit. -/
def asciiDigit? (c : Char) : Option Nat := if c.isDigit then some (c.toNat - 0x30) else none

/-- The code points of the zeros of the scripts; the other digits of a script follow its zero. -/
def zeros : List Nat :=
  [0x30, 0x660, 0x6f0, 0x7c0, 0x966, 0x9e6, 0xa66, 0xae6, 0xb66, 0xbe6, 0xc66, 0xce6, 0xd66,
    0xde6, 0xe50, 0xed0, 0xf20, 0x1040, 0x1090, 0x17e0, 0x1810, 0x1946, 0x19d0, 0x1a80, 0x1a90,
    0x1b50, 0x1bb0, 0x1c40, 0x1c50, 0xa620, 0xa8d0, 0xa900, 0xa9d0, 0xa9f0, 0xaa50, 0xabf0, 0xff10,
    0x104a0, 0x10d30, 0x11066, 0x110f0, 0x11136, 0x111d0, 0x112f0, 0x11450, 0x114d0, 0x11650,
    0x116c0, 0x11730, 0x118e0, 0x11950, 0x11c50, 0x11d50, 0x11da0, 0x16a60, 0x16ac0, 0x16b50,
    0x1d7ce, 0x1d7d8, 0x1d7e2, 0x1d7ec, 0x1d7f6, 0x1e140, 0x1e2f0, 0x1e950, 0x1fbf0]

/-- The value of a decimal digit of any script. -/
def decimalDigit? (c : Char) : Option Nat :=
  (zeros.find? fun z => z ≤ c.toNat && c.toNat ≤ z + 9).map (c.toNat - ·)

/-- The number that digits write, the first being worth most. -/
def ofDigits (digits : List Nat) : Nat := digits.foldl (fun n d => 10 * n + d) 0

theorem ofDigits_append (digits : List Nat) (d : Nat) :
    ofDigits (digits ++ [d]) = 10 * ofDigits digits + d := by
  simp [ofDigits]

/-- The number that a text of ASCII digits writes. -/
def ofAsciiDigits (t : Text) : Nat := ofDigits (t.filterMap asciiDigit?)

/-! ## integers -/

/-- The digits of a text that holds nothing but digits, with at most a single underscore between
two of them. -/
def groupedDigits? (digit? : Char → Option Nat) : Text → Option (List Nat)
  | [] => none
  | [c] => (digit? c).map ([·])
  | c :: d :: rest =>
    if d = '_' then (digit? c).bind fun n => (groupedDigits? digit? rest).map (n :: ·)
    else (digit? c).bind fun n => (groupedDigits? digit? (d :: rest)).map (n :: ·)

/-- The sign of a text, and the text behind it. -/
def cutSign : Text → Int × Text
  | '-' :: rest => (-1, rest)
  | '+' :: rest => (1, rest)
  | t => (1, t)

/-- The greatest number of digits that an integer is read from. -/
def maxDigits : Nat := 4300

/-- Why a text was not read as an integer. -/
inductive NumeralFault where
  /-- The text writes no integer. -/
  | noInteger (written : Text)
  /-- There are so many digits, which are more than are read. -/
  | tooLong (digits : Nat)
  deriving DecidableEq, Repr

/-- The text of a fault. -/
def NumeralFault.message : NumeralFault → Text
  | noInteger written =>
    .ofString "invalid literal for int() with base 10: " ++ written.quoted
  | tooLong digits =>
    .ofString "Exceeds the limit (" ++ .ofNat maxDigits ++
      .ofString " digits) for integer string conversion: value has " ++ .ofNat digits ++
      .ofString " digits; use sys.set_int_max_str_digits() to increase the limit"

/-- Reads the integer that a text writes: a sign or none, then digits, with white space around. -/
def readInteger (t : Text) : Except NumeralFault Int :=
  let (sign, unsigned) := cutSign (t.trimClass isWhiteSpace)
  match groupedDigits? decimalDigit? unsigned with
  | none => .error (.noInteger t)
  | some digits =>
    if digits.length > maxDigits then .error (.tooLong digits.length)
    else .ok (sign * ofDigits digits)

end TextMacros.Text
