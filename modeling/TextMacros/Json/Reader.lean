import TextMacros.Json.Basic
import TextMacros.Text.CodePoint
import TextMacros.Text.Numeral

/-!
# TextMacros.Json.Reader

Reading JSON text.

The reader walks along the text and keeps what is left of it.  A fault holds the text that is
left where it shows; `Place.of` turns that into a line, a column and a position.  Besides
standard JSON the names of the numbers that are not finite are read as values.  White space is
space, tab, line feed and carriage return.  Strings are read as code points, since an escape may
write one half of a surrogate pair without the other.
-/

namespace TextMacros.Json

/-! ## faults -/

/-- What can be wrong with a JSON text. -/
inductive Problem where
  /-- No value starts here. -/
  | expectedValue
  /-- No property name starts here. -/
  | expectedName
  /-- No colon stands behind a property name. -/
  | expectedColon
  /-- Neither a comma nor the closing bracket stands behind an item. -/
  | expectedComma
  /-- Something stands behind the value. -/
  | extraData
  /-- A string is not closed; shown at its opening quote. -/
  | unterminatedString
  /-- A control character stands in a string. -/
  | controlCharacter
  /-- A backslash is followed by no escape; shown at the backslash. -/
  | badEscape
  /-- A `\u` is not followed by four digits and something more; shown at the `u`. -/
  | badUnicodeEscape
  /-- The text starts with a byte order mark. -/
  | byteOrderMark
  deriving DecidableEq, Repr

/-- Why a text was not read. -/
inductive Fault where
  /-- The text is no JSON text; `rest` is what is left of it where that shows. -/
  | malformed (problem : Problem) (rest : Text)
  /-- A number without fraction and exponent has more digits than are read. -/
  | integerTooLong (digits : Nat)
  deriving DecidableEq, Repr

/-- The text of a problem. -/
def Problem.message : Problem → Text
  | expectedValue => .ofString "Expecting value"
  | expectedName => .ofString "Expecting property name enclosed in double quotes"
  | expectedColon => .ofString "Expecting ':' delimiter"
  | expectedComma => .ofString "Expecting ',' delimiter"
  | extraData => .ofString "Extra data"
  | unterminatedString => .ofString "Unterminated string starting at"
  | controlCharacter => .ofString "Invalid control character at"
  | badEscape => .ofString "Invalid \\escape"
  | badUnicodeEscape => .ofString "Invalid \\uXXXX escape"
  | byteOrderMark => .ofString "Unexpected UTF-8 BOM (decode using utf-8-sig)"

/-- A place in a text. -/
structure Place where
  /-- The line, from one. -/
  line : Nat
  /-- The column in its line, from one. -/
  column : Nat
  /-- The number of characters before it. -/
  position : Nat
  deriving DecidableEq, Repr

/-- The place at which `rest` is what is left of a text. -/
def Place.of (whole rest : Text) : Place :=
  let before := whole.take (whole.length - rest.length)
  ⟨before.count '\n' + 1, (before.reverse.takeWhile (· != '\n')).length + 1, before.length⟩

/-- A problem with its place in a text. -/
def Problem.report (problem : Problem) (whole rest : Text) : Text :=
  let place := Place.of whole rest
  problem.message ++ .ofString ": line " ++ .ofNat place.line ++ .ofString " column " ++
    .ofNat place.column ++ .ofString " (char " ++ .ofNat place.position ++ [')']

/-! ## white space -/

/-- Whether a character is white space between the tokens of JSON. -/
def isSpace (c : Char) : Bool := c == ' ' || c == '\t' || c == '\n' || c == '\r'

/-- The text without its leading white space. -/
def skipSpace (t : Text) : Text := t.dropWhile isSpace

/-- What follows a word, if the text starts with it. -/
def afterWord? : Text → Text → Option Text
  | [], rest => some rest
  | _ :: _, [] => none
  | w :: ws, c :: cs => if w = c then afterWord? ws cs else none

/-! ## numbers -/

/-- Cuts a text behind the decimal digits it starts with. -/
def cutDigits (t : Text) : Text × Text := (t.takeWhile Char.isDigit, t.dropWhile Char.isDigit)

/-- Cuts a text behind the digits of a number's integer part: a zero alone, or digits that start
with another one. -/
def cutInteger : Text → Text × Text
  | '0' :: rest => (['0'], rest)
  | t => cutDigits t

/-- Cuts off a fraction; a point with no digit behind it starts none. -/
def cutFraction (t : Text) : Text × Text :=
  match t with
  | '.' :: rest => if (cutDigits rest).1.isEmpty then ([], t) else cutDigits rest
  | _ => ([], t)

/-- Cuts off an exponent, if there is one with at least one digit. -/
def cutExponent? (t : Text) : Option Int × Text :=
  match t with
  | [] => (none, t)
  | e :: rest =>
    if e = 'e' || e = 'E' then
      let (sign, unsigned) := Text.cutSign rest
      let (digits, after) := cutDigits unsigned
      if digits.isEmpty then (none, t) else (some (sign * Text.ofAsciiDigits digits), after)
    else (none, t)

/-- The number that a text starts with, and what follows it. -/
def readNumber (t : Text) : Except Fault (Json CodeText × Text) :=
  let negative := t.head? == some '-'
  let sign : Int := if negative then -1 else 1
  let (whole, afterWhole) := cutInteger (if negative then t.tail else t)
  if whole.isEmpty then .error (.malformed .expectedValue t)
  else
    let (fraction, afterFraction) := cutFraction afterWhole
    let (exponent?, after) := cutExponent? afterFraction
    if fraction.isEmpty && exponent?.isNone then
      if whole.length > Text.maxDigits then .error (.integerTooLong whole.length)
      else .ok (int (sign * Text.ofAsciiDigits whole), after)
    else
      let mantissa := sign * Text.ofAsciiDigits (whole ++ fraction)
      .ok (real mantissa (exponent?.getD 0 - fraction.length), after)

/-! ## strings -/

/-- The value of a hexadecimal digit. -/
def hexValue? (c : Char) : Option Nat :=
  if c.isDigit then some (c.toNat - '0'.toNat)
  else if 'a' ≤ c && c ≤ 'f' then some (c.toNat - 'a'.toNat + 10)
  else if 'A' ≤ c && c ≤ 'F' then some (c.toNat - 'A'.toNat + 10)
  else none

/-- The number that the first four characters of a text write in hexadecimal, and what follows. -/
def hexQuad? : Text → Option (Nat × Text)
  | a :: b :: c :: d :: rest => do
    let a ← hexValue? a
    let b ← hexValue? b
    let c ← hexValue? c
    let d ← hexValue? d
    some (((a * 16 + b) * 16 + c) * 16 + d, rest)
  | _ => none

/-- Whether a number is the first half of a surrogate pair. -/
def isHighSurrogate (n : Nat) : Bool := 0xd800 ≤ n && n < 0xdc00

/-- Whether a number is the second half of a surrogate pair. -/
def isLowSurrogate (n : Nat) : Bool := 0xdc00 ≤ n && n < 0xe000

/-- The code point that the halves of a surrogate pair stand for together. -/
def pairOf (high low : Nat) : CodePoint :=
  .ofNat (0x10000 + (high - 0xd800) * 0x400 + (low - 0xdc00))

/-- Reads the digits of a `\u` escape, behind the `u`.  The text must not end with them. -/
def readUnicodeDigits (t : Text) : Except Fault (Nat × Text) :=
  match t.drop 4, hexQuad? t with
  | _ :: _, some found => .ok found
  | _, _ => .error (.malformed .badUnicodeEscape ('u' :: t))

/-- Reads a `\u` escape behind the `u`.  The first half of a surrogate pair takes the second half
with it if that follows as an escape of its own. -/
def readUnicodeEscape (t : Text) : Except Fault (CodePoint × Text) := do
  let (n, rest) ← readUnicodeDigits t
  if isHighSurrogate n then
    match rest, rest.drop 6 with
    | '\\' :: 'u' :: second, _ :: _ =>
      let (m, after) ← readUnicodeDigits second
      if isLowSurrogate m then .ok (pairOf n m, after) else .ok (.ofNat n, rest)
    | _, _ => .ok (.ofNat n, rest)
  else .ok (.ofNat n, rest)

/-- The character that a backslash and a letter or sign stand for. -/
def escaped? (c : Char) : Option Char :=
  if c = '"' || c = '\\' || c = '/' then some c
  else if c = 'b' then some '\x08'
  else if c = 'f' then some '\x0c'
  else if c = 'n' then some '\n'
  else if c = 'r' then some '\r'
  else if c = 't' then some '\t'
  else none

/-- Reads the characters of a string up to its closing quote.  `opening` is the text from the
opening quote on, `read` the code points read so far, last first. -/
def readChars (opening : Text) :
    (fuel : Nat) → (read : CodeText) → Text → Except Fault (CodeText × Text)
  | 0, _, _ => .error (.malformed .unterminatedString opening)
  | fuel + 1, read, t =>
    match t with
    | [] => .error (.malformed .unterminatedString opening)
    | '"' :: rest => .ok (read.reverse, rest)
    | ['\\'] => .error (.malformed .unterminatedString opening)
    | '\\' :: 'u' :: rest => do
      let (p, rest) ← readUnicodeEscape rest
      readChars opening fuel (p :: read) rest
    | '\\' :: c :: rest =>
      match escaped? c with
      | some d => readChars opening fuel (.ofChar d :: read) rest
      | none => .error (.malformed .badEscape t)
    | c :: rest =>
      if c.toNat < 0x20 then .error (.malformed .controlCharacter t)
      else readChars opening fuel (.ofChar c :: read) rest

/-- Reads a string behind its opening quote. -/
def readString (t : Text) : Except Fault (CodeText × Text) :=
  readChars ('"' :: t) (t.length + 1) [] t

/-! ## values -/

/-- The values that are words, with their words. -/
def words : List (Text × Json CodeText) :=
  [(.ofString "null", null), (.ofString "true", bool true), (.ofString "false", bool false),
    (.ofString "NaN", notFinite), (.ofString "Infinity", notFinite),
    (.ofString "-Infinity", notFinite)]

/-- Reads the word that a text starts with, or else a number. -/
def readWord (t : Text) : Except Fault (Json CodeText × Text) :=
  match words.findSome? fun w => (afterWord? w.1 t).map (w.2, ·) with
  | some found => .ok found
  | none => readNumber t

mutual

/-- Reads a value at the front of a text. -/
def readValue : (fuel : Nat) → Text → Except Fault (Json CodeText × Text)
  | 0, t => .error (.malformed .expectedValue t)
  | fuel + 1, t =>
    match t with
    | '"' :: rest => (readString rest).map fun r => (text r.1, r.2)
    | '{' :: rest =>
      match skipSpace rest with
      | '}' :: rest => .ok (object [], rest)
      | rest => readMembers fuel [] rest
    | '[' :: rest =>
      match skipSpace rest with
      | ']' :: rest => .ok (list [], rest)
      | rest => readItems fuel [] rest
    | t => readWord t

/-- Reads the items of an array from the next one on; `read` are those read, last first. -/
def readItems :
    (fuel : Nat) → (read : List (Json CodeText)) → Text → Except Fault (Json CodeText × Text)
  | 0, _, t => .error (.malformed .expectedValue t)
  | fuel + 1, read, t => do
    let (item, rest) ← readValue fuel t
    match skipSpace rest with
    | ']' :: rest => .ok (list (item :: read).reverse, rest)
    | ',' :: rest => readItems fuel (item :: read) (skipSpace rest)
    | rest => .error (.malformed .expectedComma rest)

/-- Reads the members of an object from the next one on; `read` are those read, last first. -/
def readMembers : (fuel : Nat) → (read : List (CodeText × Json CodeText)) → Text →
    Except Fault (Json CodeText × Text)
  | 0, _, t => .error (.malformed .expectedName t)
  | fuel + 1, read, t =>
    match t with
    | '"' :: rest => do
      let (name, rest) ← readString rest
      match skipSpace rest with
      | ':' :: rest =>
        let (value, rest) ← readValue fuel (skipSpace rest)
        match skipSpace rest with
        | '}' :: rest => .ok (object ((name, value) :: read).reverse, rest)
        | ',' :: rest => readMembers fuel ((name, value) :: read) (skipSpace rest)
        | rest => .error (.malformed .expectedComma rest)
      | rest => .error (.malformed .expectedColon rest)
    | t => .error (.malformed .expectedName t)

end

/-- Reads a JSON text: one value, with white space around it.  Going into an array or object takes
two units of fuel and at least one character, so twice the length is enough. -/
def read (t : Text) : Except Fault (Json CodeText) :=
  if t.head? == some '\ufeff' then .error (.malformed .byteOrderMark t)
  else do
    let start := skipSpace t
    let (value, rest) ← readValue (2 * start.length + 2) start
    match skipSpace rest with
    | [] => .ok value
    | rest => .error (.malformed .extraData rest)

end TextMacros.Json
