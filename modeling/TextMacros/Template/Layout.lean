import TextMacros.Text.Numeral

/-!
# TextMacros.Template.Layout

How a value is laid out where it is filled in.

A layout is written as follows, and each part may be missing.

```
[[fill] < > ^ =] [+ - space] [z] [#] [0] [width] [, _] [.precision] [code]
```

Which parts a value can do with depends on the value; `Layout.read` takes what is the same for
all.  Main statement: `read_nil`, by which nothing written leaves everything to the value.
-/

namespace TextMacros.Template

/-! ## parts -/

/-- Where a value stands in a width that it does not take up. -/
inductive Alignment where
  /-- On the left. -/
  | left
  /-- On the right. -/
  | right
  /-- In the middle. -/
  | centre
  /-- On the right, with its sign on the left. -/
  | apart
  deriving DecidableEq, Repr

/-- The alignment of a mark. -/
def Alignment.ofMark? : Char → Option Alignment
  | '<' => some left
  | '>' => some right
  | '^' => some centre
  | '=' => some apart
  | _ => none

/-- What stands before a number that is not negative. -/
inductive SignUse where
  /-- Nothing. -/
  | none
  /-- A plus. -/
  | plus
  /-- A space. -/
  | space
  deriving DecidableEq, Repr

/-- The use of signs of a mark. -/
def SignUse.ofMark? : Char → Option SignUse
  | '-' => some none
  | '+' => some plus
  | ' ' => some space
  | _ => Option.none

/-- A layout. -/
structure Layout where
  /-- What fills the width. -/
  fill : Char
  /-- Where the value stands. -/
  alignment : Alignment
  /-- What stands before numbers that are not negative, if it was said. -/
  sign? : Option SignUse
  /-- Whether zero loses its sign. -/
  unsignedZero : Bool
  /-- Whether the alternate form is asked for. -/
  alternate : Bool
  /-- The least width. -/
  width? : Option Nat
  /-- What stands between groups of digits. -/
  separator? : Option Char
  /-- The precision. -/
  precision? : Option Nat
  /-- How the value is written. -/
  code : Char
  deriving DecidableEq, Repr

/-- What a layout is of a kind of values when nothing is said. -/
structure LayoutStandard where
  /-- The name of the kind. -/
  kind : Text
  /-- Where values stand. -/
  alignment : Alignment
  /-- How values are written. -/
  code : Char

/-! ## faults -/

/-- What is wrong with a layout. -/
inductive LayoutFault where
  /-- A number has too many digits. -/
  | tooManyDigits
  /-- There are two separators. -/
  | twoSeparators
  /-- A point stands without a precision. -/
  | noPrecision
  /-- More follows than a code. -/
  | surplus (written kind : Text)
  /-- The separator does not go with the code. -/
  | badSeparator (separator code : Char)
  /-- The code is not one of the kind. -/
  | unknownCode (code : Char) (kind : Text)
  /-- Something is not allowed with values of the kind. -/
  | notAllowed (message : String)
  /-- Values of the kind have no layout. -/
  | noLayout (kind : Text)
  /-- The width is so great that no text has it. -/
  | tooWide
  deriving DecidableEq, Repr

/-- A code as it is shown: itself, or its code point if it is not a visible ASCII character. -/
def shownCode (c : Char) : Text :=
  if 0x20 < c.toNat && c.toNat < 0x80 then [c] else '\\' :: 'x' :: Nat.toDigits 16 c.toNat

/-- The text of a fault. -/
def LayoutFault.message : LayoutFault → Text
  | tooManyDigits => .ofString "Too many decimal digits in format string"
  | twoSeparators => .ofString "Cannot specify both ',' and '_'."
  | noPrecision => .ofString "Format specifier missing precision"
  | surplus written kind =>
    .ofString "Invalid format specifier '" ++ written ++ .ofString "' for object of type '" ++
      kind ++ ['\'']
  | badSeparator separator code =>
    .ofString "Cannot specify '" ++ [separator] ++ .ofString "' with '" ++ shownCode code ++
      .ofString "'."
  | unknownCode code kind =>
    .ofString "Unknown format code '" ++ shownCode code ++ .ofString "' for object of type '" ++
      kind ++ ['\'']
  | notAllowed message => .ofString message
  | noLayout kind =>
    .ofString "unsupported format string passed to " ++ kind ++ .ofString ".__format__"
  | tooWide => []

/-! ## reading -/

/-- The greatest number that is read in a template. -/
def maxNumber : Nat := 0x7fffffffffffffff

/-- The number that a text starts with, if it starts with one, and the text behind it. -/
def cutNumber (t : Text) : Except LayoutFault (Option Nat × Text) :=
  let isDigit (c : Char) : Bool := (Text.decimalDigit? c).isSome
  let digits := (t.takeWhile isDigit).filterMap Text.decimalDigit?
  if Text.ofDigits digits > maxNumber then .error .tooManyDigits
  else .ok (if digits.isEmpty then none else some (Text.ofDigits digits), t.dropWhile isDigit)

/-- The fill and the alignment that a text starts with, and the text behind them. -/
def cutAlignment : Text → Option Char × Option Alignment × Text
  | [] => (none, none, [])
  | c :: cs =>
    match cs.head?.bind Alignment.ofMark?, Alignment.ofMark? c with
    | some a, _ => (some c, some a, cs.tail)
    | none, some a => (none, some a, cs)
    | none, none => (none, none, c :: cs)

/-- The use of signs that a text starts with, and the text behind it. -/
def cutSignUse : Text → Option SignUse × Text
  | [] => (none, [])
  | c :: cs => match SignUse.ofMark? c with
    | some s => (some s, cs)
    | none => (none, c :: cs)

/-- Whether a text starts with a mark, and the text behind it. -/
def cutMark (mark : Char) : Text → Bool × Text
  | [] => (false, [])
  | c :: cs => if c = mark then (true, cs) else (false, c :: cs)

/-- The separator that a text starts with, and the text behind it. -/
def cutSeparator : Text → Except LayoutFault (Option Char × Text)
  | ',' :: '_' :: _ | '_' :: ',' :: _ => .error .twoSeparators
  | ',' :: rest => .ok (some ',', rest)
  | '_' :: rest => .ok (some '_', rest)
  | rest => .ok (none, rest)

/-- The precision that a text starts with, and the text behind it. -/
def cutPrecision : Text → Except LayoutFault (Option Nat × Text)
  | '.' :: rest =>
    match cutNumber rest with
    | .ok (none, _) => .error .noPrecision
    | result => result
  | rest => .ok (none, rest)

/-- Whether a separator goes with a code. -/
def separatorFits (separator code : Char) : Bool :=
  (Text.ofString "deEfFgG%").contains code ||
    separator = '_' && (Text.ofString "boxX").contains code

namespace Layout

/-- Reads a layout of values of a kind. -/
def read (standard : LayoutStandard) (written : Text) : Except LayoutFault Layout := do
  let (fill?, alignment?, rest) := cutAlignment written
  let (sign?, rest) := cutSignUse rest
  let (unsignedZero, rest) := cutMark 'z' rest
  let (alternate, rest) := cutMark '#' rest
  let (zeros, rest) := if fill?.isSome then (false, rest) else cutMark '0' rest
  let (width?, rest) ← cutNumber rest
  let (separator?, rest) ← cutSeparator rest
  let (precision?, rest) ← cutPrecision rest
  let code ← match rest with
    | [] => .ok standard.code
    | [c] => .ok c
    | _ => .error (.surplus written standard.kind)
  match separator? with
  | some separator => unless separatorFits separator code do throw (.badSeparator separator code)
  | none => pure ()
  return {
    fill := fill?.getD (if zeros then '0' else ' ')
    alignment := alignment?.getD
      (if zeros && standard.alignment = .right then .apart else standard.alignment)
    sign?, unsignedZero, alternate, width?, separator?, precision?, code }

theorem read_nil (standard : LayoutStandard) :
    read standard [] = .ok ⟨' ', standard.alignment, none, false, false, none, none, none,
      standard.code⟩ := by
  simp [read, cutAlignment, cutSignUse, cutMark, cutNumber, cutSeparator, cutPrecision, bind,
    Except.bind, pure, Except.pure, Text.ofDigits]

end Layout

end TextMacros.Template
