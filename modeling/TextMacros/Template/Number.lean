import TextMacros.Template.Layout

/-!
# TextMacros.Template.Number

How an integer is laid out.

By its code an integer is written in base two, eight, ten or sixteen, as the character with its
code point, or as a number with a fraction, an exponent or a percent sign.  Main statement:
`le_length_grouped`, by which the digits of a number fill the width that they are to fill.
-/

namespace TextMacros.Template

/-! ## groups of digits -/

/-- The number of digits that are needed to fill a width with the separators between groups. -/
def digitsFor (group width : Nat) : Nat := width - (width - 1) / (group + 1)

/-- Digits, the last first, with a separator between groups; so many are left of a group. -/
def separated (separator : Char) (group : Nat) : Nat → Text → Text
  | _, [] => []
  | 0, c :: cs => separator :: c :: separated separator group (group - 1) cs
  | left + 1, c :: cs => c :: separated separator group left cs

/-- Digits with zeros before them up to a width, in groups if there is a separator. -/
def grouped (separator? : Option Char) (group width : Nat) (digits : Text) : Text :=
  match separator? with
  | none => List.replicate (width - digits.length) '0' ++ digits
  | some separator =>
    let zeros := List.replicate (digitsFor group width - digits.length) '0'
    (separated separator group group (zeros ++ digits).reverse).reverse

theorem length_separated (separator : Char) {group left : Nat} {digits : Text}
    (hgroup : 0 < group) (hleft : left ≤ group) (hempty : 0 < digits.length) :
    (separated separator group left digits).length =
      digits.length + (digits.length - 1 + (group - left)) / group := by
  induction digits generalizing left with
  | nil => simp at hempty
  | cons c cs ih =>
    have hsplit (n : Nat) : (n + group) / group = n / group + 1 := Nat.add_div_right n hgroup
    cases hcs : cs with
    | nil =>
      cases left with
      | zero => simp [separated, Nat.div_self hgroup]
      | succ left =>
        have : (group - (left + 1)) / group = 0 := Nat.div_eq_of_lt (by omega)
        simp [separated, this]
    | cons d ds =>
      rw [← hcs]
      have hlength : cs.length = ds.length + 1 := by simp [hcs]
      cases left with
      | zero =>
        have h := @ih (group - 1) (by omega) (by omega)
        have heq : cs.length - 1 + (group - (group - 1)) = cs.length := by omega
        have hsum : cs.length + 1 - 1 + (group - 0) = cs.length + group := by omega
        simp only [separated, List.length_cons, h, heq, hsum, hsplit]
        omega
      | succ left =>
        have h := @ih left (by omega) (by omega)
        have heq : cs.length - 1 + (group - left) =
            cs.length + 1 - 1 + (group - (left + 1)) := by omega
        simp only [separated, List.length_cons, h, heq]
        omega

theorem le_digitsFor {group : Nat} (hgroup : 0 < group) {width n : Nat} (hn : 0 < n)
    (h : digitsFor group width ≤ n) : width ≤ n + (n - 1) / group := by
  unfold digitsFor at h
  have hmul := Nat.div_mul_le_self (width - 1) (group + 1)
  generalize (width - 1) / (group + 1) = separators at h hmul
  have hle : separators ≤ (n - 1) / group := by
    rw [Nat.le_div_iff_mul_le hgroup]
    rw [Nat.mul_succ] at hmul
    omega
  omega

theorem le_length_grouped (separator? : Option Char) {group width : Nat} {digits : Text}
    (hgroup : 0 < group) (hdigits : 0 < digits.length) :
    width ≤ (grouped separator? group width digits).length := by
  unfold grouped
  split
  · simp only [List.length_append, List.length_replicate]; omega
  · rename_i separator
    simp only [List.length_reverse]
    rw [length_separated separator hgroup (Nat.le_refl group) (by simp; omega)]
    simp only [List.length_reverse, List.length_append, List.length_replicate, Nat.sub_self,
      Nat.add_zero]
    exact le_digitsFor hgroup (by omega) (by omega)

/-! ## digits -/

/-- The greatest number that is not too great for a fraction. -/
def maxMagnitude : Nat := ((1 <<< 53) - 1) <<< 971

/-- The nearest number with at most 53 binary digits before zeros; of two as near, the one whose
last such digit is even. -/
def roundedBinary (n : Nat) : Nat :=
  let unit := 1 <<< (n.log2 + 1 - 53)
  let quotient := n / unit
  let rest := 2 * (n % unit)
  (if rest > unit || (rest = unit && quotient % 2 = 1) then quotient + 1 else quotient) * unit

/-- The digits of a number rounded to so many, and the exponent of its first digit; of two as
near, the one whose last digit is even is taken. -/
def roundedDecimal (count n : Nat) : Text × Nat :=
  let digits := Nat.toDigits 10 n
  if digits.length ≤ count then (digits ++ List.replicate (count - digits.length) '0',
    digits.length - 1)
  else
    let unit := Nat.pow 10 (digits.length - count)
    let quotient := n / unit
    let rest := 2 * (n % unit)
    let rounded := Nat.toDigits 10
      (if rest > unit || (rest = unit && quotient % 2 = 1) then quotient + 1 else quotient)
    (rounded.take count, digits.length - 1 + (rounded.length - count))

/-- A number written in parts: what stands before its digits, the digits before a point, and
what stands behind them. -/
structure NumberParts where
  /-- What stands before the digits. -/
  front : Text
  /-- The digits. -/
  digits : Text
  /-- What stands behind the digits. -/
  tail : Text

/-- A point and what stands behind it; without anything behind it, the point stands only if it is
asked for. -/
def fraction (alternate : Bool) (digits : Text) : Text :=
  if digits.isEmpty && !alternate then [] else '.' :: digits

/-- An exponent with its sign and at least two digits. -/
def exponentText (mark : Char) (exponent : Nat) : Text :=
  mark :: '+' :: grouped none 1 2 (Nat.toDigits 10 exponent)

/-- A number with an exponent, the digits given. -/
def withExponent (alternate : Bool) (mark : Char) (digits : Text) (exponent : Nat) : NumberParts :=
  ⟨[], digits.take 1, fraction alternate digits.tail ++ exponentText mark exponent⟩

/-- The precision of fractions when none is given. -/
def standardPrecision : Nat := 6

/-- Digits without the zeros at the end. -/
def withoutLastZeros (digits : Text) : Text := (digits.reverse.dropWhile (· = '0')).reverse

/-- A number written as a fraction by its code, which is one of `eEfFgG%`. -/
def fractionParts (l : Layout) (n : Nat) : NumberParts :=
  let precision := l.precision?.getD standardPrecision
  let mark := if l.code.isUpper then 'E' else 'e'
  let fixed (n : Nat) (tail : Text) : NumberParts :=
    ⟨[], Nat.toDigits 10 n, fraction l.alternate (List.replicate precision '0') ++ tail⟩
  match l.code with
  | 'e' | 'E' =>
    let (digits, exponent) := roundedDecimal (precision + 1) n
    withExponent l.alternate mark digits exponent
  | 'g' | 'G' =>
    let count := max precision 1
    let (digits, exponent) := roundedDecimal count n
    let kept (behind : Text) : Text := if l.alternate then behind else withoutLastZeros behind
    if exponent < count then
      ⟨[], digits.take (exponent + 1), fraction l.alternate (kept (digits.drop (exponent + 1)))⟩
    else withExponent l.alternate mark (digits.take 1 ++ kept digits.tail) exponent
  | '%' => fixed (roundedBinary (100 * n)) ['%']
  | _ => fixed n []

/-- A number in a base, with the mark of the base before it in the alternate form. -/
def integerParts (l : Layout) (n : Nat) : NumberParts :=
  let marked (mark : Char) (digits : Text) : NumberParts :=
    ⟨if l.alternate then ['0', mark] else [], digits, []⟩
  match l.code with
  | 'b' => marked 'b' (Nat.toDigits 2 n)
  | 'o' => marked 'o' (Nat.toDigits 8 n)
  | 'x' => marked 'x' (Nat.toDigits 16 n)
  | 'X' => marked 'X' ((Nat.toDigits 16 n).map Char.toUpper)
  | _ => ⟨[], Nat.toDigits 10 n, []⟩

/-! ## laying out -/

/-- Puts a text into a width; what stands in front of it goes to the left of a fill that sets it
apart. -/
def place (l : Layout) (front body : Text) : Text :=
  let count := l.width?.getD 0 - (front.length + body.length)
  let fills (n : Nat) : Text := List.replicate n l.fill
  match l.alignment with
  | .left => front ++ body ++ fills count
  | .right => fills count ++ front ++ body
  | .centre => fills (count / 2) ++ front ++ body ++ fills (count - count / 2)
  | .apart => front ++ fills count ++ body

/-- Lays out the parts of a number. -/
def placeNumber (l : Layout) (negative : Bool) (parts : NumberParts) : Text :=
  let sign : Text := if negative then ['-'] else match l.sign? with
    | some .plus => ['+']
    | some .space => [' ']
    | _ => []
  let front := sign ++ parts.front
  let group := if (Text.ofString "boxX").contains l.code then 4 else 3
  let width := if l.fill = '0' && l.alignment = .apart then
    l.width?.getD 0 - (front.length + parts.tail.length) else 0
  place l front (grouped l.separator? group width parts.digits ++ parts.tail)

/-- The greatest precision. -/
def maxPrecision : Nat := 0x7fffffff

/-- The character that an integer is the code point of, laid out. -/
def placeCharacter (l : Layout) (n : Int) : Except LayoutFault Text :=
  if l.sign?.isSome then
    .error (.notAllowed "Sign not allowed with integer format specifier 'c'")
  else if l.alternate then
    .error (.notAllowed "Alternate form (#) not allowed with integer format specifier 'c'")
  else if n < -0x8000000000000000 || n ≥ 0x8000000000000000 then
    .error (.notAllowed "Python int too large to convert to C long")
  else if n < 0 || n > 0x10ffff then .error (.notAllowed "%c arg not in range(0x110000)")
  else .ok (place l [] [Char.ofNat n.toNat])

/-- Lays out an integer of a kind. -/
def placeInteger (kind : Text) (l : Layout) (n : Int) : Except LayoutFault Text :=
  if (Text.ofString "bcdoxXn").contains l.code then
    if l.precision?.isSome then
      .error (.notAllowed "Precision not allowed in integer format specifier")
    else if l.unsignedZero then
      .error (.notAllowed "Negative zero coercion (z) not allowed in integer format specifier")
    else if l.code = 'c' then placeCharacter l n
    else .ok (placeNumber l (n < 0) (integerParts l n.natAbs))
  else if (Text.ofString "eEfFgG%").contains l.code then
    let magnitude := roundedBinary n.natAbs
    if magnitude > maxMagnitude then .error (.notAllowed "int too large to convert to float")
    else if l.precision?.any (· > maxPrecision) then .error (.notAllowed "precision too big")
    else .ok (placeNumber l (n < 0) (fractionParts l magnitude))
  else .error (.unknownCode l.code kind)

end TextMacros.Template
