import TextMacros.Json.Basic
import TextMacros.Template.Number

/-!
# TextMacros.Template.Value

The values that fill a template: their parts, their texts and their layout.

A value may be converted to text before it is laid out.  Main statement: `laidOut_nil`, by which a
value without a layout is its own text.
-/

namespace TextMacros.Template

/-! ## kinds -/

/-- The name of the kind of a value. -/
def kindOf : Json → Text
  | .null => .ofString "NoneType"
  | .bool _ => .ofString "bool"
  | .int _ => .ofString "int"
  | .real _ _ | .notFinite => .ofString "float"
  | .text _ => .ofString "str"
  | .list _ => .ofString "list"
  | .object _ => .ofString "dict"

/-! ## parts -/

/-- A step from a value to a part of it. -/
inductive PartStep where
  /-- To the part of a name. -/
  | name (name : Text)
  /-- To the item at an index. -/
  | index (index : Nat)
  /-- To the item of a key. -/
  | key (key : Text)
  deriving DecidableEq, Repr

/-- Why a value has no such part. -/
inductive PartFault where
  /-- Values of the kind have no part of the name. -/
  | noName (kind name : Text)
  /-- There is no item at the index. -/
  | noIndex (kind : String)
  /-- Texts and lists have no keys. -/
  | noKeys (message : String)
  /-- Values of the kind have no items. -/
  | noItems (kind : Text)
  /-- There is no item of the key, shown here. -/
  | noKey (shown : Text)
  deriving DecidableEq, Repr

/-- The text of a fault. -/
def PartFault.message : PartFault → Text
  | noName kind name =>
    '\'' :: kind ++ .ofString "' object has no attribute '" ++ name ++ ['\'']
  | noIndex kind => .ofString kind ++ .ofString " index out of range"
  | noKeys message => .ofString message
  | noItems kind => '\'' :: kind ++ .ofString "' object is not subscriptable"
  | noKey shown => shown

/-- The item of a value at an index. -/
def itemAt (value : Json) (index : Nat) : Except PartFault Json :=
  match value with
  | .text t => match t[index]? with
    | some c => .ok (.text [c])
    | none => .error (.noIndex "string")
  | .list items => match items[index]? with
    | some item => .ok item
    | none => .error (.noIndex "list")
  | .object _ => .error (.noKey (.ofNat index))
  | _ => .error (.noItems (kindOf value))

/-- The item of a value of a key. -/
def itemOf (value : Json) (key : Text) : Except PartFault Json :=
  match value with
  | .text _ => .error (.noKeys "string indices must be integers, not 'str'")
  | .list _ => .error (.noKeys "list indices must be integers or slices, not str")
  | .object members => match members.reverse.lookup key with
    | some item => .ok item
    | none => .error (.noKey key.quoted)
  | _ => .error (.noItems (kindOf value))

/-- The part of a value to which a step leads. -/
def part (value : Json) : PartStep → Except PartFault Json
  | .name name => .error (.noName (kindOf value) name)
  | .index index => itemAt value index
  | .key key => itemOf value key

/-! ## texts -/

/-- The text of a value: a text itself, and any other value written out. -/
def textOf : Json → Text
  | .text t => t
  | value => value.describe

/-- A text with the characters that are not ASCII written by their code points. -/
def inAscii (t : Text) : Text := t.flatMap fun c => if c.toNat < 0x80 then [c] else Text.codeEscape c

/-- How a value is made a text before it is laid out. -/
inductive Conversion where
  /-- By its text. -/
  | text
  /-- Written out with quotes. -/
  | quoted
  /-- Written out with quotes, in ASCII. -/
  | ascii
  deriving DecidableEq, Repr

/-- The conversion of a mark. -/
def Conversion.ofMark? : Char → Option Conversion
  | 's' => some text
  | 'r' => some quoted
  | 'a' => some ascii
  | _ => none

/-- The text that a conversion makes of a value. -/
def Conversion.apply (value : Json) : Conversion → Text
  | text => textOf value
  | quoted => value.describe
  | ascii => inAscii value.describe

/-! ## layout -/

/-- What a layout of texts is when nothing is said. -/
def textStandard : LayoutStandard := ⟨kindOf (.text []), .left, 's'⟩

/-- The greatest width that a value is laid out in. -/
def maxWidth : Nat := 0x1000000000

/-- Lays out a text; a precision is the greatest number of characters. -/
def placeText (l : Layout) (t : Text) : Except LayoutFault Text :=
  if l.code ≠ 's' then .error (.unknownCode l.code textStandard.kind)
  else if l.sign? = some .space then
    .error (.notAllowed "Space not allowed in string format specifier")
  else if l.sign?.isSome then .error (.notAllowed "Sign not allowed in string format specifier")
  else if l.unsignedZero then
    .error (.notAllowed "Negative zero coercion (z) not allowed in string format specifier")
  else if l.alternate then
    .error (.notAllowed "Alternate form (#) not allowed in string format specifier")
  else if l.alignment = .apart then
    .error (.notAllowed "'=' alignment not allowed in string format specifier")
  else .ok (place l [] (t.take (l.precision?.getD t.length)))

/-- A value laid out as it is written. -/
def laidOut (value : Json) (written : Text) : Except LayoutFault Text :=
  if written.isEmpty then .ok (textOf value)
  else
    let ofLayout (standard : LayoutStandard) (lay : Layout → Except LayoutFault Text) :=
      match Layout.read standard written with
      | .error fault => .error fault
      | .ok l =>
        if l.width?.any (· > maxWidth) then
          (lay { l with width? := none }).bind fun _ => .error .tooWide
        else lay l
    let number (n : Int) := ofLayout ⟨kindOf value, .right, 'd'⟩ (placeInteger (kindOf value) · n)
    match value with
    | .text t => ofLayout textStandard (placeText · t)
    | .int n => number n
    | .bool b => number (if b then 1 else 0)
    | _ => .error (.noLayout (kindOf value))

theorem laidOut_nil (value : Json) : laidOut value [] = .ok (textOf value) := rfl

end TextMacros.Template
