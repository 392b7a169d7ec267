import TextMacros.Display.Colour

/-!
# TextMacros.Display.Style

Styles, and their normal form.

A style is written as words: attributes, each perhaps behind `not`, a colour, a colour behind
`on` for the ground, and an address behind `link`.  Of words for the same thing the last counts.
In the normal form each thing is written once, by its full name and in a fixed order.  A text
that is no style has its lower case for a normal form.  Main statement: `normalForm_of_style`, by
which texts that are read as the same style have the same normal form.
-/

namespace TextMacros.Display

/-- The attributes of a style. -/
inductive Attribute where
  /-- Heavy letters. -/
  | bold
  /-- Faint letters. -/
  | dim
  /-- Slanted letters. -/
  | italic
  /-- A line below. -/
  | underline
  /-- Blinking slowly. -/
  | blink
  /-- Blinking fast. -/
  | blinkFast
  /-- Letters and ground exchanged. -/
  | reverse
  /-- Hidden letters. -/
  | conceal
  /-- A line through. -/
  | strike
  /-- Two lines below. -/
  | underlineTwice
  /-- A frame around. -/
  | frame
  /-- A circle around. -/
  | encircle
  /-- A line above. -/
  | overline
  deriving DecidableEq, Repr

namespace Attribute

/-- The attributes, in the order of the normal form. -/
def all : List Attribute :=
  [bold, dim, italic, underline, blink, blinkFast, reverse, conceal, strike, underlineTwice, frame,
    encircle, overline]

/-- The full name of an attribute. -/
def name : Attribute → Text
  | bold => .ofString "bold"
  | dim => .ofString "dim"
  | italic => .ofString "italic"
  | underline => .ofString "underline"
  | blink => .ofString "blink"
  | blinkFast => .ofString "blink2"
  | reverse => .ofString "reverse"
  | conceal => .ofString "conceal"
  | strike => .ofString "strike"
  | underlineTwice => .ofString "underline2"
  | frame => .ofString "frame"
  | encircle => .ofString "encircle"
  | overline => .ofString "overline"

/-- The short name of an attribute, if it has one. -/
def shortName? : Attribute → Option Text
  | bold => some ['b']
  | dim => some ['d']
  | italic => some ['i']
  | underline => some ['u']
  | reverse => some ['r']
  | conceal => some ['c']
  | strike => some ['s']
  | underlineTwice => some ['u', 'u']
  | overline => some ['o']
  | blink | blinkFast | frame | encircle => none

/-- The attribute of a name, full or short. -/
def ofName? (t : Text) : Option Attribute :=
  all.find? fun a => a.name == t || a.shortName? == some t

end Attribute

/-- A style. -/
structure Style where
  /-- The attributes switched on and off, the last first. -/
  switches : List (Attribute × Bool)
  /-- The colour of the letters. -/
  colour? : Option Text
  /-- The colour of the ground. -/
  ground? : Option Text
  /-- The address that is linked. -/
  link? : Option Text
  deriving DecidableEq, Repr

namespace Style

/-- The style that says nothing. -/
def none : Style := ⟨[], .none, .none, .none⟩

/-- Adds what words say to a style. -/
def ofWords (s : Style) : List Text → Except Colour.Fault Style
  | [] => .ok s
  | word :: words =>
    let lower := word.lowerCase
    if lower = .ofString "on" then
      match words with
      | [] => .error .noColour
      | ground :: words =>
        match Colour.read ground with
        | .ok colour => ofWords { s with ground? := some colour } words
        | .error fault => .error fault
    else if lower = .ofString "not" then
      match words with
      | [] => .error .noColour
      | name :: words =>
        match Attribute.ofName? name with
        | some a => ofWords { s with switches := (a, false) :: s.switches } words
        | .none => .error .noColour
    else if lower = .ofString "link" then
      match words with
      | [] => .error .noColour
      | address :: words => ofWords { s with link? := some address } words
    else match Attribute.ofName? lower with
      | some a => ofWords { s with switches := (a, true) :: s.switches } words
      | .none =>
        match Colour.read lower with
        | .ok colour => ofWords { s with colour? := some colour } words
        | .error fault => .error fault

/-- The words of the normal form of a style. -/
def words (s : Style) : List Text :=
  Attribute.all.flatMap (fun a => match s.switches.lookup a with
    | some true => [a.name]
    | some false => [.ofString "not", a.name]
    | .none => []) ++
  s.colour?.toList ++
  (s.ground?.map fun c => [.ofString "on", c]).getD [] ++
  (s.link?.map fun a => [.ofString "link", a]).getD []

/-- The normal form of a style. -/
def write (s : Style) : Text :=
  if s.words.isEmpty then .ofString "none" else Text.joined [' '] s.words

/-- Reads a style. -/
def read (t : Text) : Except Colour.Fault Style :=
  if t.trim = .ofString "none" then .ok none else none.ofWords (Text.blankWords t)

/-- The normal form of a text that may be a style. -/
def normalForm (t : Text) : Except Text.NumeralFault Text :=
  match read t with
  | .ok s => .ok s.write
  | .error .noColour => .ok t.trim.lowerCase
  | .error (.badComponent fault) => .error fault

theorem normalForm_of_style {t : Text} {s : Style} (h : read t = .ok s) :
    normalForm t = .ok s.write := by
  simp [normalForm, h]

end Style

end TextMacros.Display
