import TextMacros.Template.Value

/-!
# TextMacros.Template.Filling

Texts with fields to be filled in.

A field stands between curly brackets; two brackets of a kind stand for one.  In a field stand,
each of which may be missing,

```
name part... [! conversion] [: layout]
```

where the name is empty for the next value in order, a number for the value at that index, or the
name of a named value; a part is `.` and a name, or an index or a key in square brackets.  A layout
may hold fields of its own.  Fields in order and fields by number do not mix.  Main statement:
`fill_of_noBracket`, by which a text without brackets is filled in as it is.
-/

namespace TextMacros.Template

/-! ## faults -/

/-- Why a template was not filled in. -/
inductive Fault where
  /-- An opening bracket stands at the end. -/
  | loneOpening
  /-- A closing bracket closes nothing. -/
  | loneClosing
  /-- A field is not closed. -/
  | unclosedField
  /-- A bracket opens in the name of a field. -/
  | nestedField
  /-- A text ends where a conversion is wanted. -/
  | noConversion
  /-- More than a layout stands behind a conversion. -/
  | surplusConversion
  /-- A layout is not closed. -/
  | unclosedLayout
  /-- There is no such conversion. -/
  | unknownConversion (mark : Char)
  /-- There is no value at the index of a field. -/
  | noValueAt (index : Nat)
  /-- There is no value of the name of a field. -/
  | noValueNamed (name : Text)
  /-- A field in order follows one by number. -/
  | numberedThenOrdered
  /-- A field by number follows one in order. -/
  | orderedThenNumbered
  /-- A square bracket is not closed. -/
  | unclosedItem
  /-- Something else than a part stands behind an item. -/
  | surplusItem
  /-- A part has no name. -/
  | emptyPart
  /-- A value has no such part. -/
  | part (fault : PartFault)
  /-- A layout is faulty. -/
  | layout (fault : LayoutFault)
  /-- A layout in a layout holds fields. -/
  | tooDeep
  deriving DecidableEq, Repr

/-- The text of a fault. -/
def Fault.message : Fault → Text
  | loneOpening => .ofString "Single '\x7b' encountered in format string"
  | loneClosing => .ofString "Single '\x7d' encountered in format string"
  | unclosedField => .ofString "expected '\x7d' before end of string"
  | nestedField => .ofString "unexpected '\x7b' in field name"
  | noConversion => .ofString "end of string while looking for conversion specifier"
  | surplusConversion => .ofString "expected ':' after conversion specifier"
  | unclosedLayout => .ofString "unmatched '\x7b' in format spec"
  | unknownConversion mark =>
    .ofString "Unknown conversion specifier " ++
      (if mark.toNat = 0x7f then .ofString "\\x7f" else shownCode mark)
  | noValueAt index =>
    .ofString "Replacement index " ++ .ofNat index ++
      .ofString " out of range for positional args tuple"
  | noValueNamed name => name.quoted
  | numberedThenOrdered =>
    .ofString "cannot switch from manual field specification to automatic field numbering"
  | orderedThenNumbered =>
    .ofString "cannot switch from automatic field numbering to manual field specification"
  | unclosedItem => .ofString "Missing ']' in format string"
  | surplusItem => .ofString "Only '.' or '[' may follow ']' in format field specifier"
  | emptyPart => .ofString "Empty attribute in format string"
  | part fault => fault.message
  | layout fault => fault.message
  | tooDeep => .ofString "Max string recursion exceeded"

/-! ## the pieces of a template -/

/-- A field, as it is written. -/
structure Field where
  /-- Its name with the parts behind it. -/
  name : Text
  /-- The mark of its conversion. -/
  conversion? : Option Char
  /-- Its layout. -/
  layout : Text
  deriving DecidableEq, Repr

/-- A piece of a template. -/
inductive Piece where
  /-- A character that stands for itself. -/
  | char (c : Char)
  /-- A field. -/
  | field (f : Field)
  deriving DecidableEq, Repr

/-- Where the reading of a template stands.  What was read of a name or a layout is kept with the
last character first. -/
inductive ReadState where
  /-- Between pieces. -/
  | between
  /-- Behind an opening bracket. -/
  | opened
  /-- Behind a closing bracket. -/
  | closed
  /-- In the name of a field. -/
  | inName (name : Text)
  /-- In square brackets in the name of a field. -/
  | inItem (name : Text)
  /-- Where a conversion is wanted. -/
  | atConversion (name : Text)
  /-- Behind a conversion. -/
  | behindConversion (name : Text) (mark : Char)
  /-- In a layout, with so many brackets to be closed before its end. -/
  | inLayout (name : Text) (conversion? : Option Char) (inner : Nat) (layout : Text)
  deriving DecidableEq, Repr

/-- What the end of a text is in a state. -/
def ReadState.fault? : ReadState → Option Fault
  | between => none
  | opened => some .loneOpening
  | closed => some .loneClosing
  | inName _ | inItem _ => some .unclosedField
  | atConversion _ => some .noConversion
  | behindConversion _ _ | inLayout _ _ _ _ => some .unclosedLayout

/-- What a character behind others of the name of a field does. -/
def nameStep (name : Text) (c : Char) : Except Fault (Option Piece × ReadState) :=
  match c with
  | '{' => .error .nestedField
  | '[' => .ok (none, .inItem (c :: name))
  | '}' => .ok (some (.field ⟨name.reverse, none, []⟩), .between)
  | '!' => .ok (none, .atConversion name)
  | ':' => .ok (none, .inLayout name none 0 [])
  | _ => .ok (none, .inName (c :: name))

/-- What a character does in a state: the piece that it completes, if it completes one, and the
state behind it. -/
def ReadState.step (state : ReadState) (c : Char) : Except Fault (Option Piece × ReadState) :=
  match state with
  | between =>
    if c = '{' then .ok (none, opened)
    else if c = '}' then .ok (none, closed)
    else .ok (some (.char c), between)
  | opened => if c = '{' then .ok (some (.char c), between) else nameStep [] c
  | closed => if c = '}' then .ok (some (.char c), between) else .error .loneClosing
  | inName name => nameStep name c
  | inItem name => .ok (none, if c = ']' then inName (c :: name) else inItem (c :: name))
  | atConversion name => .ok (none, behindConversion name c)
  | behindConversion name mark =>
    if c = '}' then .ok (some (.field ⟨name.reverse, some mark, []⟩), between)
    else if c = ':' then .ok (none, inLayout name (some mark) 0 [])
    else .error .surplusConversion
  | inLayout name conversion? inner layout =>
    match c, inner with
    | '}', 0 => .ok (some (.field ⟨name.reverse, conversion?, layout.reverse⟩), between)
    | '}', inner + 1 => .ok (none, inLayout name conversion? inner (c :: layout))
    | '{', _ => .ok (none, inLayout name conversion? (inner + 1) (c :: layout))
    | _, _ => .ok (none, inLayout name conversion? inner (c :: layout))

/-- The pieces of a template up to the first that is faulty, and the fault, if there is one. -/
def pieces (state : ReadState) : Text → List Piece × Option Fault
  | [] => ([], state.fault?)
  | c :: cs =>
    match state.step c with
    | .error fault => ([], some fault)
    | .ok (piece?, state) =>
      let (rest, fault?) := pieces state cs
      (piece?.toList ++ rest, fault?)

/-! ## names of fields -/

/-- The number that a text is, if it is not empty and holds digits only. -/
def wholeNumber? (t : Text) : Except Fault (Option Nat) :=
  match cutNumber t with
  | .error fault => .error (.layout fault)
  | .ok (n?, rest) => .ok (if rest.isEmpty then n? else none)

/-- Whether a character ends the name of a value or of a part. -/
def endsName (c : Char) : Bool := c = '.' || c = '['

/-- A step to a part, if its name is not empty. -/
def nonemptyStep (name : Text) (step : PartStep) : Except Fault PartStep :=
  if name.isEmpty then .error .emptyPart else .ok step

/-- The value to which the parts written behind a name lead, in at most so many steps. -/
def follow : Nat → Json → Text → Except Fault Json
  | _, value, [] => .ok value
  | 0, _, _ :: _ => .error .surplusItem
  | count + 1, value, c :: cs => do
    let (step, rest) ← match c with
      | '.' =>
        let name := cs.takeWhile (!endsName ·)
        .ok (← nonemptyStep name (.name name), cs.drop name.length)
      | '[' => match Text.splitAt ']' cs with
        | none => .error .unclosedItem
        | some (key, rest) => match ← wholeNumber? key with
          | some index => .ok (PartStep.index index, rest)
          | none => .ok (← nonemptyStep key (.key key), rest)
      | _ => .error .surplusItem
    match part value step with
    | .error fault => .error (.part fault)
    | .ok value => follow count value rest

/-! ## filling in -/

/-- The values for the fields of a template. -/
structure Values where
  /-- Those without a name, in order. -/
  inOrder : List Json
  /-- Those with a name. -/
  named : List (Text × Json)

/-- How the fields met so far took their values. -/
inductive Numbering where
  /-- No field took a value by its place. -/
  | unset
  /-- Fields take the values in order; the index of the next. -/
  | ordered (next : Nat)
  /-- Fields take the values by number. -/
  | numbered
  deriving DecidableEq, Repr

/-- The value of a name, and how fields take values behind it. -/
def valueOf (values : Values) (numbering : Numbering) (name : Text) :
    Except Fault (Json × Numbering) :=
  let valueAt (index : Nat) (after : Numbering) : Except Fault (Json × Numbering) :=
    match values.inOrder[index]? with
    | some value => .ok (value, after)
    | none => .error (.noValueAt index)
  match wholeNumber? name with
  | .error fault => .error fault
  | .ok (some index) => match numbering with
    | .ordered _ => .error .orderedThenNumbered
    | _ => valueAt index .numbered
  | .ok none =>
    if name.isEmpty then match numbering with
      | .unset => valueAt 0 (.ordered 1)
      | .ordered next => valueAt next (.ordered (next + 1))
      | .numbered => .error .numberedThenOrdered
    else match values.named.lookup name with
      | some value => .ok (value, numbering)
      | none => .error (.noValueNamed name)

/-- A value converted as a mark says. -/
def convert (value : Json) : Option Char → Except Fault Json
  | none => .ok value
  | some mark => match Conversion.ofMark? mark with
    | some conversion => .ok (.text (conversion.apply value))
    | none => .error (.unknownConversion mark)

/-- A field filled in, given how the fields in its layout are. -/
def fillField (inner : Numbering → Text → Except Fault (Text × Numbering)) (values : Values)
    (numbering : Numbering) (f : Field) : Except Fault (Text × Numbering) := do
  let name := f.name.takeWhile (!endsName ·)
  let (value, numbering) ← valueOf values numbering name
  let value ← follow f.name.length value (f.name.drop name.length)
  let value ← convert value f.conversion?
  let (layout, numbering) ← if f.layout.contains '{' then inner numbering f.layout
    else .ok (f.layout, numbering)
  match laidOut value layout with
  | .error fault => .error (.layout fault)
  | .ok text => .ok (text, numbering)

/-- Fills in pieces, one after the other. -/
def fillPieces (inner : Numbering → Text → Except Fault (Text × Numbering)) (values : Values) :
    Numbering → List Piece → Except Fault (Text × Numbering)
  | numbering, [] => .ok ([], numbering)
  | numbering, .char c :: rest =>
    (fillPieces inner values numbering rest).map fun (t, n) => (c :: t, n)
  | numbering, .field f :: rest => do
    let (text, numbering) ← fillField inner values numbering f
    (fillPieces inner values numbering rest).map fun (t, n) => (text ++ t, n)

/-- Fills in a template whose layouts hold fields down to a depth.  The faults are met from the
left. -/
def fillTo (values : Values) : Nat → Numbering → Text → Except Fault (Text × Numbering)
  | 0, _, _ => .error .tooDeep
  | depth + 1, numbering, template =>
    let (pieces, fault?) := pieces .between template
    match fillPieces (fillTo values depth) values numbering pieces, fault? with
    | .ok _, some fault => .error fault
    | result, _ => result

/-- How deep the fields of a template go: there are some in layouts, but none in theirs. -/
def maxDepth : Nat := 2

/-- A template with its fields filled in. -/
def fill (template : Text) (values : Values) : Except Fault Text :=
  (fillTo values maxDepth .unset template).map (·.1)

theorem pieces_of_noBracket {t : Text} (hopen : '{' ∉ t) (hclose : '}' ∉ t) :
    pieces .between t = (t.map .char, none) := by
  induction t with
  | nil => rfl
  | cons c cs ih =>
    simp only [List.mem_cons, not_or] at hopen hclose
    simp [pieces, ReadState.step, Ne.symm hopen.1, Ne.symm hclose.1, ih hopen.2 hclose.2]

theorem fillPieces_char (inner : Numbering → Text → Except Fault (Text × Numbering))
    (values : Values) (numbering : Numbering) (t : Text) :
    fillPieces inner values numbering (t.map .char) = .ok (t, numbering) := by
  induction t with
  | nil => rfl
  | cons c cs ih => simp [fillPieces, ih, Except.map]

theorem fill_of_noBracket {t : Text} (hopen : '{' ∉ t) (hclose : '}' ∉ t) (values : Values) :
    fill t values = .ok t := by
  simp [fill, maxDepth, fillTo, pieces_of_noBracket hopen hclose, fillPieces_char, Except.map]

end TextMacros.Template
