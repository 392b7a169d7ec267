import TextMacros.Display.Emoji.Codes
import TextMacros.Display.Handler
import TextMacros.Display.Style
import TextMacros.Display.Wrap

/-!
# TextMacros.Display.Markup

Texts with tags for their style.

A tag stands between square brackets and starts with a lower-case letter or one of `#`, `/` and
`@`; a tag that starts with `/` closes the innermost open tag of the same style, or, without a
name, the innermost of all.  A backslash before a tag makes it plain, and two backslashes before a
tag stand for one.  Shown without style, a text is what is left when its tags are taken out and
the codes for emoji between them are shown.  Main statement: `plain_of_noBracket`, by which in a
text without brackets nothing but the codes is looked at.
-/

namespace TextMacros.Display.Markup

/-! ## tags -/

/-- Whether a tag may start with a character. -/
def startsTag (c : Char) : Bool := ('a' ≤ c && c ≤ 'z') || ['#', '/', '@'].contains c

/-- The inside of the tag that a text starts with, and what follows the tag. -/
def cutTag? : Text → Option (Text × Text)
  | '[' :: c :: cs =>
    if startsTag c then
      match cs.dropWhile fun d => d != ']' && d != '[' with
      | ']' :: rest => some (c :: cs.takeWhile fun d => d != ']' && d != '[', rest)
      | _ => none
    else none
  | _ => none

/-- A piece of a text with tags. -/
inductive Piece where
  /-- A text that is shown. -/
  | shown (t : Text)
  /-- A tag, with its inside and the index of its bracket. -/
  | tag (inside : Text) (index : Nat)
  deriving DecidableEq, Repr

/-- A shown text, in which a backslash before a bracket that starts no tag is left out. -/
def unescapeBrackets : Text → Text
  | '\\' :: '[' :: cs => '[' :: unescapeBrackets cs
  | c :: cs => c :: unescapeBrackets cs
  | [] => []

/-- The piece of a shown text, given last character first; none if it is empty. -/
def shownPiece (reversed : Text) : List Piece :=
  if reversed.isEmpty then [] else [.shown (unescapeBrackets reversed.reverse)]

/-- The pieces of a text from index `i` on; `shown` is what was read since the last piece, last
character first, and `fuel` bounds the steps. -/
def piecesFrom : (fuel i : Nat) → (shown : Text) → Text → List Piece
  | 0, _, shown, t => shownPiece (t.reverse ++ shown)
  | fuel + 1, i, shown, t =>
    let slashes := t.takeWhile (· == '\\')
    let behind := t.dropWhile (· == '\\')
    match cutTag? behind, behind with
    | some (inside, rest), _ =>
      let kept := List.replicate (slashes.length / 2) '\\'
      let before := shownPiece shown ++ (if kept.isEmpty then [] else [Piece.shown kept])
      let after := piecesFrom fuel (i + slashes.length + inside.length + 2) [] rest
      if slashes.length % 2 = 1 then
        before ++ .shown ('[' :: inside ++ [']']) :: after
      else before ++ .tag inside (i + slashes.length) :: after
    | none, [] => shownPiece (slashes ++ shown)
    | none, c :: cs => piecesFrom fuel (i + slashes.length + 1) (c :: (slashes ++ shown)) cs

/-- The pieces of a text. -/
def pieces (t : Text) : List Piece := piecesFrom (t.length + 1) 0 [] t

/-! ## showing -/

/-- Why a text with tags cannot be shown. -/
inductive Fault where
  /-- No tag of its style is open; the inside of the tag, and its index. -/
  | notOpen (inside : Text) (index : Nat)
  /-- No tag is open at all; the index of the tag. -/
  | nothingOpen (index : Nat)
  /-- A component of a colour is no number. -/
  | badComponent (fault : Text.NumeralFault)
  /-- A tag that names a handler has no good value. -/
  | badHandler (fault : Handler.Fault)
  deriving DecidableEq, Repr

/-- The text of a fault. -/
def Fault.message : Fault → Text
  | notOpen inside index =>
    .ofString "closing tag '[" ++ inside ++ .ofString "]' at position " ++ .ofNat index ++
      .ofString " doesn't match any open tag"
  | nothingOpen index =>
    .ofString "closing tag '[/]' at position " ++ .ofNat index ++ .ofString " has nothing to close"
  | badComponent fault => fault.message
  | badHandler fault => fault.message

/-- An open tag. -/
structure Tag where
  /-- The normal form of its name. -/
  style : Text
  /-- What stands behind a `=` in it. -/
  value? : Option Text
  deriving DecidableEq, Repr

/-- Whether a tag names a handler. -/
def Tag.isHandler (tag : Tag) : Bool := tag.style.head? == some '@'

/-- Checks the value of a tag that is closed: that of a tag that names a handler, if it is there and
not empty, is to be a good one. -/
def Tag.check (tag : Tag) : Except Fault Unit :=
  match tag.value? with
  | some (c :: cs) => if tag.isHandler then (Handler.check (c :: cs)).mapError .badHandler else .ok ()
  | _ => .ok ()

/-- The normal form of the name of a tag. -/
def styleName (name : Text) : Except Fault Text := (Style.normalForm name).mapError .badComponent

/-- The name and the value in the inside of a tag. -/
def cutInside (inside : Text) : Text × Option Text :=
  match Text.splitAt '=' inside with
  | some (name, value) => (name, some value)
  | none => (inside, none)

/-- The tags that stay open behind a closing tag of a name, given those open before it, innermost
first; and the tag that is closed. -/
def close (opened : List Tag) (inside name : Text) (index : Nat) :
    Except Fault (Tag × List Tag) :=
  if (Text.trim name).isEmpty then
    match opened with
    | [] => .error (.nothingOpen index)
    | tag :: outer => .ok (tag, outer)
  else do
    let style ← styleName (Text.trim name)
    match opened.find? (·.style == style) with
    | some tag => .ok (tag, opened.eraseP (·.style == style))
    | none => .error (.notOpen inside index)

/-- What is shown of pieces, given the open tags, innermost first. -/
def showPieces : (opened : List Tag) → List Piece → Except Fault Text
  | _, [] => .ok []
  | opened, .shown t :: rest => (showPieces opened rest).map (Emoji.showCodes t ++ ·)
  | opened, .tag inside index :: rest =>
    match cutInside inside with
    | ('/' :: name, _) =>
      match close opened inside name index with
      | .error fault => .error fault
      | .ok (tag, outer) => match tag.check with
        | .error fault => .error fault
        | .ok () => showPieces outer rest
    | (name, value?) =>
      match styleName name with
      | .ok style => showPieces (⟨style, value?⟩ :: opened) rest
      | .error fault => .error fault

/-- What is shown of a text with tags. -/
def plain (t : Text) : Except Fault Text :=
  if t.contains '[' then showPieces [] (pieces t) else .ok (Emoji.showCodes t)

theorem plain_of_noBracket {t : Text} (h : '[' ∉ t) : plain t = .ok (Emoji.showCodes t) := by
  simp [plain, h]

/-! ## escaping -/

/-- Escaping, with a bound on the steps. -/
def escapeWithin : (fuel : Nat) → Text → Text
  | 0, t => t
  | fuel + 1, t =>
    let slashes := t.takeWhile (· == '\\')
    let behind := t.dropWhile (· == '\\')
    match cutTag? behind, behind with
    | some (inside, rest), _ =>
      slashes ++ slashes ++ '\\' :: '[' :: inside ++ ']' :: escapeWithin fuel rest
    | none, [] => slashes
    | none, c :: cs => slashes ++ c :: escapeWithin fuel cs

/-- A text with backslashes put before its tags.  A single backslash at the end is doubled. -/
def escape (t : Text) : Text :=
  let escaped := escapeWithin (t.length + 1) t
  match escaped.reverse with
  | '\\' :: '\\' :: _ => escaped
  | '\\' :: _ => escaped ++ ['\\']
  | _ => escaped

/-! ## printing -/

/-- A text with tags as it is printed into so many columns, with a line feed at its end. -/
def print (columns : Nat) (t : Text) : Except Fault Text :=
  (plain t).map (Display.print columns)

end TextMacros.Display.Markup
