import TextMacros.Text.Letter
import TextMacros.Text.Printable

/-!
# TextMacros.Display.Literal.Lexeme

The words, numbers, strings and marks of which a literal is written.

A lexeme knows how many brackets are open behind it.  Where brackets are left open at the end, a
last lexeme says which of them is the innermost; where something stands behind a backslash, a last
lexeme says so.  Both are faults only for who comes as far as that.  Main statement:
`length_le_of_cutDecimal`, by which reading digits leaves no more than there was.
-/

namespace TextMacros.Display.Literal

/-! ## lexemes -/

/-- What a lexeme is. -/
inductive Token where
  /-- A word. -/
  | word (t : Text)
  /-- A number. -/
  | number (imaginary : Bool)
  /-- A string: of bytes, or of characters; with fields in it, or without. -/
  | string (bytes fields : Bool)
  /-- A bracket, an operator or another mark. -/
  | mark (t : Text)
  /-- The end of a line outside of brackets. -/
  | lineEnd
  /-- The end of the text while a bracket is open. -/
  | unclosed (opener : Char)
  /-- A backslash with something behind it that is no end of a line. -/
  | backslash
  deriving DecidableEq, Repr

/-- A lexeme. -/
structure Lexeme where
  /-- What it is. -/
  token : Token
  /-- How many brackets are open behind it. -/
  level : Nat
  deriving DecidableEq, Repr

/-! ## faults -/

/-- Why a text is no row of lexemes. -/
inductive LexFault where
  /-- A closing bracket closes nothing. -/
  | unmatched (closer : Char)
  /-- A closing bracket is not of the kind of the open one, which stands on another line if that
  is given. -/
  | mismatched (closer opener : Char) (line? : Option Nat)
  /-- There are too many brackets in brackets. -/
  | tooNested
  /-- A number of a kind is not well written. -/
  | badNumber (kind : String)
  /-- A digit is none of a kind of numbers. -/
  | badDigit (digit : Char) (kind : String)
  /-- A number starts with a zero. -/
  | leadingZero
  /-- A character belongs to nothing. -/
  | badCharacter (c : Char)
  /-- A string does not end; the line where that is seen. -/
  | unterminated (triple : Bool) (line : Nat)
  deriving DecidableEq, Repr

/-- A code point in at least four hexadecimal digits. -/
def codePoint (c : Char) : Text :=
  let digits := (Nat.toDigits 16 c.toNat).map Char.toUpper
  List.replicate (4 - digits.length) '0' ++ digits

/-- The text of a fault. -/
def LexFault.message : LexFault → Text
  | unmatched closer => .ofString "unmatched '" ++ [closer, '\'']
  | mismatched closer opener line? =>
    .ofString "closing parenthesis '" ++ [closer] ++
      .ofString "' does not match opening parenthesis '" ++ [opener, '\''] ++
      (match line? with
        | some line => .ofString " on line " ++ .ofNat line
        | none => [])
  | tooNested => .ofString "too many nested parentheses"
  | badNumber kind => .ofString "invalid " ++ .ofString kind ++ .ofString " literal"
  | badDigit digit kind =>
    .ofString "invalid digit '" ++ [digit] ++ .ofString "' in " ++ .ofString kind ++
      .ofString " literal"
  | leadingZero => .ofString <|
    "leading zeros in decimal integer literals are not permitted; " ++
      "use an 0o prefix for octal integers"
  | badCharacter c =>
    if Text.isPrintable c then
      .ofString "invalid character '" ++ [c] ++ .ofString "' (U+" ++ codePoint c ++ [')']
    else .ofString "invalid non-printable character U+" ++ codePoint c
  | unterminated triple line =>
    .ofString (if triple then "unterminated triple-quoted string literal"
      else "unterminated string literal") ++
      .ofString " (detected at line " ++ .ofNat line ++ [')']

/-! ## words -/

/-- Whether a character may stand in a word, as far as that is seen at once. -/
def inWord (c : Char) : Bool := c.isAlphanum || c == '_' || c.toNat ≥ 0x80

/-- The first character of a word that must not stand in it. -/
def badCharacter? : Text → Option Char
  | [] => none
  | c :: cs => if Text.startsIdentifier c then cs.find? (!Text.continuesIdentifier ·) else some c

/-- What may stand before a string: whether it is one of bytes, and whether it has fields. -/
def stringMark? (t : Text) : Option (Bool × Bool) :=
  let lower := t.map Char.toLower
  if [Text.ofString "r", .ofString "u", []].contains lower then some (false, false)
  else if [Text.ofString "b", .ofString "br", .ofString "rb"].contains lower then some (true, false)
  else if [Text.ofString "f", .ofString "fr", .ofString "rf"].contains lower then some (false, true)
  else none

/-! ## numbers -/

/-- What stands behind the decimal digits that a text starts with; a single underscore may stand
between two of them. -/
def cutDecimal : Text → Except LexFault Text
  | [] => .ok []
  | c :: cs =>
    if c.isDigit then cutDecimal cs
    else if c = '_' then
      if cs.head?.any Char.isDigit then cutDecimal cs else .error (.badNumber "decimal")
    else .ok (c :: cs)

theorem length_le_of_cutDecimal {t rest : Text} (h : cutDecimal t = .ok rest) :
    rest.length ≤ t.length := by
  induction t generalizing rest with
  | nil => cases h; simp
  | cons c cs ih =>
    unfold cutDecimal at h
    split at h
    · exact Nat.le_succ_of_le (ih h)
    · split at h
      · split at h
        · exact Nat.le_succ_of_le (ih h)
        · cases h
      · cases h; simp

/-- A way to write numbers by digits of its own. -/
structure Radix where
  /-- The name of the kind of numbers. -/
  kind : String
  /-- Whether a character is one of its digits. -/
  isDigit : Char → Bool

/-- What stands behind the digits of a radix; each may have an underscore before it.  Whether the
digits may end, and whether an underscore may follow, is given. -/
def cutRadix (radix : Radix) : (mayEnd mayDivide : Bool) → Text → Except LexFault Text
  | mayEnd, _, [] => if mayEnd then .ok [] else .error (.badNumber radix.kind)
  | mayEnd, mayDivide, c :: cs =>
    if radix.isDigit c then cutRadix radix true true cs
    else if c = '_' && mayDivide then cutRadix radix false false cs
    else if c.isDigit then .error (.badDigit c radix.kind)
    else if mayEnd then .ok (c :: cs)
    else .error (.badNumber radix.kind)

/-- The radix of a mark. -/
def Radix.ofMark? (c : Char) : Option Radix :=
  if c = 'x' || c = 'X' then
    some ⟨"hexadecimal", fun d => d.isDigit || ('a' ≤ d.toLower && d.toLower ≤ 'f')⟩
  else if c = 'o' || c = 'O' then some ⟨"octal", fun d => '0' ≤ d && d ≤ '7'⟩
  else if c = 'b' || c = 'B' then some ⟨"binary", fun d => d = '0' || d = '1'⟩
  else none

/-- The words that may follow a number at once. -/
def wordsBehindNumber : List Text :=
  ["and", "else", "for", "or", "not"].map Text.ofString

/-- What words that may follow a number at once start with. -/
def startsBehindNumber : List Text := ["if", "in", "is"].map Text.ofString

/-- Whether a text starts with a character that is seen at once to start a word. -/
def startsWord (t : Text) : Bool := t.head?.any fun c => c.isAlphanum || c == '_'

/-- The end of a number of a kind, which no word but some may follow at once. -/
def endNumber (kind : String) (rest : Text) : Except LexFault Text :=
  if startsWord rest && !wordsBehindNumber.contains (rest.takeWhile inWord) &&
      !startsBehindNumber.any (·.isPrefixOf rest) then
    .error (.badNumber kind)
  else .ok rest

/-- What stands behind the end of a number whose digits are read, and whether it is imaginary. -/
def cutImaginary (rest : Text) : Except LexFault (Bool × Text) :=
  match rest with
  | 'j' :: cs | 'J' :: cs => (endNumber "imaginary" cs).map (true, ·)
  | _ => (endNumber "decimal" rest).map (false, ·)

/-- What stands behind the exponent of a number, and whether the number is imaginary. -/
def cutExponent (rest : Text) : Except LexFault (Bool × Text) :=
  match rest with
  | [] => .ok (false, [])
  | e :: cs =>
    if e = 'e' || e = 'E' then
      let (signed, digits) := match cs with
        | '+' :: ds | '-' :: ds => (true, ds)
        | _ => (false, cs)
      if digits.head?.any Char.isDigit then (cutDecimal digits).bind cutImaginary
      else if signed then .error (.badNumber "decimal")
      else (endNumber "decimal" rest).map (false, ·)
    else cutImaginary rest

/-- What stands behind the fraction of a number, without its point, and whether the number is
imaginary. -/
def cutFraction (rest : Text) : Except LexFault (Bool × Text) :=
  if rest.head?.any Char.isDigit then (cutDecimal rest).bind cutExponent else cutExponent rest

/-- What stands behind a decimal number, and whether it is imaginary. -/
def cutDecimalNumber (t : Text) : Except LexFault (Bool × Text) := do
  let rest ← cutDecimal t
  let digits := t.take (t.length - rest.length)
  match rest with
  | '.' :: behind => cutFraction behind
  | c :: _ =>
    if c.toLower = 'e' || c.toLower = 'j' then cutExponent rest
    else if t.head? = some '0' && digits.any fun d => d.isDigit && d != '0' then
      .error .leadingZero
    else cutExponent rest
  | [] =>
    if t.head? = some '0' && digits.any fun d => d.isDigit && d != '0' then .error .leadingZero
    else .ok (false, [])

/-- What stands behind the number that a text starts with, and whether it is imaginary. -/
def cutNumber (t : Text) : Except LexFault (Bool × Text) :=
  match t with
  | '0' :: c :: cs => match Radix.ofMark? c with
    | some radix => do
      let rest ← cutRadix radix false true cs
      (endNumber radix.kind rest).map (false, ·)
    | none => cutDecimalNumber t
  | '.' :: cs => cutFraction cs
  | _ => cutDecimalNumber t

/-! ## strings -/

/-- What stands behind the end of a string, and the line there; the quotes that end it are
given, and how many of them stand right before. -/
def cutString (quote : Char) (quotes : Nat) : (line seen : Nat) → Text → Except LexFault (Text × Nat)
  | line, _, [] => .error (.unterminated (quotes != 1) line)
  | line, _, ['\\'] => .error (.unterminated (quotes != 1) line)
  | line, _, '\\' :: c :: cs =>
    cutString quote quotes (if c = '\n' then line + 1 else line) 0 cs
  | line, seen, c :: cs =>
    if c = quote then
      if seen + 1 = quotes then .ok (cs, line) else cutString quote quotes line (seen + 1) cs
    else if c = '\n' then
      if quotes = 1 then .error (.unterminated false line)
      else cutString quote quotes (line + 1) 0 cs
    else cutString quote quotes line 0 cs

/-- What stands behind the string that a text starts with, without its first quote, and the line
there. -/
def cutQuoted (quote : Char) (line : Nat) (t : Text) : Except LexFault (Text × Nat) :=
  match t with
  | c :: d :: cs =>
    if c = quote then if d = quote then cutString quote 3 line 0 cs else .ok (d :: cs, line)
    else cutString quote 1 line 0 t
  | [c] => if c = quote then .ok ([], line) else cutString quote 1 line 0 t
  | [] => cutString quote 1 line 0 t

/-! ## marks -/

/-- The marks of more than one character, the longest first. -/
def longMarks : List Text :=
  ["**=", "//=", ">>=", "<<=", "...", "!=", "==", "<=", ">=", "->", ":=", "+=", "-=", "*=", "/=",
    "%=", "&=", "|=", "^=", "@=", "**", "//", "<<", ">>", "<>"].map Text.ofString

/-- The bracket that closes an opening one. -/
def closerOf? : Char → Option Char
  | '(' => some ')'
  | '[' => some ']'
  | '{' => some '}'
  | _ => none

/-- Whether a character closes a bracket. -/
def isCloser (c : Char) : Bool := c = ')' || c = ']' || c = '}'

/-- How many brackets may be open. -/
def maxLevel : Nat := 200

/-- The brackets that stay open behind a closing one, given those open before it with their
lines, innermost first. -/
def closeBracket (line : Nat) (closer : Char) :
    List (Char × Nat) → Except LexFault (List (Char × Nat))
  | [] => .error (.unmatched closer)
  | (opener, opened) :: outer =>
    if closerOf? opener = some closer then .ok outer
    else .error (.mismatched closer opener (if opened = line then none else some opened))

/-! ## rows of lexemes -/

/-- Where the reading of lexemes stands: the line, the open brackets with their lines, and what is
left of the text. -/
structure LexState where
  /-- The line. -/
  line : Nat
  /-- The open brackets with their lines, innermost first. -/
  brackets : List (Char × Nat)
  /-- What is left. -/
  rest : Text

/-- The state behind a token. -/
def LexState.past (s : LexState) (token : Token) (rest : Text) : Option Token × LexState :=
  (some token, { s with rest })

/-- The token that stands first in a text that is not empty, if it is not left out, and the state
behind it. -/
def LexState.step (s : LexState) (c : Char) (cs : Text) :
    Except LexFault (Option Token × LexState) :=
  if c = ' ' || c = '\t' || c = '\x0c' then .ok (none, { s with rest := cs })
  else if c = '\n' || c = '\r' then
    .ok (if s.brackets.isEmpty then some .lineEnd else none,
      { s with line := s.line + 1, rest := cs })
  else if c = '#' then .ok (none, { s with rest := cs.dropWhile (· != '\n') })
  else if c = '\\' then
    match cs with
    | '\n' :: ds => .ok (none, { s with line := s.line + 1, rest := ds })
    | _ => .ok (some .backslash, { s with brackets := [], rest := [] })
  else if c.isDigit || (c = '.' && cs.head?.any Char.isDigit) then
    (cutNumber (c :: cs)).map fun (imaginary, rest) => s.past (.number imaginary) rest
  else
    let run := (c :: cs).takeWhile inWord
    let behind := (c :: cs).dropWhile inWord
    let quote? := behind.head?.filter fun d => d = '\'' || d = '"'
    match quote?, stringMark? run with
    | some quote, some (bytes, fields) =>
      (cutQuoted quote s.line behind.tail).map fun (rest, line) =>
        (some (.string bytes fields), { s with line, rest })
    | _, _ =>
      if !run.isEmpty then
        match badCharacter? run with
        | some bad => .error (.badCharacter bad)
        | none => .ok (s.past (.word run) behind)
      else if (closerOf? c).isSome then
        if s.brackets.length ≥ maxLevel then .error .tooNested
        else .ok (some (.mark [c]), { s with brackets := (c, s.line) :: s.brackets, rest := cs })
      else if isCloser c then
        (closeBracket s.line c s.brackets).map fun brackets =>
          (some (.mark [c]), { s with brackets, rest := cs })
      else match longMarks.find? (·.isPrefixOf (c :: cs)) with
        | some m => .ok (s.past (.mark m) ((c :: cs).drop m.length))
        | none => if Text.isPrintable c then .ok (s.past (.mark [c]) cs) else .error (.badCharacter c)

/-- The lexemes from a state on, in at most so many steps. -/
def lexFrom : Nat → LexState → Except LexFault (List Lexeme)
  | 0, _ => .ok []
  | fuel + 1, s =>
    match s.rest with
    | [] => .ok (match s.brackets with
      | [] => []
      | (opener, _) :: _ => [⟨.unclosed opener, s.brackets.length⟩])
    | c :: cs => do
      let (token?, s) ← s.step c cs
      let rest ← lexFrom fuel s
      .ok (match token? with
        | some token => ⟨token, s.brackets.length⟩ :: rest
        | none => rest)

/-- The lexemes of a text. -/
def lexemes (t : Text) : Except LexFault (List Lexeme) := lexFrom (t.length + 1) ⟨1, [], t⟩

end TextMacros.Display.Literal
