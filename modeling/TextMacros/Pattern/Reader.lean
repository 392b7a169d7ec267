import TextMacros.Pattern.Basic
import TextMacros.Text.Numeral
import TextMacros.Text.Quoted

/-!
# TextMacros.Pattern.Reader

The written form of patterns.

```text
pattern  ::=  sequence ('|' sequence)*
sequence ::=  (atom repeat?)*
atom     ::=  '.' | '[' '^'? member+ ']' | '(' pattern ')' | '\' char | char
group    ::=  '(' | '(?:' | '(?P<NAME>'
repeat   ::=  ('*' | '+' | '?' | '{' n '}' | '{' least? ',' most? '}') '?'?
member   ::=  char | char '-' char
```

A backslash makes a punctuation character plain and gives `a f n r t v` their control character;
before any other letter or digit it is a fault.  A `{` that starts no count is plain, and so is a
`]` that stands first in a class.  A trailing `?` after a repeat changes nothing, since a whole
text is matched.  Faults are reported with the index at which they show.
-/

namespace TextMacros.Pattern

/-! ## faults -/

/-- What can be wrong with a written pattern. -/
inductive Problem where
  /-- A class is not closed. -/
  | unterminatedClass
  /-- A group is not closed. -/
  | unterminatedGroup
  /-- A group is closed that was not opened. -/
  | unbalancedClose
  /-- A repeat has nothing before it. -/
  | nothingToRepeat
  /-- A repeat follows a repeat. -/
  | repeatOfRepeat
  /-- The least count of a repeat is above its greatest. -/
  | leastAboveMost
  /-- The ends of a range of characters, as written, stand in the wrong order. -/
  | reversedRange (first last : Text)
  /-- The pattern ends behind a backslash. -/
  | escapeAtEnd
  /-- A character with no meaning behind a backslash. -/
  | unknownEscape (c : Char)
  /-- The pattern ends inside the opening of a group. -/
  | unexpectedEnd
  /-- The opening of a group is none that is known. -/
  | unknownOpening (written : Text)
  /-- The name of a group is missing. -/
  | missingGroupName
  /-- The name of a group is not closed. -/
  | unterminatedGroupName
  /-- The name of a group is not a name. -/
  | badGroupName (name : Text)
  deriving DecidableEq, Repr

/-- A problem and the index at which it shows. -/
structure Fault where
  /-- What is wrong. -/
  problem : Problem
  /-- The index in the written pattern. -/
  index : Nat
  deriving DecidableEq, Repr

/-- The text of a problem. -/
def Problem.message : Problem → Text
  | unterminatedClass => .ofString "unterminated character set"
  | unterminatedGroup => .ofString "missing ), unterminated subpattern"
  | unbalancedClose => .ofString "unbalanced parenthesis"
  | nothingToRepeat => .ofString "nothing to repeat"
  | repeatOfRepeat => .ofString "multiple repeat"
  | leastAboveMost => .ofString "min repeat greater than max repeat"
  | reversedRange first last => .ofString "bad character range " ++ first ++ '-' :: last
  | escapeAtEnd => .ofString "bad escape (end of pattern)"
  | unknownEscape c => .ofString "bad escape \\" ++ [c]
  | unexpectedEnd => .ofString "unexpected end of pattern"
  | unknownOpening written => .ofString "unknown extension " ++ written
  | missingGroupName => .ofString "missing group name"
  | unterminatedGroupName => .ofString "missing >, unterminated name"
  | badGroupName name => .ofString "bad character in group name " ++ name.quoted

/-- The text of a fault. -/
def Fault.message (f : Fault) : Text :=
  f.problem.message ++ .ofString " at position " ++ .ofNat f.index

/-! ## characters -/

/-- The character that a backslash and a character stand for. -/
def escaped? (c : Char) : Option Char :=
  if c = 'a' then some '\x07'
  else if c = 'f' then some '\x0c'
  else if c = 'n' then some '\n'
  else if c = 'r' then some '\r'
  else if c = 't' then some '\t'
  else if c = 'v' then some '\x0b'
  else if c.isAlphanum then none
  else some c

/-- A character read, plain or behind a backslash: what it stands for, how it was written, and
what follows.  `index` is that of its first character; an empty text is the problem given. -/
def readChar (atEnd : Fault) (index : Nat) : Text → Except Fault (Char × Text × Text)
  | [] => .error atEnd
  | ['\\'] => .error ⟨.escapeAtEnd, index⟩
  | '\\' :: c :: rest =>
    match escaped? c with
    | none => .error ⟨.unknownEscape c, index⟩
    | some d => .ok (d, ['\\', c], rest)
  | c :: rest => .ok (c, [c], rest)

/-! ## classes -/

/-- Reads the members of a class up to its closing bracket.  `whole` is the length of the
pattern, so that an index is `whole` less what is left; `start` is the index of the opening
bracket, and `fuel` bounds the members. -/
def readMembers (whole start : Nat) :
    (fuel : Nat) → List (Char × Char) → Text → Except Fault (List (Char × Char) × Text)
  | 0, _, _ => .error ⟨.unterminatedClass, start⟩
  | fuel + 1, members, t =>
    match t, members with
    | ']' :: rest, _ :: _ => .ok (members, rest)
    | _, _ => do
      let unclosed : Fault := ⟨.unterminatedClass, start⟩
      let index := whole - t.length
      let (first, firstWritten, rest) ← readChar unclosed index t
      match rest with
      | ['-'] => .error unclosed
      | '-' :: ']' :: rest => .ok (('-', '-') :: (first, first) :: members, rest)
      | '-' :: rest =>
        let (last, lastWritten, rest) ← readChar unclosed (whole - rest.length) rest
        if last < first then .error ⟨.reversedRange firstWritten lastWritten, index⟩
        else readMembers whole start fuel ((first, last) :: members) rest
      | rest => readMembers whole start fuel ((first, first) :: members) rest

/-- Reads a class behind its opening bracket. -/
def readClass (whole start : Nat) (t : Text) : Except Fault (CharClass × Text) :=
  let negated := t.head? == some '^'
  (readMembers whole start (t.length + 1) [] (if negated then t.tail else t)).map fun r =>
    (⟨negated, r.1⟩, r.2)

/-! ## repeats -/

/-- The number that a text of decimal digits starts with, if it starts with one, and the rest. -/
def readCount (t : Text) : Option Nat × Text :=
  let digits := t.takeWhile Char.isDigit
  (if digits.isEmpty then none else some (Text.ofAsciiDigits digits),
    t.dropWhile Char.isDigit)

/-- Reads the counts behind the `{` of a repeat; `none` if the `{` starts no repeat. -/
def readCounts (t : Text) : Option (Nat × Option Nat × Text) :=
  if t.head? == some '}' then none
  else match readCount t with
    | (least?, '}' :: rest) => some (least?.getD 0, least?, rest)
    | (least?, ',' :: rest) =>
      match readCount rest with
      | (most?, '}' :: rest) => some (least?.getD 0, most?, rest)
      | _ => none
    | _ => none

/-- The repeat that a text starts with: its counts and what follows. -/
def readRepeat? : Text → Option (Nat × Option Nat × Text)
  | '*' :: rest => some (0, none, rest)
  | '+' :: rest => some (1, none, rest)
  | '?' :: rest => some (0, some 1, rest)
  | '{' :: rest => readCounts rest
  | _ => none

/-! ## groups -/

/-- Whether a text names a group: a letter or underscore, then letters, digits and underscores. -/
def isGroupName : Text → Bool
  | [] => false
  | c :: cs => (c.isAlpha || c == '_') && cs.all fun c => c.isAlphanum || c == '_'

/-- Reads what follows the `(` of a group, up to its contents. -/
def readOpening (whole : Nat) : Text → Except Fault Text
  | ['?'] => .error ⟨.unexpectedEnd, whole⟩
  | '?' :: ':' :: rest => .ok rest
  | '?' :: 'P' :: '<' :: rest =>
    let name := rest.takeWhile (· != '>')
    match rest.dropWhile (· != '>') with
    | [] =>
      .error ⟨if name.isEmpty then .missingGroupName else .unterminatedGroupName,
        whole - rest.length⟩
    | _ :: after =>
      if name.isEmpty then .error ⟨.missingGroupName, whole - rest.length⟩
      else if isGroupName name then .ok after
      else .error ⟨.badGroupName name, whole - rest.length⟩
  | ['?', 'P'] => .error ⟨.unexpectedEnd, whole⟩
  | '?' :: 'P' :: c :: rest => .error ⟨.unknownOpening ['?', 'P', c], whole - rest.length - 3⟩
  | '?' :: c :: rest => .error ⟨.unknownOpening ['?', c], whole - rest.length - 2⟩
  | rest => .ok rest

/-- A group that is being read. -/
structure OpenGroup where
  /-- The index of its opening bracket. -/
  start : Nat
  /-- The alternatives read in full. -/
  earlier : Pattern
  /-- The current alternative, less its last item. -/
  front : Pattern
  /-- The last item, and whether it is a repeat. -/
  last? : Option (Pattern × Bool)

namespace OpenGroup

/-- A group with nothing read. -/
def new (start : Nat) : OpenGroup := ⟨start, .fail, .empty, none⟩

/-- The current alternative. -/
def current (g : OpenGroup) : Pattern :=
  match g.last? with
  | none => g.front
  | some (p, _) => g.front.andThen p

/-- The group with an item read. -/
def push (g : OpenGroup) (p : Pattern) : OpenGroup :=
  { g with front := g.current, last? := some (p, false) }

/-- The group with its current alternative ended. -/
def alternate (g : OpenGroup) : OpenGroup :=
  { g with earlier := g.earlier.orElse g.current, front := .empty, last? := none }

/-- The pattern of the whole group. -/
def close (g : OpenGroup) : Pattern := g.alternate.earlier

/-- The group with its last item repeated; `index` is that of the repeat. -/
def repeatLast (g : OpenGroup) (index : Nat) (least : Nat) (most? : Option Nat) :
    Except Fault OpenGroup :=
  match g.last? with
  | none => .error ⟨.nothingToRepeat, index⟩
  | some (_, true) => .error ⟨.repeatOfRepeat, index⟩
  | some (p, false) => .ok { g with last? := some (.times p least most?, true) }

end OpenGroup

/-! ## patterns -/

/-- Reads on inside the groups still open, the innermost first and apart. -/
def readGroups (whole : Nat) :
    (fuel : Nat) → OpenGroup → List OpenGroup → Text → Except Fault Pattern
  | 0, group, _, _ => .ok group.close
  | fuel + 1, group, outer, t =>
    let index := whole - t.length
    match readRepeat? t with
    | some (least, most?, rest) =>
      if most?.any (· < least) then .error ⟨.leastAboveMost, index + 1⟩
      else do
        let group ← group.repeatLast index least most?
        readGroups whole fuel group outer (if rest.head? == some '?' then rest.tail else rest)
    | none =>
      match t, outer with
      | [], [] => .ok group.close
      | [], _ :: _ => .error ⟨.unterminatedGroup, group.start⟩
      | '|' :: rest, _ => readGroups whole fuel group.alternate outer rest
      | ')' :: _, [] => .error ⟨.unbalancedClose, index⟩
      | ')' :: rest, parent :: others =>
        readGroups whole fuel (parent.push group.close) others rest
      | '(' :: rest, _ => do
        let rest ← readOpening whole rest
        readGroups whole fuel (.new index) (group :: outer) rest
      | '[' :: rest, _ => do
        let (s, rest) ← readClass whole index rest
        readGroups whole fuel (group.push (.one s)) outer rest
      | '.' :: rest, _ => readGroups whole fuel (group.push (.one .withinLine)) outer rest
      | t, _ => do
        let (c, _, rest) ← readChar ⟨.unexpectedEnd, index⟩ index t
        readGroups whole fuel (group.push (.one (.just c))) outer rest

/-- Reads a written pattern. -/
def read (written : Text) : Except Fault Pattern :=
  readGroups written.length (written.length + 1) (.new 0) [] written

end TextMacros.Pattern
