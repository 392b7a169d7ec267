import TextMacros.Text.Basic

/-!
# TextMacros.Bracket

Matching brackets.  Two kinds of bracket, round and curly, nest in each other:

```text
group  ::=  opener item* closer            (opener and closer of one kind)
item   ::=  '\' any  |  group  |  other    (other: no backslash, no opener, not this closer)
```

The closer of the other kind is plain text inside a group.  `findClosing` finds the end of the
group that starts at a position, in one pass, with the brackets still open as a list.
-/

namespace TextMacros

/-- The kinds of bracket. -/
inductive Bracket where
  | round
  | curly
  deriving DecidableEq, Repr

namespace Bracket

/-! ## the characters -/

/-- The character that opens a bracket. -/
def opener : Bracket → Char
  | round => '('
  | curly => '{'

/-- The character that closes a bracket. -/
def closer : Bracket → Char
  | round => ')'
  | curly => '}'

/-- The bracket that a character opens. -/
def ofOpener? (c : Char) : Option Bracket :=
  if c = '(' then some round else if c = '{' then some curly else none

/-- The character that makes the next one plain text. -/
def escape : Char := '\\'

@[simp] theorem ofOpener?_opener (b : Bracket) : ofOpener? b.opener = some b := by
  cases b <;> rfl

theorem ofOpener?_eq_some_iff {c : Char} {b : Bracket} : ofOpener? c = some b ↔ c = b.opener := by
  cases b <;> grind [ofOpener?, opener]

theorem opener_ne_escape (b : Bracket) : b.opener ≠ escape := by cases b <;> decide

theorem closer_ne_escape (b : Bracket) : b.closer ≠ escape := by cases b <;> decide

theorem opener_ne_closer (a b : Bracket) : a.opener ≠ b.closer := by
  cases a <;> cases b <;> decide

theorem closer_injective {a b : Bracket} (h : a.closer = b.closer) : a = b := by
  cases a <;> cases b <;> first | rfl | simp [closer] at h

/-! ## the scan -/

/-- Reads on behind an opener: `inner` is the innermost bracket still open, `outer` are the
others from the inside out, and `i` is the index of the first character read.  The answer is the
index at which the outermost of them closes. -/
def scan (inner : Bracket) (outer : List Bracket) (i : Nat) : Text → Option Nat
  | [] => none
  | c :: cs =>
    if c = escape then
      match cs with
      | [] => none
      | _ :: rest => scan inner outer (i + 2) rest
    else if c = inner.closer then
      match outer with
      | [] => some i
      | next :: others => scan next others (i + 1) cs
    else match ofOpener? c with
      | some b => scan b (inner :: outer) (i + 1) cs
      | none => scan inner outer (i + 1) cs

@[simp] theorem scan_nil (inner : Bracket) (outer : List Bracket) (i : Nat) :
    scan inner outer i [] = none := rfl

/-- A backslash at the end escapes nothing and closes nothing. -/
@[simp] theorem scan_escape_nil (inner : Bracket) (outer : List Bracket) (i : Nat) :
    scan inner outer i [escape] = none := by simp [scan]

/-- A backslash and the character behind it are passed over together. -/
@[simp] theorem scan_escape_cons (inner : Bracket) (outer : List Bracket) (i : Nat) (c : Char)
    (cs : Text) : scan inner outer i (escape :: c :: cs) = scan inner outer (i + 2) cs := by
  rw [scan.eq_def]; simp

/-- The last bracket still open closes, and the scan ends. -/
@[simp] theorem scan_closer_nil (inner : Bracket) (i : Nat) (cs : Text) :
    scan inner [] i (inner.closer :: cs) = some i := by
  rw [scan.eq_def]; simp [closer_ne_escape]

/-- The innermost bracket closes, and the scan goes on with the one around it. -/
@[simp] theorem scan_closer_cons (inner next : Bracket) (others : List Bracket) (i : Nat)
    (cs : Text) :
    scan inner (next :: others) i (inner.closer :: cs) = scan next others (i + 1) cs := by
  rw [scan.eq_def]; simp [closer_ne_escape]

/-- A bracket opens inside the innermost one. -/
@[simp] theorem scan_opener (b inner : Bracket) (outer : List Bracket) (i : Nat) (cs : Text) :
    scan inner outer i (b.opener :: cs) = scan b (inner :: outer) (i + 1) cs := by
  rw [scan.eq_def]; simp [opener_ne_escape, opener_ne_closer]

/-- Any other character is passed over. -/
theorem scan_other {inner : Bracket} {c : Char} (he : c ≠ escape) (hc : c ≠ inner.closer)
    (ho : ofOpener? c = none) (outer : List Bracket) (i : Nat) (cs : Text) :
    scan inner outer i (c :: cs) = scan inner outer (i + 1) cs := by
  rw [scan.eq_def]; simp [he, hc, ho]

/-- The index of the character that closes the bracket at a position; `none` if no bracket opens
there or the bracket never closes. -/
def findClosing (text : Text) (position : Int) : Option Nat :=
  if position < 0 then none
  else match text.drop position.toNat with
    | [] => none
    | c :: cs => (ofOpener? c).bind fun b => scan b [] (position.toNat + 1) cs

end Bracket

end TextMacros
