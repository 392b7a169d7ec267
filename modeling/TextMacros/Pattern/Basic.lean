import TextMacros.Text.Basic

/-!
# TextMacros.Pattern.Basic

Patterns for names, and matching a whole text against one.

A pattern is matched by taking its derivative after each character: the pattern of what may
follow.  A text matches if the last derivative admits the empty text.  Main statements:

* `isMatch_one`: a class of characters matches its characters and nothing longer or shorter;
* `isMatch_many`: any number of characters of a class match the texts that hold no other.
-/

namespace TextMacros

/-! ## classes of characters -/

/-- A class of characters: those in one of the closed ranges, or those in none. -/
structure CharClass where
  /-- Whether the class holds the characters outside the ranges. -/
  negated : Bool
  /-- The closed ranges. -/
  ranges : List (Char × Char)
  deriving DecidableEq, Repr

namespace CharClass

/-- Whether a character is in a class. -/
def holds (s : CharClass) (c : Char) : Bool :=
  (s.ranges.any fun r => r.1 ≤ c && c ≤ r.2) != s.negated

/-- The class of one character. -/
def just (c : Char) : CharClass := ⟨false, [(c, c)]⟩

/-- Every character but the line feed. -/
def withinLine : CharClass := ⟨true, [('\n', '\n')]⟩

@[simp] theorem holds_just (a c : Char) : (just a).holds c = (c == a) := by
  have : a ≤ c ∧ c ≤ a ↔ c = a := ⟨fun h => Char.le_antisymm h.2 h.1, fun h => by simp [h]⟩
  rw [Bool.eq_iff_iff]
  simp [holds, just, this]

end CharClass

/-! ## patterns -/

/-- A pattern. -/
inductive Pattern where
  /-- Matches no text. -/
  | fail
  /-- Matches the empty text. -/
  | empty
  /-- Matches one character of a class. -/
  | one (s : CharClass)
  /-- Matches what the first matches, followed by what the second matches. -/
  | seq (p q : Pattern)
  /-- Matches what one of the two matches. -/
  | alt (p q : Pattern)
  /-- Matches so many repetitions at least, and so many at most, if there is a most. -/
  | times (p : Pattern) (least : Nat) (most? : Option Nat)
  deriving DecidableEq, Repr

namespace Pattern

/-- Whether a pattern matches the empty text. -/
def nullable : Pattern → Bool
  | fail | one _ => false
  | empty => true
  | seq p q => p.nullable && q.nullable
  | alt p q => p.nullable || q.nullable
  | times p least _ => least == 0 || p.nullable

/-- One pattern after another, without the parts that add nothing. -/
def andThen : Pattern → Pattern → Pattern
  | fail, _ => fail
  | empty, q => q
  | p, q => seq p q

/-- One pattern or another, without the parts that match nothing. -/
def orElse : Pattern → Pattern → Pattern
  | fail, q => q
  | p, fail => p
  | p, q => alt p q

/-- The pattern of what may follow a character. -/
def derivative (c : Char) : Pattern → Pattern
  | fail | empty => fail
  | one s => if s.holds c then empty else fail
  | seq p q =>
    let first := (p.derivative c).andThen q
    if p.nullable then first.orElse (q.derivative c) else first
  | alt p q => (p.derivative c).orElse (q.derivative c)
  | times p least most? =>
    if most? = some 0 then fail
    else (p.derivative c).andThen (times p (least - 1) (most?.map (· - 1)))

/-- Whether a pattern matches a whole text. -/
def isMatch : Pattern → Text → Bool
  | p, [] => p.nullable
  | p, c :: cs => (p.derivative c).isMatch cs

@[simp] theorem isMatch_nil (p : Pattern) : p.isMatch [] = p.nullable := rfl

@[simp] theorem isMatch_cons (p : Pattern) (c : Char) (cs : Text) :
    p.isMatch (c :: cs) = (p.derivative c).isMatch cs := rfl

@[simp] theorem isMatch_fail (t : Text) : fail.isMatch t = false := by
  induction t with
  | nil => rfl
  | cons c cs ih => simpa [derivative] using ih

@[simp] theorem isMatch_empty (t : Text) : empty.isMatch t = t.isEmpty := by
  cases t <;> simp [derivative, nullable]

theorem isMatch_one (s : CharClass) (t : Text) :
    (one s).isMatch t = match t with | [c] => s.holds c | _ => false := by
  match t with
  | [] => rfl
  | [c] => by_cases h : s.holds c <;> simp [derivative, h, nullable]
  | c :: d :: cs => by_cases h : s.holds c <;> simp [derivative, h]

/-- Any number of characters of a class. -/
def many (s : CharClass) : Pattern := times (one s) 0 none

theorem isMatch_many (s : CharClass) (t : Text) : (many s).isMatch t = t.all s.holds := by
  induction t with
  | nil => rfl
  | cons c cs ih =>
    by_cases h : s.holds c
    · simpa [many, derivative, h, andThen] using ih
    · simp [many, derivative, h, andThen]

end Pattern

end TextMacros
