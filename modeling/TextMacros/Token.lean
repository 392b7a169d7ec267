import TextMacros.Text.Blank
import TextMacros.Bracket

/-!
# TextMacros.Token

Macro tokens: `$(NAME)`, `$(NAME=DEFAULT)` and the same with curly brackets.

A `$` starts a token only if the character before it is not a backslash.  That look-back is one
character long, so two backslashes before a `$` escape it too.  A search looks at the first such
`$` only: where that one has no matching bracket behind it, the search finds nothing.  Main
statements:

* `le_of_nextDollar`, `lt_of_nextDollar`: the `$` found lies at or behind the start, in the text;
* `Token.start_of_find?`: a token found starts at the next `$` that is not escaped;
* `length_unescape_le`: removing escapes never lengthens a text.
-/

namespace TextMacros

/-! ## dollars -/

/-- The first `$` that is not escaped, in the text from index `i` on; `escaped` says whether the
character before index `i` is a backslash. -/
def dollarFrom (escaped : Bool) (i : Nat) : Text → Option Nat
  | [] => none
  | c :: cs =>
    if c = '$' && !escaped then some i else dollarFrom (c == Bracket.escape) (i + 1) cs

/-- The index of the first `$` at or behind a position that has no backslash before it. -/
def nextDollar (text : Text) (position : Int) : Option Nat :=
  let start := Text.startIndex text.length position
  dollarFrom (start != 0 && text[start - 1]? == some Bracket.escape) start (text.drop start)

theorem bounds_of_dollarFrom {escaped : Bool} {i j : Nat} {t : Text}
    (h : dollarFrom escaped i t = some j) : i ≤ j ∧ j < i + t.length := by
  induction t generalizing escaped i with
  | nil => simp [dollarFrom] at h
  | cons c cs ih =>
    simp only [dollarFrom] at h
    split at h
    · simp only [Option.some.injEq] at h
      simp [← h]
    · have := ih h
      simp only [List.length_cons]
      omega

theorem lt_of_nextDollar {t : Text} {position : Int} {j : Nat}
    (h : nextDollar t position = some j) : j < t.length := by
  have := bounds_of_dollarFrom h
  simp only [List.length_drop] at this
  omega

theorem le_of_nextDollar {t : Text} {n j : Nat} (h : nextDollar t (n : Int) = some j) : n ≤ j := by
  have := bounds_of_dollarFrom h
  simp only [Text.startIndex_ofNat] at this
  exact this.1

/-- Whether a text has anything to do for the resolver: a `$`, escaped or not. -/
def mayHoldToken (text : Text) : Bool := text.contains '$'

/-- The text with every backslash that stands directly before a `$` removed. -/
def unescape : Text → Text
  | '\\' :: '$' :: cs => '$' :: unescape cs
  | c :: cs => c :: unescape cs
  | [] => []

theorem length_unescape_le (t : Text) : (unescape t).length ≤ t.length := by
  fun_induction unescape t with
  | case1 cs ih => simp only [List.length_cons]; omega
  | case2 c cs _ ih => simp only [List.length_cons]; omega
  | case3 => simp

/-! ## tokens -/

/-- A macro token of a text. -/
structure Token where
  /-- The name between the brackets. -/
  name : Text
  /-- What stands behind the first `=`, if there is one. -/
  default? : Option Text
  /-- The index of the `$`. -/
  start : Nat
  /-- The index of the closing bracket. -/
  stop : Nat
  deriving DecidableEq, Repr

namespace Token

/-- Splits what stands between the brackets at its first `=`.  Both parts are trimmed; a body
without `=` is the name as it stands. -/
def ofBody (start stop : Nat) (body : Text) : Token :=
  match Text.splitAt '=' body with
  | none => ⟨body, none, start, stop⟩
  | some (name, value) => ⟨name.trim, some value.trim, start, stop⟩

/-- The token whose `$` stands at index `start`. -/
def at? (text : Text) (start : Nat) : Option Token :=
  (Bracket.findClosing text (start + 1 : Nat)).map fun stop =>
    ofBody start stop ((text.take stop).drop (start + 2))

/-- The token at the first `$` at or behind a position that is not escaped. -/
def find? (text : Text) (position : Int) : Option Token :=
  (nextDollar text position).bind (at? text)

@[simp] theorem start_ofBody (start stop : Nat) (body : Text) :
    (ofBody start stop body).start = start := by
  simp only [ofBody]; split <;> rfl

@[simp] theorem stop_ofBody (start stop : Nat) (body : Text) :
    (ofBody start stop body).stop = stop := by
  simp only [ofBody]; split <;> rfl

theorem start_of_at? {text : Text} {start : Nat} {token : Token}
    (h : at? text start = some token) : token.start = start := by
  obtain ⟨stop, -, rfl⟩ := Option.map_eq_some_iff.1 h
  simp

theorem start_of_find? {text : Text} {position : Int} {token : Token}
    (h : find? text position = some token) : nextDollar text position = some token.start := by
  obtain ⟨start, hs, ht⟩ := Option.bind_eq_some_iff.1 h
  rw [start_of_at? ht, hs]

/-- The tokens from an offset on: each search goes on two characters behind the last `$`, so
tokens inside a token are found too. -/
def walk (text : Text) (offset : Nat) : List Token :=
  match h : find? text (offset : Int) with
  | none => []
  | some token => token :: walk text (token.start + 2)
termination_by text.length - offset
decreasing_by
  have h₁ := lt_of_nextDollar (start_of_find? h)
  have h₂ := le_of_nextDollar (start_of_find? h)
  omega

end Token

/-! ## replacing a span -/

/-- The closed span of indices that a token takes up. -/
structure Span where
  /-- The first index. -/
  start : Nat
  /-- The last index. -/
  stop : Nat
  deriving DecidableEq, Repr

/-- The ends of a span. -/
inductive Span.End where
  | start
  | stop
  deriving DecidableEq, Repr

/-- The span between two indices; refused with the ends that are negative. -/
def Span.ofInts? (start stop : Int) : Except (List Span.End) Span :=
  let negative := (if start < 0 then [Span.End.start] else []) ++
    (if stop < 0 then [Span.End.stop] else [])
  if negative.isEmpty then .ok ⟨start.toNat, stop.toNat⟩ else .error negative

/-- The span of a token. -/
def Token.span (token : Token) : Span := ⟨token.start, token.stop⟩

/-- The text with a span replaced. -/
def splice (text : Text) (span : Span) (replacement : Text) : Text :=
  text.take span.start ++ replacement ++ text.drop (span.stop + 1)

/-! ## what a search says -/

/-- The answer of a search in a text that may be missing. -/
inductive Decomposition where
  /-- There was no text. -/
  | missing
  /-- The text, in which no token was found. -/
  | plain (text : Text)
  /-- The token found. -/
  | token (token : Token)
  deriving DecidableEq, Repr

/-- Searches a text, if there is one, for its first token at or behind a position. -/
def Decomposition.of (text? : Option Text) (position : Int) : Decomposition :=
  match text? with
  | none => missing
  | some text =>
    match Token.find? text position with
    | none => plain text
    | some found => token found

end TextMacros
