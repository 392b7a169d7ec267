import TextMacros.Json.Basic
import TextMacros.Scope

/-!
# TextMacros.Resolver

Resolving the tokens of texts against one scope, with one bound.

A resolver answers every text: with the resolved text, or with the message of a recursion that
exceeded the bound.  Texts without a `$` are answered without an expansion.  Main statement:

* `Resolver.of?_scope_eq_ok_iff`: there is a resolver for every bound that is not negative.
-/

namespace TextMacros

/-- What is offered as a source of values. -/
inductive Candidate where
  /-- A scope. -/
  | scope (scope : Scope)
  /-- A value in which no name can be looked up. -/
  | value (value : Json)

/-- A scope and the number of steps allowed for a text. -/
structure Resolver where
  /-- Where the values come from. -/
  scope : Scope
  /-- The number of steps allowed. -/
  bound : Nat

/-- Why there is no resolver. -/
inductive Resolver.Refusal where
  /-- What was offered is no scope. -/
  | notScope (value : Json)
  /-- The bound is negative. -/
  | negativeBound

/-- What a resolver says of a text. -/
inductive Resolution where
  /-- The text with its tokens resolved. -/
  | resolved (text : Text)
  /-- The message of a recursion that exceeded the bound. -/
  | failed (message : Text)
  deriving DecidableEq, Repr

namespace Resolution

/-- The text of a resolution; a failed one has none, not even in part. -/
def text : Resolution → Text
  | resolved text => text
  | failed _ => []

/-- The error of a resolution, if it failed. -/
def error? : Resolution → Option Text
  | resolved _ => none
  | failed message => some message

/-- Whether a resolution succeeded. -/
def success : Resolution → Bool
  | resolved _ => true
  | failed _ => false

end Resolution

namespace Resolver

/-- The text of a refusal. -/
def Refusal.message : Refusal → Text
  | notScope value => value.describe ++ .ofString " does not provide lookup(name)"
  | negativeBound => .ofString "max_recursion cannot be negative"

/-- The resolver for a source of values and a bound, of which the source is looked at first. -/
def of? (source : Candidate) (bound : Int) : Except Refusal Resolver :=
  match source with
  | .value value => .error (.notScope value)
  | .scope scope => if bound < 0 then .error .negativeBound else .ok ⟨scope, bound.toNat⟩

theorem of?_scope_eq_ok_iff {scope : Scope} {bound : Int} {r : Resolver} :
    of? (.scope scope) bound = .ok r ↔ 0 ≤ bound ∧ r = ⟨scope, bound.toNat⟩ := by
  by_cases h : bound < 0
  · simp [of?, h, Int.not_le.2 h]
  · simp [of?, h, Int.not_lt.1 h, eq_comm]

/-- The message of a recursion in a text. -/
def recursionMessage (r : Resolver) (text : Text) : Text :=
  TextMacros.recursionMessage text r.scope.describe

/-- The expansion that a text needs: none, if it is missing or holds no `$`. -/
def run? (r : Resolver) (rules : Rules) (text? : Option Text) : Option Run :=
  match text? with
  | some text => if mayHoldToken text then some (expand rules text r.bound) else none
  | none => none

/-- The names asked for while a text is resolved, in order and with repetitions. -/
def lookups (r : Resolver) (rules : Rules) (text? : Option Text) : List Text :=
  match r.run? rules text? with
  | none => []
  | some run => run.lookups

/-- What the resolver says of a text; a missing text counts as empty. -/
def resolve (r : Resolver) (rules : Rules) (text? : Option Text) : Resolution :=
  match r.run? rules text? with
  | none => .resolved (text?.getD [])
  | some run =>
    match run.result with
    | .ok text => .resolved text
    | .error text => .failed (r.recursionMessage text)

/-- What is reported of resolving a text. -/
def reports (r : Resolver) (rules : Rules) (text? : Option Text) : List Text :=
  match r.run? rules text? with
  | none => []
  | some run =>
    run.messages r.bound ++
      match run.result with
      | .ok _ => []
      | .error text => [.ofString "Error in parse: " ++ r.recursionMessage text]

end Resolver

end TextMacros
