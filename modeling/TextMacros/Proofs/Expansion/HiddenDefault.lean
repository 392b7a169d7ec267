import TextMacros.Proofs.Expansion.Concatenation
import TextMacros.Proofs.Expansion.NamedToken

/-!
# TextMacros.Proofs.Expansion.HiddenDefault

The default of a token whose name has a value is never seen.

While the text in front of the token is expanded, the default stands in the text behind; it is
part of no token found there, since these are found without it.  The first step behind that text
is made at the token and puts the value in its place, so from then on the default is gone
(`expand_defined`).  What is left does not depend on it, nor on the kind of brackets.  Main
statement: `expand_eq_of_defined`.
-/

namespace TextMacros

variable {value? : Text → Option Text} {steps : List Step} {a a' v : Text} {n m : Int}

/-- Behind a text that settles as an inert one, a token of a name with a value makes way for it,
with the first step behind the steps of that text. -/
theorem expand_defined {w : NamedToken}
    (first : expand ⟨value?, defaultName.isMatch⟩ a n = ⟨steps, a', .settled⟩) (inert : Inert a')
    (noRestart : NoRestart steps) (value : value? w.1.name = some v)
    (noSelf : refersTo w.1.name v = false) (enough : steps.length ≤ m) (b : Text) :
    expand ⟨value?, defaultName.isMatch⟩ (a ++ w.1.text ++ b) m =
      (((Expansion.start (a' ++ (v ++ b))).run ⟨value?, defaultName.isMatch⟩
        (m - steps.length).toNat).cons ⟨w.1.token.shift a'.length, .splice v⟩).after steps := by
  obtain ⟨f, hsteps, htext, -⟩ := steps_of_settled (by rw [first])
  rw [first] at hsteps htext
  obtain rfl : a' = f.text := htext
  -- the steps of `a` are made with the token and `b` behind it
  have hfront : Expansion.Steps ⟨value?, defaultName.isMatch⟩ (.start (a ++ w.1.text ++ b)) steps
      (f.followedBy (w.1.text ++ b)) := by
    rw [List.append_assoc]
    exact hsteps.followedBy noRestart (w.1.text ++ b)
  -- and the next one is made at the token
  have hput : w.put? value? = some v := by rw [NamedToken.put?, value, Option.some_or]
  have hinert : InertFrom f.offset f.text := inert.inertFrom (hsteps.offset_le (Nat.zero_le _))
  have hstep : (f.followedBy (w.1.text ++ b)).step? ⟨value?, defaultName.isMatch⟩ =
      some (⟨w.1.token.shift f.text.length, .splice v⟩, .start (f.text ++ (v ++ b))) :=
    NamedToken.step?_splice hinert hput noSelf b
  have hbudget : (m - steps.length + 1).toNat = (m - steps.length).toNat + 1 := by omega
  rw [expand_of_steps hfront enough, hbudget, Expansion.run_of_step?_eq_some hstep]

/-- **Defaults of defined names are never evaluated**: let a text settle as an inert one, without a
step that restarts, and let a name have a value that does not refer to it.  Then any two tokens of
that name behind the text, with whatever defaults or none, lead to the same names asked for, in
the same order, and to the same text or the same text of an exceeded bound, whatever follows. -/
theorem expand_eq_of_defined {X Y : NamedToken} {name : Text}
    (first : expand ⟨value?, defaultName.isMatch⟩ a n = ⟨steps, a', .settled⟩) (inert : Inert a')
    (noRestart : ∀ s ∈ steps, ∀ r, s.action ≠ .restart r) (bearsX : X.1.name = name)
    (bearsY : Y.1.name = name) (value : value? name = some v) (noSelf : refersTo name v = false)
    (enough : steps.length ≤ m) (b : Text) :
    (expand ⟨value?, defaultName.isMatch⟩ (a ++ X.1.text ++ b) m).lookups =
        (expand ⟨value?, defaultName.isMatch⟩ (a ++ Y.1.text ++ b) m).lookups ∧
      (expand ⟨value?, defaultName.isMatch⟩ (a ++ X.1.text ++ b) m).result =
        (expand ⟨value?, defaultName.isMatch⟩ (a ++ Y.1.text ++ b) m).result := by
  subst bearsX
  have hX := expand_defined first inert noRestart value noSelf enough b
  rw [← bearsY] at value noSelf
  have hY := expand_defined first inert noRestart value noSelf enough b
  rw [hX, hY, Run.lookups_after, Run.lookups_after, Run.lookups_cons rfl, Run.lookups_cons rfl]
  exact ⟨by simp [bearsY], rfl⟩

/-- A default that holds a token of a name that refers to itself and an escaped closer, against no
default in brackets of the other kind; in front an escaped dollar and a token, behind a token
without a value.  Once the bound is enough, and once it is not. -/
theorem expand_eq_of_defined_of_selfReference :
    let rules := Rules.ofPairs
      [(['A'], ['x']), (['B'], .ofString "<$(A)>"), (['S'], .ofString "$(S)")]
    let X : NamedToken :=
      ⟨⟨.round, ['B'], some (.ofString "$(S)\\)"), by decide, by decide +kernel⟩, by decide⟩
    let Y : NamedToken := ⟨⟨.curly, ['B'], none, by decide, by decide +kernel⟩, by decide⟩
    let a := Text.ofString "\\$$(A)"
    let steps : List Step := [⟨⟨['A'], none, 2, 5⟩, .splice ['x']⟩]
    let b := Text.ofString "$(D)"
    (a ++ X.1.text ++ b = .ofString "\\$$(A)$(B=$(S)\\))$(D)" ∧
      expand rules a 1 = ⟨steps, .ofString "\\$x", .settled⟩ ∧ Inert (.ofString "\\$x") ∧
      (∀ s ∈ steps, ∀ r, s.action ≠ .restart r) ∧
      rules.value? ['B'] = some (.ofString "<$(A)>") ∧
      refersTo ['B'] (.ofString "<$(A)>") = false) ∧
    (∀ m : Int, 1 ≤ m →
      (expand rules (a ++ X.1.text ++ b) m).lookups =
          (expand rules (a ++ Y.1.text ++ b) m).lookups ∧
        (expand rules (a ++ X.1.text ++ b) m).result =
          (expand rules (a ++ Y.1.text ++ b) m).result) ∧
    (expand rules (a ++ Y.1.text ++ b) 4).result = .ok (.ofString "$x<x>$(D)") ∧
    (expand rules (a ++ Y.1.text ++ b) 2).result = .error (.ofString "\\$x<x>$(D)") := by
  intro rules X Y a steps b
  have first : expand rules a 1 = ⟨steps, .ofString "\\$x", .settled⟩ := by decide +kernel
  have inert : Inert (.ofString "\\$x") := by decide +kernel
  have noRestart : ∀ s ∈ steps, ∀ r, s.action ≠ .restart r := by simp [steps]
  have bearsX : X.1.name = ['B'] := rfl
  have bearsY : Y.1.name = ['B'] := rfl
  have value : rules.value? ['B'] = some (.ofString "<$(A)>") := rfl
  have noSelf : refersTo ['B'] (.ofString "<$(A)>") = false := by decide +kernel
  refine ⟨⟨by decide +kernel, first, inert, noRestart, value, noSelf⟩, fun m hm => ?_, ?_, ?_⟩
  · exact expand_eq_of_defined first inert noRestart bearsX bearsY value noSelf hm b
  · exact Run.result_eq_ok_iff.2 (by decide +kernel)
  · exact Run.result_eq_error_iff.2 (by decide +kernel)

end TextMacros
