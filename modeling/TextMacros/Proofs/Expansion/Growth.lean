import TextMacros.Proofs.Expansion.Bound

/-!
# TextMacros.Proofs.Expansion.Growth

How long a text can get.

A step puts in one text at most, either a value or a default.  A default is cut out of the token
that goes, so only a value can lengthen the text, by its own length at most; and however many
tokens it brings in, the next step deals with one of them.  So the length grows with the number of
steps, and not with the number of tokens laid open:

* `length_replacement_le`: what takes the place of a token is longer by one value at most;
* `Expansion.length_text_le_of_step`, `Expansion.Steps.length_text_le`: so a step makes the text
  longer by one value at most, and a chain of steps by as many as there are steps.

Main statement: `length_text_le_of_values`.
-/

namespace TextMacros

variable {rules : Rules} {e f : Expansion} {steps : List Step} {token : Token} {t r : Text}
  {L : Nat}

/-- Rules by which no value has more than so many characters. -/
def Rules.ValuesWithin (rules : Rules) (L : Nat) : Prop :=
  ∀ name v, rules.value? name = some v → v.length ≤ L

/-! ## one replacement -/

/-- A default is shorter than its token. -/
theorem Token.length_default_lt (h : Token.at? t token.start = some token)
    (hr : token.default? = some r) : r.length < token.stop - token.start := by
  obtain ⟨-, hstop, hlt⟩ := Token.bounds_of_at? h
  have hlength := (Token.default_sublist_of_at? h hr).length_le
  rw [List.length_drop, List.length_take] at hlength
  omega

/-- What is put in is longer than the token by one value at most. -/
theorem length_replacement_le {action : Action} (values : rules.ValuesWithin L)
    (ht : Token.at? t token.start = some token) (hdue : Action.Due rules token action)
    (hr : action = .restart r ∨ action = .splice r) :
    r.length ≤ (token.stop - token.start) + L := by
  cases hdue with
  | skip | leave => simp at hr
  | @restart v name value refers =>
    obtain rfl : token.default?.getD v = r := by simpa using hr
    cases hdefault : token.default? with
    | none => exact Nat.le_add_left_of_le (values _ _ value)
    | some d => exact Nat.le_add_right_of_le (Nat.le_of_lt (Token.length_default_lt ht hdefault))
  | @value v name value refers =>
    obtain rfl : v = r := by simpa using hr
    exact Nat.le_add_left_of_le (values _ _ value)
  | @default v name value default =>
    obtain rfl : v = r := by simpa using hr
    exact Nat.le_add_right_of_le (Nat.le_of_lt (Token.length_default_lt ht default))

/-- The characters of a span go, and those of its replacement come. -/
theorem length_splice {span : Span} (hspan : span.start ≤ span.stop) (hstop : span.stop < t.length)
    (r : Text) :
    (splice t span r).length + (span.stop + 1 - span.start) = t.length + r.length := by
  rw [splice, List.length_append, List.length_append, List.length_take, List.length_drop]
  omega

/-! ## step by step -/

namespace Expansion

/-- A step makes the text longer by one value at most. -/
theorem length_text_le_of_step {s : Step} (values : rules.ValuesWithin L)
    (h : e.step? rules = some (s, f)) : f.text.length ≤ e.text.length + L := by
  obtain ⟨ht, hdue, rfl⟩ := step?_eq_some_iff.1 h
  have hat := Token.at?_of_find? ht
  obtain ⟨-, hstop, hlt⟩ := Token.bounds_of_at? hat
  cases haction : s.action with
  | skip | leave => exact Nat.le_add_right _ _
  | restart r =>
    have hr := length_replacement_le values hat hdue (.inl haction)
    change r.length ≤ e.text.length + L
    omega
  | splice r =>
    have hr := length_replacement_le values hat hdue (.inr haction)
    have hstart : s.token.start ≤ s.token.stop := by omega
    have hlength : (splice e.text s.token.span r).length + (s.token.stop + 1 - s.token.start) =
        e.text.length + r.length := length_splice hstart hlt r
    change (splice e.text s.token.span r).length ≤ e.text.length + L
    omega

/-- A chain of steps makes it longer by as many values as there are steps. -/
theorem Steps.length_text_le (values : rules.ValuesWithin L) (h : Steps rules e steps f) :
    f.text.length ≤ e.text.length + steps.length * L := by
  induction h with
  | nil => exact Nat.le_add_right _ _
  | cons head _ ih =>
    have hstep := length_text_le_of_step values head
    rw [List.length_cons, Nat.succ_mul]
    omega

end Expansion

/-! ## whole expansions -/

/-- **No exponential expansion**: where no value has more than `L` characters, the working text is
longer than the text to be expanded by `c * L` at most after `c` steps.  So a text that comes out
within `m` steps is longer by `m * L` at most, and one at which that bound is exceeded by
`(m + 1) * L`. -/
theorem length_text_le_of_values (values : rules.ValuesWithin L) (text : Text) :
    (∀ steps e, Expansion.Steps rules (.start text) steps e →
      e.text.length ≤ text.length + steps.length * L) ∧
    ∀ m : Nat,
      (∀ r, (expand rules text m).result = .ok r → r.length ≤ text.length + m * L) ∧
      (∀ u, (expand rules text m).result = .error u →
        u.length ≤ text.length + (m + 1) * L) := by
  refine ⟨fun steps e h => h.length_text_le values, fun m => ?_⟩
  obtain ⟨f, hsteps, htext⟩ := exists_steps rules text m
  have hlength := hsteps.length_text_le values
  rw [← htext] at hlength
  have hgrowth : ∀ n : Nat, (expand rules text m).steps.length ≤ n →
      (expand rules text m).text.length ≤ text.length + n * L := by
    intro n hn
    have hmul := Nat.mul_le_mul_right L hn
    exact Nat.le_trans hlength (Nat.add_le_add_left hmul _)
  refine ⟨fun r hr => ?_, fun u hu => ?_⟩
  · obtain ⟨hsettled, rfl⟩ := Run.result_eq_ok_iff.1 hr
    have hsteps := length_steps_le hsettled
    exact Nat.le_trans (length_unescape_le _) (hgrowth m (by omega))
  · obtain ⟨hexceeded, rfl⟩ := Run.result_eq_error_iff.1 hu
    have hsteps := length_steps_of_exceeded hexceeded (Int.natCast_nonneg m)
    exact hgrowth (m + 1) (by omega)

/-- Two names whose values double each other, with a bound that they exceed; and a text that takes
two values with escapes. -/
theorem length_text_le_of_doubling :
    let rules := Rules.ofPairs [(['A'], .ofString "$(B)$(B)"), (['B'], .ofString "$(A)$(A)"),
      (['C'], .ofString "\\$.")]
    let text := Text.ofString "$(A)"
    let doubled := Text.ofString "$(A)$(A)$(B)$(A)$(B)"
    (rules.ValuesWithin 8 ∧
      (expand rules text ((3 : Nat) : Int)).result = .error doubled ∧
      (expand rules (.ofString "$(C)$(C)") ((2 : Nat) : Int)).result = .ok (.ofString "$.$.")) ∧
    (∃ steps e, Expansion.Steps rules (.start text) steps e ∧ e.text = doubled ∧
      e.text.length ≤ text.length + steps.length * 8) ∧
    doubled.length ≤ text.length + (3 + 1) * 8 ∧
    (Text.ofString "$.$.").length ≤ (Text.ofString "$(C)$(C)").length + 2 * 8 := by
  intro rules text doubled
  have values : rules.ValuesWithin 8 := by
    intro name v h
    have hmem := Rules.mem_of_value?_ofPairs h
    simp only [List.mem_cons, Prod.mk.injEq, List.not_mem_nil, or_false] at hmem
    rcases hmem with ⟨-, rfl⟩ | ⟨-, rfl⟩ | ⟨-, rfl⟩ <;> decide
  have hdoubled : (expand rules text ((3 : Nat) : Int)).result = .error doubled :=
    Run.result_eq_error_iff.2 (by decide +kernel)
  have hescaped : (expand rules (.ofString "$(C)$(C)") ((2 : Nat) : Int)).result =
      .ok (.ofString "$.$.") :=
    Run.result_eq_ok_iff.2 (by decide +kernel)
  obtain ⟨e, hsteps, htext⟩ := exists_steps rules text ((3 : Nat) : Int)
  have he : e.text = doubled := htext.symm.trans (Run.result_eq_error_iff.1 hdoubled).2
  obtain ⟨hchain, hbounds⟩ := length_text_le_of_values values text
  obtain ⟨-, hbounds'⟩ := length_text_le_of_values values (.ofString "$(C)$(C)")
  exact ⟨⟨values, hdoubled, hescaped⟩, ⟨_, e, hsteps, he, hchain _ e hsteps⟩,
    (hbounds 3).2 _ hdoubled, (hbounds' 2).1 _ hescaped⟩

end TextMacros
