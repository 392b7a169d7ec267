import TextMacros.Proofs.Expansion.Resumption

/-!
# TextMacros.Proofs.Expansion.Idempotence

Expanding what an expansion has settled with.

A settled expansion has come to an offset behind which no token is left.  A fresh expansion of its
text makes its way back to that offset and settles there.  It passes tokens over and does nothing
else, and it takes no more steps than the first one did, so the same bound is enough
(`expand_text_of_settled`).

What an expansion yields is that text without its escapes.  If it has none, which is so if no
backslash comes in with the text or with a value (`notMem_text_expand`), the answer is expanded to
itself.  Main statement: `expand_idempotent`.
-/

namespace TextMacros

variable {rules : Rules} {e f : Expansion} {text : Text} {bound : Int} {c : Char}

/-! ## expanding the text again -/

/-- Expanded again, the text that a settled expansion ends with settles as it is, and all that
happens is that tokens are passed over. -/
theorem expand_text_of_settled (settled : (expand rules text bound).ending = .settled) :
    ∃ back, expand rules (expand rules text bound).text bound =
        ⟨back, (expand rules text bound).text, .settled⟩ ∧
      ∀ s ∈ back, s.action = .skip ∨ s.action = .leave := by
  obtain ⟨f, hsteps, htext, hnone⟩ := steps_of_settled settled
  obtain ⟨back, hback, hle⟩ := hsteps.exists_wayBack (.start rules text)
  rw [List.length_nil, Nat.zero_add] at hle
  have hbound : (back.length : Int) ≤ bound := by
    have hlength := length_steps_le settled
    omega
  rw [htext]
  exact ⟨back, expand_of_steps_settled hback.steps hnone hbound, hback.passes⟩

/-! ## characters that do not come in -/

/-- A character that stands neither in the text nor in a value does not come in with a step. -/
theorem notMem_of_step (values : ∀ name v, rules.value? name = some v → c ∉ v) {s : Step}
    (h : e.step? rules = some (s, f)) (he : c ∉ e.text) : c ∉ f.text := by
  obtain ⟨hfind, hdue, rfl⟩ := Expansion.step?_eq_some_iff.1 h
  have hdefault : ∀ v, s.token.default? = some v → c ∉ v := fun v =>
    Token.notMem_default (Token.at?_of_find? hfind) he
  generalize s.action = action at hdue
  cases hdue with
  | skip | leave => exact he
  | restart _ value _ =>
    cases hd : s.token.default? with
    | none => exact values _ _ value
    | some d => exact hdefault d hd
  | value _ value _ => exact notMem_splice he (values _ _ value) _
  | default _ _ default => exact notMem_splice he (hdefault _ default) _

/-- Nor does it with an expansion. -/
theorem notMem_text_expand (values : ∀ name v, rules.value? name = some v → c ∉ v)
    (ht : c ∉ text) : c ∉ (expand rules text bound).text := by
  obtain ⟨f, hsteps, htext⟩ := exists_steps rules text bound
  have hf : c ∉ f.text :=
    hsteps.induct (P := fun e => c ∉ e.text) (fun _ _ _ h => notMem_of_step values h) ht
  rwa [← htext] at hf

/-! ## idempotence -/

/-- **Idempotence**: expanding the text that an expansion has settled with, before its escapes are
removed, settles within the same bound, changes nothing and puts nothing in.  So if no dollar of
that text is escaped, and in particular if neither the text nor a value holds a backslash, the
answer of the expansion is expanded to itself. -/
theorem expand_idempotent {u r : Text} (ok : (expand rules text bound).result = .ok r)
    (last : (expand rules text bound).text = u) :
    ((expand rules u bound).ending = .settled ∧ (expand rules u bound).text = u ∧
      ∀ s ∈ (expand rules u bound).steps, s.action = .skip ∨ s.action = .leave) ∧
    ((∀ i, ¬ EscapedAt u i) → (expand rules r bound).result = .ok r) ∧
    (Bracket.escape ∉ text → (∀ name v, rules.value? name = some v → Bracket.escape ∉ v) →
      (expand rules r bound).result = .ok r) := by
  obtain ⟨settled, hr⟩ := Run.result_eq_ok_iff.1 ok
  obtain ⟨back, hback, hpasses⟩ := expand_text_of_settled settled
  rw [last] at hr hback
  have hanswer : (∀ i, ¬ EscapedAt u i) → (expand rules r bound).result = .ok r := by
    intro hescaped
    have hru : r = u := hr.symm.trans (unescape_of_noEscaped hescaped)
    rw [hru, hback]
    exact Run.result_eq_ok_iff.2 ⟨rfl, unescape_of_noEscaped hescaped⟩
  refine ⟨?_, hanswer, fun htext values => hanswer fun i hi => ?_⟩
  · rw [hback]
    exact ⟨rfl, rfl, hpasses⟩
  · have hescape : Bracket.escape ∉ (expand rules text bound).text :=
      notMem_text_expand values htext
    rw [last] at hescape
    exact hescape (List.mem_of_getElem? hi.2.2)

/-- A text with an escaped dollar, one with a backslash that escapes none, and one without; each
holds a token whose value brings one in that is no name, and the bounds allow no step more. -/
theorem expand_idempotent_of_skipped :
    let rules := Rules.ofPairs [(['A'], .ofString "<$(1)>")]
    let escaped := Text.ofString "\\$(A)$(A)$(B)"
    let u := Text.ofString "\\$(A)<$(1)>$(B)"
    let backslash := Text.ofString "\\n$(A)"
    let plain := Text.ofString "$(B=$(A))$(B)"
    ((expand rules escaped 3).result = .ok (.ofString "$(A)<$(1)>$(B)") ∧
      (expand rules escaped 3).text = u) ∧
    ((expand rules u 3).ending = .settled ∧ (expand rules u 3).text = u ∧
      ∀ s ∈ (expand rules u 3).steps, s.action = .skip ∨ s.action = .leave) ∧
    ((expand rules backslash 2).result = .ok (.ofString "\\n<$(1)>") ∧
      (expand rules (.ofString "\\n<$(1)>") 2).result = .ok (.ofString "\\n<$(1)>")) ∧
    ((expand rules plain 4).result = .ok (.ofString "<$(1)>$(B)") ∧
      Bracket.escape ∉ plain ∧ (∀ name v, rules.value? name = some v → Bracket.escape ∉ v) ∧
      (expand rules (.ofString "<$(1)>$(B)") 4).result = .ok (.ofString "<$(1)>$(B)")) := by
  intro rules escaped u backslash plain
  have hescaped : (expand rules escaped 3).result = .ok (.ofString "$(A)<$(1)>$(B)") :=
    Run.result_eq_ok_iff.2 (by decide +kernel)
  have hbackslash : (expand rules backslash 2).result = .ok (.ofString "\\n<$(1)>") :=
    Run.result_eq_ok_iff.2 (by decide +kernel)
  have hplain : (expand rules plain 4).result = .ok (.ofString "<$(1)>$(B)") :=
    Run.result_eq_ok_iff.2 (by decide +kernel)
  have hu : (expand rules escaped 3).text = u := by decide +kernel
  have hnone : ∀ i, ¬ EscapedAt (.ofString "\\n<$(1)>") i := by
    intro i hi
    have hall : ∀ i < 8, ¬ EscapedAt (.ofString "\\n<$(1)>") i := by decide +kernel
    exact hall i hi.lt_length hi
  have hvalues : ∀ name v, rules.value? name = some v → Bracket.escape ∉ v := by
    intro name v hv
    have hall : ∀ p ∈ [(['A'], Text.ofString "<$(1)>")], Bracket.escape ∉ p.2 := by
      decide +kernel
    exact hall (name, v) (Rules.mem_of_value?_ofPairs hv)
  have hfree : Bracket.escape ∉ plain := by decide +kernel
  obtain ⟨hagain, -, -⟩ := expand_idempotent hescaped hu
  obtain ⟨-, hsame, -⟩ := expand_idempotent (u := .ofString "\\n<$(1)>") hbackslash
    (by decide +kernel)
  obtain ⟨-, -, hfreely⟩ := expand_idempotent hplain rfl
  exact ⟨⟨hescaped, hu⟩, hagain, ⟨hbackslash, hsame hnone⟩, hplain, hfree, hvalues,
    hfreely hfree hvalues⟩

end TextMacros
