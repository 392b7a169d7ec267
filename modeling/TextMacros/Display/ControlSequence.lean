import TextMacros.Text.Basic

/-!
# TextMacros.Display.ControlSequence

Taking the control sequences of terminals out of a text.

A control sequence starts with an escape and a square bracket; there follow parameter characters,
`0` to `?`, then intermediate ones, space to `/`, and one final character, `@` to `~`.  Main
statement: `withoutSequences_of_noEscape`, by which a text without escapes is left as it is.
-/

namespace TextMacros.Display

/-- Whether a character is one of a range. -/
def isBetween (first last c : Char) : Bool := first ≤ c && c ≤ last

/-- What follows the control sequence that a text starts with. -/
def behindSequence? : Text → Option Text
  | '\x1b' :: '[' :: cs =>
    match (cs.dropWhile (isBetween '0' '?')).dropWhile (isBetween ' ' '/') with
    | c :: rest => if isBetween '@' '~' c then some rest else none
    | [] => none
  | _ => none

theorem length_lt_of_behindSequence? {t rest : Text} (h : behindSequence? t = some rest) :
    rest.length < t.length := by
  unfold behindSequence? at h
  split at h
  · rename_i cs
    split at h
    · rename_i c tail hcs
      have hshort : (c :: tail).length ≤ cs.length :=
        hcs ▸ ((List.dropWhile_suffix _).trans (List.dropWhile_suffix _)).length_le
      split at h
      · cases h
        simp only [List.length_cons] at hshort ⊢
        omega
      · simp at h
    · simp at h
  · simp at h

/-- The text without its control sequences. -/
def withoutSequences : Text → Text
  | [] => []
  | c :: cs =>
    match _h : behindSequence? (c :: cs) with
    | some rest => withoutSequences rest
    | none => c :: withoutSequences cs
  termination_by t => t.length
  decreasing_by
    · exact length_lt_of_behindSequence? (by assumption)
    · simp

theorem behindSequence?_of_noEscape {t : Text} (h : '\x1b' ∉ t) : behindSequence? t = none := by
  unfold behindSequence?
  split
  · simp at h
  · rfl

theorem withoutSequences_of_noEscape {t : Text} (h : '\x1b' ∉ t) : withoutSequences t = t := by
  induction t with
  | nil => simp [withoutSequences]
  | cons c cs ih =>
    have hcs : '\x1b' ∉ cs := fun hm => h (List.mem_cons_of_mem _ hm)
    rw [withoutSequences]
    split
    · rename_i hb
      rw [behindSequence?_of_noEscape h] at hb
      simp at hb
    · rw [ih hcs]

end TextMacros.Display
