import TextMacros.Pattern.Reader

/-!
# TextMacros.NamePattern

Which texts are names, unless something else is set: an ASCII letter or underscore, followed by
ASCII letters, digits and underscores.  Main statement: `isMatch_defaultName`, which says so of
the pattern.
-/

namespace TextMacros

/-- The written form of the pattern for names. -/
def defaultNameWritten : Text := .ofString "[A-Za-z_][A-Za-z0-9_]*"

/-- The characters a name starts with. -/
def nameStart : CharClass := ⟨false, [('_', '_'), ('a', 'z'), ('A', 'Z')]⟩

/-- The characters a name goes on with. -/
def nameRest : CharClass := ⟨false, [('_', '_'), ('0', '9'), ('a', 'z'), ('A', 'Z')]⟩

/-- The pattern for names. -/
def defaultName : Pattern := .seq (.one nameStart) (.many nameRest)

/-- The pattern is what its written form reads as. -/
theorem read_defaultNameWritten :
    (Pattern.read defaultNameWritten).toOption = some defaultName := by
  rfl

theorem isMatch_defaultName (t : Text) :
    defaultName.isMatch t = match t with
      | [] => false
      | c :: cs => nameStart.holds c && cs.all nameRest.holds := by
  cases t with
  | nil => rfl
  | cons c cs =>
    by_cases h : nameStart.holds c
    · simpa [defaultName, Pattern.derivative, Pattern.nullable, h, Pattern.andThen]
        using Pattern.isMatch_many nameRest cs
    · simp [defaultName, Pattern.derivative, Pattern.nullable, h, Pattern.andThen]

end TextMacros
