import TextMacros.Display.Emoji.Table
import TextMacros.Text.Blank
import TextMacros.Text.LowerCase

/-!
# TextMacros.Display.Emoji.Codes

Codes for emoji in a text.

A code is the name of an emoji between two colons, in any case.  Behind the name, `-emoji` and
`-text` ask for the variant in colour and the one that looks like a letter.  A code without an
emoji is left as it stands, and its second colon starts no other code.  Main statement:
`showCodes_of_noColon`, by which a text without colons is left as it is.
-/

namespace TextMacros.Display.Emoji

/-- How an emoji is to look. -/
inductive Variant where
  /-- As it comes. -/
  | plain
  /-- In colour. -/
  | colour
  /-- Like a letter. -/
  | letter
  deriving DecidableEq, Repr

/-- What stands behind an emoji to ask for a variant. -/
def Variant.selector : Variant → Text
  | plain => []
  | colour => ['\ufe0f']
  | letter => ['\ufe0e']

/-- The name in the inside of a code, and the variant asked for. -/
def cutVariant (inside : Text) : Text × Variant :=
  let ends (suffix : String) : Bool := (Text.ofString suffix).isSuffixOf inside
  let without (suffix : String) : Text := inside.take (inside.length - suffix.length)
  if ends "-emoji" then (without "-emoji", .colour)
  else if ends "-text" then (without "-text", .letter)
  else (inside, .plain)

/-- What is shown for the inside of a code. -/
def shown (inside : Text) : Text :=
  let (name, variant) := cutVariant inside
  match table.lookup name.lowerCase with
  | some emoji => emoji ++ variant.selector
  | none => ':' :: inside ++ [':']

/-- The inside of the code that a text starts with behind its first colon, and what follows the
code. -/
def cutCode? (t : Text) : Option (Text × Text) :=
  match Text.splitAt ':' t with
  | some (inside, rest) => if inside.any Text.isBlank then none else some (inside, rest)
  | none => none

theorem length_lt_of_cutCode? {t inside rest : Text} (h : cutCode? t = some (inside, rest)) :
    rest.length < t.length := by
  unfold cutCode? at h
  split at h
  · rename_i hs
    split at h
    · simp at h
    · cases h
      rw [Text.eq_append_of_splitAt hs]
      simp only [List.length_append, List.length_cons]
      omega
  · simp at h

/-- A text with its codes shown. -/
def showCodes : Text → Text
  | [] => []
  | c :: cs =>
    match _h : (if c = ':' then cutCode? cs else none) with
    | some (inside, rest) => shown inside ++ showCodes rest
    | none => c :: showCodes cs
  termination_by t => t.length
  decreasing_by
    · have hcut : cutCode? cs = some (inside, rest) := by
        revert _h; split <;> simp_all
      have := length_lt_of_cutCode? hcut
      simp only [List.length_cons]
      omega
    · simp

theorem showCodes_of_noColon {t : Text} (h : ':' ∉ t) : showCodes t = t := by
  induction t with
  | nil => simp [showCodes]
  | cons c cs ih =>
    have hc : c ≠ ':' := fun hc => h (hc ▸ List.mem_cons_self)
    rw [showCodes]
    split
    · rename_i hs
      simp [hc] at hs
    · rw [ih fun hm => h (List.mem_cons_of_mem _ hm)]

end TextMacros.Display.Emoji
