import TextMacros.Text.Basic

/-!
# TextMacros.Text.Blank

The blank characters, and trimming them from both ends of a text.

Blank are the white space characters of Unicode together with the four information separators
U+001C to U+001F.  Main statements:

* `isBlank_of_isWhitespace`: every character the core library calls white space is blank;
* `trim_trim`: trimming twice is trimming once.
-/

namespace TextMacros.Text

/-! ## the blank characters -/

/-- The code points of the blank characters, as closed ranges. -/
def blankRanges : List (Nat × Nat) :=
  [(0x09, 0x0d), (0x1c, 0x20), (0x85, 0x85), (0xa0, 0xa0), (0x1680, 0x1680), (0x2000, 0x200a),
    (0x2028, 0x2029), (0x202f, 0x202f), (0x205f, 0x205f), (0x3000, 0x3000)]

/-- Whether a character is blank. -/
def isBlank (c : Char) : Bool := inRanges blankRanges c

theorem isBlank_of_isWhitespace {c : Char} (h : c.isWhitespace) : isBlank c := by
  simp only [Char.isWhitespace, Bool.or_eq_true, decide_eq_true_eq] at h
  rcases h with ((rfl | rfl) | rfl) | rfl <;> decide

/-- Whether a character is white space by the standard: blank, and no information separator. -/
def isWhiteSpace (c : Char) : Bool := isBlank c && !(0x1c ≤ c.toNat && c.toNat ≤ 0x1f)

/-! ## trimming -/

/-- The text without the characters of a class at both ends. -/
def trimClass (p : Char → Bool) (t : Text) : Text :=
  ((t.dropWhile p).reverse.dropWhile p).reverse

/-- The text without its leading blanks. -/
def trimLeft (t : Text) : Text := t.dropWhile isBlank

/-- The text without its trailing blanks. -/
def trimRight (t : Text) : Text := (t.reverse.dropWhile isBlank).reverse

/-- The text without its leading and trailing blanks. -/
def trim (t : Text) : Text := trimRight (trimLeft t)

@[simp] theorem trim_nil : trim [] = [] := rfl

theorem trimLeft_of_head? {t : Text} (h : ∀ c, t.head? = some c → isBlank c = false) :
    trimLeft t = t := by
  cases t with
  | nil => rfl
  | cons c cs => simp [trimLeft, h c rfl]

theorem isBlank_of_head?_trimLeft {t : Text} {c : Char} (h : (trimLeft t).head? = some c) :
    isBlank c = false := by
  have := List.head?_dropWhile_not isBlank t
  simp_all [trimLeft]

theorem trimLeft_cons (c : Char) (t : Text) :
    trimLeft (c :: t) = if isBlank c then trimLeft t else c :: t :=
  List.dropWhile_cons

/-- A character in front is trimmed from the right only if it is blank and all behind it is. -/
theorem trimRight_cons (c : Char) (t : Text) :
    trimRight (c :: t) = if (trimRight t).isEmpty && isBlank c then [] else c :: trimRight t := by
  rw [trimRight, trimRight, List.reverse_cons, List.dropWhile_append, List.isEmpty_reverse]
  cases t.reverse.dropWhile isBlank with
  | nil => cases hc : isBlank c <;> simp [hc]
  | cons d ds => simp

/-- Nothing up to a character that is not blank is trimmed from the right. -/
theorem trimRight_append_cons {c : Char} (hc : isBlank c = false) (s t : Text) :
    trimRight (s ++ c :: t) = s ++ c :: trimRight t := by
  induction s with
  | nil => rw [List.nil_append, trimRight_cons, hc, Bool.and_false, if_neg Bool.false_ne_true]; rfl
  | cons d ds ih =>
    have hne : (ds ++ c :: trimRight t).isEmpty = false := by simp
    rw [List.cons_append, trimRight_cons, ih, hne, Bool.false_and, if_neg Bool.false_ne_true]
    rfl

theorem trimRight_prefix (t : Text) : trimRight t <+: t := by
  have := (List.dropWhile_suffix (l := t.reverse) isBlank).reverse
  simpa [trimRight] using this

@[simp] theorem trimRight_trimRight (t : Text) : trimRight (trimRight t) = trimRight t := by
  have := trimLeft_of_head? (t := trimLeft t.reverse) fun c => isBlank_of_head?_trimLeft
  simpa [trimRight, trimLeft] using this

@[simp] theorem trim_trim (t : Text) : trim (trim t) = trim t := by
  have head : ∀ c, (trim t).head? = some c → isBlank c = false := by
    intro c hc
    obtain ⟨rest, hrest⟩ := trimRight_prefix (trimLeft t)
    refine isBlank_of_head?_trimLeft (t := t) ?_
    rw [← hrest, List.head?_append]
    simp [trim] at hc
    simp [hc]
  rw [trim, trimLeft_of_head? head, trim, trimRight_trimRight]

/-- Nothing is trimmed from a text without blanks. -/
theorem trim_of_forall {t : Text} (h : ∀ c ∈ t, isBlank c = false) : trim t = t := by
  have hright : trimRight t = t := by
    have hrev := trimLeft_of_head? (t := t.reverse) fun c hc =>
      h c (List.mem_reverse.1 (List.mem_of_head? hc))
    rw [trimLeft] at hrev
    rw [trimRight, hrev, List.reverse_reverse]
  rw [trim, trimLeft_of_head? fun c hc => h c (List.mem_of_head? hc), hright]

theorem trimLeft_eq_nil_iff {t : Text} : trimLeft t = [] ↔ ∀ c ∈ t, isBlank c := by
  induction t with
  | nil => simp [trimLeft]
  | cons c cs ih => by_cases hc : isBlank c <;> simp [trimLeft_cons, hc, ih]

theorem trimRight_eq_nil_iff {t : Text} : trimRight t = [] ↔ ∀ c ∈ t, isBlank c := by
  have hright : trimRight t = (trimLeft t.reverse).reverse := rfl
  rw [hright, List.reverse_eq_nil_iff, trimLeft_eq_nil_iff]
  simp

/-- Nothing stays of a text if all of it is blank, and only then. -/
theorem trim_eq_nil_iff {t : Text} : trim t = [] ↔ ∀ c ∈ t, isBlank c := by
  have hleft : trimLeft (trimLeft t) = trimLeft t :=
    trimLeft_of_head? fun c => isBlank_of_head?_trimLeft
  rw [trim, trimRight_eq_nil_iff, ← trimLeft_eq_nil_iff, hleft, trimLeft_eq_nil_iff]

/-- The words of a text: what stands between its blanks. -/
def blankWords (t : Text) : List Text :=
  (t.splitOnP isBlank).filter (!·.isEmpty)

/-- Trimming only takes characters away. -/
theorem trim_sublist (t : Text) : (trim t).Sublist t := by
  have hright := trimRight_prefix (trimLeft t)
  exact hright.sublist.trans (List.dropWhile_sublist isBlank)

theorem length_trim_le (t : Text) : (trim t).length ≤ t.length := (trim_sublist t).length_le

end TextMacros.Text
