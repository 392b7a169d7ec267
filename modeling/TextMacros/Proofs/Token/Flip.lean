import TextMacros.Token

/-!
# TextMacros.Proofs.Token.Flip

Exchanging the two kinds of bracket.

`Text.flip` puts a curly bracket for every round one of a text, and a round one for every curly
one.  Done twice it changes nothing.  It moves no character, and leaves alone whatever else is
looked for in a text: dollars, backslashes, separators and blanks.  Matching treats the two kinds
alike, so whatever is nested, escaped or left open, in the flipped text

* `findClosing_flip`: each bracket is closed at the same index;
* `nextDollar_flip`: the same dollars are escaped;
* `find?_flip`: the same tokens are found, with their names and defaults flipped;
* `splice_flip`, `unescape_flip`: replacing a span and removing escapes give the flipped result.
-/

namespace TextMacros

/-! ## characters -/

/-- The other kind of bracket. -/
def Bracket.flip : Bracket → Bracket
  | round => curly
  | curly => round

/-- The bracket of the other kind for a bracket, and any other character as it is. -/
def flipChar (c : Char) : Char :=
  if c = '(' then '{' else if c = '{' then '(' else if c = ')' then '}' else if c = '}' then ')'
  else c

@[simp] theorem flipChar_flipChar (c : Char) : flipChar (flipChar c) = c := by
  grind [flipChar]

@[simp] theorem flipChar_opener (b : Bracket) : flipChar b.opener = b.flip.opener := by
  cases b <;> rfl

@[simp] theorem flipChar_closer (b : Bracket) : flipChar b.closer = b.flip.closer := by
  cases b <;> rfl

@[simp] theorem flipChar_escape : flipChar Bracket.escape = Bracket.escape := rfl

theorem flipChar_dollar : flipChar '$' = '$' := rfl

/-- Only a character itself becomes one that is left alone. -/
theorem flipChar_eq_iff {c d : Char} (hd : flipChar d = d) : flipChar c = d ↔ c = d := by
  constructor
  · rintro rfl
    rw [← hd, flipChar_flipChar]
  · rintro rfl
    exact hd

theorem flipChar_of_notMem {c : Char} (h : c ∉ ['(', '{', ')', '}']) : flipChar c = c := by
  simp only [List.mem_cons, List.not_mem_nil, or_false, not_or] at h
  obtain ⟨h₁, h₂, h₃, h₄⟩ := h
  rw [flipChar, if_neg h₁, if_neg h₂, if_neg h₃, if_neg h₄]

theorem isBlank_flipChar (c : Char) : Text.isBlank (flipChar c) = Text.isBlank c := by
  by_cases hc : c ∈ ['(', '{', ')', '}']
  · simp only [List.mem_cons, List.not_mem_nil, or_false] at hc
    rcases hc with rfl | rfl | rfl | rfl <;> decide
  · rw [flipChar_of_notMem hc]

/-! ## texts -/

namespace Text

/-- The text with each bracket exchanged for the one of the other kind. -/
def flip (t : Text) : Text := t.map flipChar

@[simp] theorem flip_nil : flip [] = [] := rfl

@[simp] theorem flip_cons (c : Char) (t : Text) : flip (c :: t) = flipChar c :: flip t := rfl

@[simp] theorem flip_append (s t : Text) : flip (s ++ t) = flip s ++ flip t := List.map_append

@[simp] theorem flip_flip (t : Text) : flip (flip t) = t := by
  induction t with
  | nil => rfl
  | cons c cs ih => rw [flip_cons, flip_cons, flipChar_flipChar, ih]

theorem flip_inj {s t : Text} : flip s = flip t ↔ s = t := by
  constructor
  · intro h
    rw [← flip_flip s, h, flip_flip]
  · rintro rfl
    rfl

theorem flip_eq_iff {s t : Text} (ht : flip t = t) : flip s = t ↔ s = t := by
  constructor
  · intro h
    exact flip_inj.1 (h.trans ht.symm)
  · rintro rfl
    exact ht

/-- A text without brackets stays as it is. -/
theorem flip_of_forall {t : Text} (h : ∀ c ∈ t, flipChar c = c) : flip t = t :=
  (List.map_congr_left h).trans (List.map_id _)

@[simp] theorem length_flip (t : Text) : (flip t).length = t.length := List.length_map _

theorem take_flip (t : Text) (n : Nat) : (flip t).take n = flip (t.take n) := List.map_take.symm

theorem drop_flip (t : Text) (n : Nat) : (flip t).drop n = flip (t.drop n) := List.map_drop.symm

theorem trimLeft_flip (t : Text) : trimLeft (flip t) = flip (trimLeft t) := by
  induction t with
  | nil => rfl
  | cons c cs ih =>
    rw [flip_cons, trimLeft_cons, trimLeft_cons, isBlank_flipChar, ih]
    split <;> rfl

/-- Trimming from the right is trimming the reversed text from the left. -/
theorem trimRight_flip (t : Text) : trimRight (flip t) = flip (trimRight t) := by
  have hleft := trimLeft_flip t.reverse
  simp only [trimLeft, flip] at hleft
  simp only [trimRight, flip, ← List.map_reverse, hleft]

theorem trim_flip (t : Text) : trim (flip t) = flip (trim t) := by
  rw [trim, trim, trimLeft_flip, trimRight_flip]

/-- The text is cut at the same place. -/
theorem splitAt_flip {sep : Char} (hsep : flipChar sep = sep) (t : Text) :
    splitAt sep (flip t) = (splitAt sep t).map fun p => (flip p.1, flip p.2) := by
  induction t with
  | nil => rfl
  | cons c cs ih =>
    rw [flip_cons, splitAt, splitAt, ih]
    by_cases hc : c = sep
    · simp [hc, hsep]
    · simp [hc, flipChar_eq_iff hsep, Function.comp_def]

end Text

/-! ## matching -/

namespace Bracket

theorem ofOpener?_flipChar (c : Char) : ofOpener? (flipChar c) = (ofOpener? c).map flip := by
  cases ho : ofOpener? c with
  | some b =>
    obtain rfl := ofOpener?_eq_some_iff.1 ho
    rw [flipChar_opener, ofOpener?_opener, Option.map_some]
  | none =>
    rw [Option.map_none, Option.eq_none_iff_forall_ne_some]
    intro b hb
    have hc : c = b.flip.opener := by
      rw [← flipChar_flipChar c, ofOpener?_eq_some_iff.1 hb, flipChar_opener]
    rw [hc, ofOpener?_opener] at ho
    contradiction

/-- The scan goes through the flipped text in the same way. -/
theorem scan_flip (inner : Bracket) (outer : List Bracket) (i : Nat) (t : Text) :
    scan inner.flip (outer.map flip) i t.flip = scan inner outer i t := by
  fun_induction scan inner outer i t with
  | case1 => rfl
  | case2 => simp
  | case3 inner outer i c cs ih => simpa using ih
  | case4 inner i cs => simp
  | case5 inner i cs next others _ ih => simpa using ih
  | case6 inner outer i c cs he hc b hb ih =>
    obtain rfl := ofOpener?_eq_some_iff.1 hb
    simpa using ih
  | case7 inner outer i c cs he hc ho ih =>
    have he' : flipChar c ≠ escape := mt (flipChar_eq_iff flipChar_escape).1 he
    have hc' : flipChar c ≠ inner.flip.closer := by
      intro h
      apply hc
      rw [← flipChar_flipChar c, h, ← flipChar_closer, flipChar_flipChar]
    have ho' : ofOpener? (flipChar c) = none := by rw [ofOpener?_flipChar, ho, Option.map_none]
    rw [Text.flip_cons, scan_other he' hc' ho', ih]

/-- **Both kinds match alike**: the bracket at a position is closed at the same index. -/
theorem findClosing_flip (t : Text) (position : Int) :
    findClosing t.flip position = findClosing t position := by
  unfold findClosing
  split
  · rfl
  · rw [Text.drop_flip]
    cases t.drop position.toNat with
    | nil => rfl
    | cons c cs =>
      simp only [Text.flip_cons, ofOpener?_flipChar]
      cases ofOpener? c with
      | none => rfl
      | some b => exact scan_flip b [] (position.toNat + 1) cs

end Bracket

/-! ## dollars -/

theorem dollarFrom_flip (escaped : Bool) (i : Nat) (t : Text) :
    dollarFrom escaped i t.flip = dollarFrom escaped i t := by
  induction t generalizing escaped i with
  | nil => rfl
  | cons c cs ih =>
    have hescape : (flipChar c == Bracket.escape) = (c == Bracket.escape) := by
      rw [Bool.eq_iff_iff, beq_iff_eq, beq_iff_eq, flipChar_eq_iff flipChar_escape]
    simp only [Text.flip_cons, dollarFrom, flipChar_eq_iff flipChar_dollar, hescape, ih]

theorem nextDollar_flip (t : Text) (position : Int) :
    nextDollar t.flip position = nextDollar t position := by
  have hbefore : ∀ i : Nat,
      (t.flip[i]? == some Bracket.escape) = (t[i]? == some Bracket.escape) := by
    intro i
    rw [Bool.eq_iff_iff, beq_iff_eq, beq_iff_eq, Text.flip, List.getElem?_map]
    cases t[i]? with
    | none => simp
    | some c => simp [flipChar_eq_iff flipChar_escape]
  simp only [nextDollar, Text.length_flip, hbefore, Text.drop_flip, dollarFrom_flip]

/-- Escapes are removed at the same places. -/
theorem unescape_flip (t : Text) : unescape t.flip = (unescape t).flip := by
  fun_induction unescape t with
  | case1 cs ih =>
    rw [Text.flip_cons '$', ← ih]
    rfl
  | case2 c cs hno ih =>
    rw [Text.flip_cons, unescape, ih, Text.flip_cons]
    -- the two characters in front are no escaped dollar, because they were none before
    intro rest hc hrest
    cases cs with
    | nil => contradiction
    | cons d ds =>
      obtain ⟨hd, -⟩ := List.cons.inj hrest
      apply hno ds
      · exact (flipChar_eq_iff flipChar_escape).1 hc
      · rw [(flipChar_eq_iff flipChar_dollar).1 hd]
  | case3 => rfl

/-! ## tokens -/

namespace Token

/-- The token with its name and its default flipped. -/
def flip (token : Token) : Token :=
  { token with name := token.name.flip, default? := token.default?.map Text.flip }

@[simp] theorem name_flip (token : Token) : token.flip.name = token.name.flip := rfl

@[simp] theorem default?_flip (token : Token) :
    token.flip.default? = token.default?.map Text.flip := rfl

@[simp] theorem span_flip (token : Token) : token.flip.span = token.span := rfl

theorem ofBody_flip (start stop : Nat) (body : Text) :
    ofBody start stop body.flip = (ofBody start stop body).flip := by
  rw [ofBody, ofBody, Text.splitAt_flip rfl]
  cases Text.splitAt '=' body with
  | none => rfl
  | some p => simp [flip, Text.trim_flip]

theorem at?_flip (t : Text) (i : Nat) : at? t.flip i = (at? t i).map flip := by
  rw [at?, at?, Bracket.findClosing_flip, Option.map_map]
  congr 1
  funext stop
  rw [Text.take_flip, Text.drop_flip, ofBody_flip]
  rfl

/-- A search finds the flipped token. -/
theorem find?_flip (t : Text) (position : Int) :
    find? t.flip position = (find? t position).map flip := by
  rw [find?, find?, nextDollar_flip, Option.map_bind]
  congr 1
  funext i
  exact at?_flip t i

end Token

theorem splice_flip (t : Text) (span : Span) (r : Text) :
    splice t.flip span r.flip = (splice t span r).flip := by
  simp only [splice, Text.take_flip, Text.drop_flip, Text.flip_append]

end TextMacros
