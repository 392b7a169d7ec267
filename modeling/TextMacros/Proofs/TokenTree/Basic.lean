import TextMacros.NamePattern
import TextMacros.Proofs.Token.Context

/-!
# TextMacros.Proofs.TokenTree.Basic

Texts with structure: plain characters and tokens, where the default of a token is such a text
again.

```text
tree   ::=  item*
item   ::=  plain  |  '$' opener name closer  |  '$' opener name '=' tree closer
```

Plain is every character but the dollar, the backslash and the brackets.  `text` writes a tree
out, and the rest says what the search for tokens makes of the writing, in any context:

* `text_trim`: trimming a tree trims its text;
* `neutral_text`: brackets around a tree match;
* `ofBody_use`, `ofBody_useOr`: what stands between the brackets of a token is read as its name
  and its default;
* `name_mem_names`: whatever token is found first bears a name of the tree.
-/

namespace TextMacros

/-! ## characters and names -/

/-- Whether a character is neither a dollar nor a backslash nor a bracket. -/
def isPlain (c : Char) : Bool := ['$', Bracket.escape, '(', ')', '{', '}'].all (c != ·)

theorem ne_dollar_of_isPlain {c : Char} (h : isPlain c = true) : c ≠ '$' := by
  rintro rfl
  exact absurd h (by decide)

theorem ne_escape_of_isPlain {c : Char} (h : isPlain c = true) : c ≠ Bracket.escape := by
  rintro rfl
  exact absurd h (by decide)

theorem neutral_of_isPlain {c : Char} (h : isPlain c = true) : Bracket.Neutral [c] := by
  refine Bracket.neutral_singleton (ne_escape_of_isPlain h) (fun b => ?_) ?_
  · rintro rfl
    cases b <;> exact absurd h (by decide)
  · rw [Option.eq_none_iff_forall_ne_some]
    intro b hb
    obtain rfl := Bracket.ofOpener?_eq_some_iff.1 hb
    cases b <;> exact absurd h (by decide)

/-- A text of plain characters is neutral. -/
theorem neutral_of_forall_isPlain {t : Text} (h : ∀ c ∈ t, isPlain c = true) :
    Bracket.Neutral t := by
  induction t with
  | nil => exact Bracket.neutral_nil
  | cons c cs ih =>
    obtain ⟨hc, hcs⟩ := List.forall_mem_cons.1 h
    exact (neutral_of_isPlain hc).append (ih hcs)

/-- A dollar and a bracket behind it are neutral if what is in the bracket is. -/
theorem neutral_token (b : Bracket) {body : Text} (h : Bracket.Neutral body) :
    Bracket.Neutral ('$' :: b.opener :: (body ++ [b.closer])) := by
  have hdollar : Bracket.Neutral ['$'] :=
    Bracket.neutral_singleton (by decide) (fun b => by cases b <;> decide) (by decide)
  exact hdollar.append (Bracket.neutral_group b (h.inside b))

/-- A plain character. -/
abbrev PlainChar := { c : Char // isPlain c = true }

/-- A text that is a name by default. -/
abbrev Name := { t : Text // defaultName.isMatch t = true }

theorem holds_nameRest_of_nameStart {c : Char} (h : nameStart.holds c = true) :
    nameRest.holds c = true := by
  simp only [nameStart, nameRest, CharClass.holds, List.any_cons, List.any_nil] at h ⊢
  grind

namespace Name

/-- A name is made of letters, digits and underscores. -/
theorem holds (n : Name) {c : Char} (hc : c ∈ n.1) : nameRest.holds c = true := by
  obtain ⟨t, ht⟩ := n
  rw [isMatch_defaultName] at ht
  cases t with
  | nil => contradiction
  | cons d ds =>
    obtain ⟨hd, hds⟩ := Bool.and_eq_true_iff.1 ht
    rcases List.mem_cons.1 hc with rfl | hmem
    · exact holds_nameRest_of_nameStart hd
    · exact List.all_eq_true.1 hds c hmem

theorem isPlain (n : Name) {c : Char} (hc : c ∈ n.1) : isPlain c = true := by
  have h := n.holds hc
  rw [TextMacros.isPlain, List.all_eq_true]
  intro d hd
  rw [bne_iff_ne]
  rintro rfl
  simp only [List.mem_cons, List.not_mem_nil, or_false] at hd
  rcases hd with rfl | rfl | rfl | rfl | rfl | rfl <;> exact absurd h (by decide)

theorem dollar_notMem (n : Name) : '$' ∉ n.1 := fun hmem => ne_dollar_of_isPlain (n.isPlain hmem) rfl

theorem ne_separator (n : Name) : '=' ∉ n.1 := fun hmem => absurd (n.holds hmem) (by decide)

/-- No character of a name is blank. -/
theorem isBlank_eq_false (n : Name) {c : Char} (hc : c ∈ n.1) : Text.isBlank c = false := by
  have h := n.holds hc
  simp only [nameRest, CharClass.holds, List.any_cons, List.any_nil, Bool.or_false, Bool.bne_false,
    Bool.or_eq_true, Bool.and_eq_true, decide_eq_true_eq, Char.le_def, UInt32.le_iff_toNat_le] at h
  rw [Text.isBlank, Text.inRanges, List.any_eq_false]
  intro r hr
  simp only [Text.blankRanges, List.mem_cons, List.not_mem_nil, or_false] at hr
  rw [Bool.and_eq_true, decide_eq_true_eq, decide_eq_true_eq, Char.toNat]
  change ((95 ≤ c.val.toNat ∧ c.val.toNat ≤ 95) ∨ (48 ≤ c.val.toNat ∧ c.val.toNat ≤ 57) ∨
    (97 ≤ c.val.toNat ∧ c.val.toNat ≤ 122) ∨ (65 ≤ c.val.toNat ∧ c.val.toNat ≤ 90)) at h
  rcases hr with rfl | rfl | rfl | rfl | rfl | rfl | rfl | rfl | rfl | rfl <;> simp only [] <;> omega

theorem neutral (n : Name) : Bracket.Neutral n.1 :=
  neutral_of_forall_isPlain fun _ hc => n.isPlain hc

theorem neutral_separator (n : Name) {value : Text} (h : Bracket.Neutral value) :
    Bracket.Neutral (n.1 ++ '=' :: value) :=
  n.neutral.append ((neutral_of_isPlain (by decide)).append h)

/-- Nothing is trimmed from a name. -/
theorem trim_eq (n : Name) : Text.trim n.1 = n.1 :=
  Text.trim_of_forall fun _ hc => n.isBlank_eq_false hc

end Name

/-! ## trees -/

/-- A text with its structure. -/
inductive TokenTree where
  /-- The empty text. -/
  | nil
  /-- A plain character, and what follows. -/
  | literal (c : PlainChar) (rest : TokenTree)
  /-- A token without a default, and what follows. -/
  | use (b : Bracket) (name : Name) (rest : TokenTree)
  /-- A token with a default, and what follows. -/
  | useOr (b : Bracket) (name : Name) (default rest : TokenTree)
  deriving DecidableEq, Repr

namespace TokenTree

/-- The text that is written for a tree. -/
def text : TokenTree → Text
  | nil => []
  | literal c rest => c.1 :: rest.text
  | use b name rest => '$' :: b.opener :: (name.1 ++ b.closer :: rest.text)
  | useOr b name default rest =>
    '$' :: b.opener :: ((name.1 ++ '=' :: default.text) ++ b.closer :: rest.text)

/-- The names in a tree, also those in its defaults. -/
def names : TokenTree → List Text
  | nil => []
  | literal _ rest => rest.names
  | use _ name rest => name.1 :: rest.names
  | useOr _ name default rest => name.1 :: (default.names ++ rest.names)

/-! ## trimming -/

/-- The tree without the blanks at its front. -/
def trimLeft : TokenTree → TokenTree
  | literal c rest => if Text.isBlank c.1 then rest.trimLeft else literal c rest
  | t => t

/-- The tree without the blanks at its end. -/
def trimRight : TokenTree → TokenTree
  | nil => nil
  | literal c rest =>
    if rest.trimRight.text.isEmpty && Text.isBlank c.1 then nil else literal c rest.trimRight
  | use b name rest => use b name rest.trimRight
  | useOr b name default rest => useOr b name default rest.trimRight

/-- The tree without the blanks at its front and at its end. -/
def trim (t : TokenTree) : TokenTree := t.trimLeft.trimRight

theorem isBlank_closer (b : Bracket) : Text.isBlank b.closer = false := by cases b <;> decide

theorem text_trimLeft (t : TokenTree) : t.trimLeft.text = Text.trimLeft t.text := by
  induction t with
  | nil => rfl
  | literal c rest ih =>
    rw [trimLeft, text, Text.trimLeft_cons]
    split
    · exact ih
    · rfl
  | use | useOr => rfl

theorem text_trimRight (t : TokenTree) : t.trimRight.text = Text.trimRight t.text := by
  induction t with
  | nil => rfl
  | literal c rest ih =>
    rw [trimRight, text, Text.trimRight_cons, ih]
    split
    · rfl
    · rw [text, ih]
  | use b name rest ih =>
    rw [trimRight, text, ih]
    exact (Text.trimRight_append_cons (isBlank_closer b) ('$' :: b.opener :: name.1) _).symm
  | useOr b name default rest _ ih =>
    rw [trimRight, text, ih]
    exact (Text.trimRight_append_cons (isBlank_closer b)
      ('$' :: b.opener :: (name.1 ++ '=' :: default.text)) _).symm

/-- Trimming a tree trims its text. -/
theorem text_trim (t : TokenTree) : t.trim.text = Text.trim t.text := by
  rw [trim, text_trimRight, text_trimLeft, Text.trim]

theorem length_text_trim_le (t : TokenTree) : t.trim.text.length ≤ t.text.length := by
  rw [text_trim]
  exact Text.length_trim_le t.text

theorem names_trimLeft (t : TokenTree) : t.trimLeft.names = t.names := by
  induction t with
  | literal c rest ih =>
    rw [trimLeft]
    split
    · exact ih
    · rfl
  | nil | use | useOr => rfl

theorem text_eq_nil {t : TokenTree} (h : t.text.isEmpty = true) : t = nil := by
  cases t with
  | nil => rfl
  | literal | use | useOr => contradiction

theorem names_trimRight (t : TokenTree) : t.trimRight.names = t.names := by
  induction t with
  | nil => rfl
  | literal c rest ih =>
    rw [trimRight, names, ← ih]
    split
    next h => rw [text_eq_nil (Bool.and_eq_true_iff.1 h).1]
    next => rfl
  | use b name rest ih => rw [trimRight, names, names, ih]
  | useOr b name default rest _ ih => rw [trimRight, names, names, ih]

/-- Trimming loses no name. -/
theorem names_trim (t : TokenTree) : t.trim.names = t.names := by
  rw [trim, names_trimRight, names_trimLeft]

/-! ## the written tree -/

/-- A written tree holds no backslash. -/
theorem escape_notMem_text (t : TokenTree) : Bracket.escape ∉ t.text := by
  have hname : ∀ n : Name, Bracket.escape ∉ n.1 := fun n hmem =>
    ne_escape_of_isPlain (n.isPlain hmem) rfl
  induction t with
  | nil => exact List.not_mem_nil
  | literal c rest ih =>
    rw [text, List.mem_cons, not_or]
    exact ⟨(ne_escape_of_isPlain c.2).symm, ih⟩
  | use b name rest ih =>
    simp only [text, List.mem_cons, List.mem_append, not_or]
    exact ⟨by decide, b.opener_ne_escape.symm, hname name, b.closer_ne_escape.symm, ih⟩
  | useOr b name default rest ihd ih =>
    simp only [text, List.mem_cons, List.mem_append, not_or]
    exact ⟨by decide, b.opener_ne_escape.symm, ⟨hname name, by decide, ihd⟩,
      b.closer_ne_escape.symm, ih⟩

/-- Every bracket of a written tree is matched in it. -/
theorem neutral_text (t : TokenTree) : Bracket.Neutral t.text := by
  induction t with
  | nil => exact Bracket.neutral_nil
  | literal c rest ih => exact (neutral_of_isPlain c.2).append ih
  | use b name rest ih =>
    have h := (neutral_token b name.neutral).append ih
    simpa only [text, List.cons_append, List.nil_append, List.append_assoc] using h
  | useOr b name default rest ihd ih =>
    have h := (neutral_token b (name.neutral_separator ihd)).append ih
    simpa only [text, List.cons_append, List.nil_append, List.append_assoc] using h

/-! ## the tokens written -/

/-- What stands between the brackets of a token without a default. -/
theorem ofBody_use (name : Name) (start stop : Nat) :
    Token.ofBody start stop name.1 = ⟨name.1, none, start, stop⟩ :=
  Token.ofBody_of_notMem name.ne_separator start stop

/-- What stands between the brackets of a token with a default, which is trimmed. -/
theorem ofBody_useOr (name : Name) (default : TokenTree) (start stop : Nat) :
    Token.ofBody start stop (name.1 ++ '=' :: default.text) =
      ⟨name.1, some default.trim.text, start, stop⟩ := by
  rw [Token.ofBody_separator name.ne_separator, name.trim_eq, text_trim]

/-- The first token of a tree bears one of its names. -/
theorem name_mem_names {t : TokenTree} {token : Token} (h : Token.find? t.text 0 = some token) :
    token.name ∈ t.names := by
  have hnil : ([] : Text).getLast? ≠ some Bracket.escape := by simp
  induction t generalizing token with
  | nil => contradiction
  | literal c rest ih =>
    have hinert : Inert [c.1] :=
      inert_singleton (ne_dollar_of_isPlain c.2) (ne_escape_of_isPlain c.2)
    have hskip := Token.find?_inert_append hinert rest.text
    rw [text, ← List.singleton_append, hskip, Option.map_eq_some_iff] at h
    obtain ⟨inner, hinner, rfl⟩ := h
    have hmem : inner.name ∈ rest.names := ih hinner
    exact hmem
  | use b name rest ih =>
    have hfind := Token.find?_group b name.neutral hnil rest.text
    rw [ofBody_use] at hfind
    obtain rfl := Option.some.inj (hfind.symm.trans h)
    exact List.mem_cons_self
  | useOr b name default rest _ ih =>
    have hbody := name.neutral_separator default.neutral_text
    have hfind := Token.find?_group b hbody hnil rest.text
    rw [ofBody_useOr] at hfind
    obtain rfl := Option.some.inj (hfind.symm.trans h)
    exact List.mem_cons_self

end TokenTree

end TextMacros
