import TextMacros.Json.Reader

/-!
# TextMacros.Proofs.Json.Grammar

The grammar of JSON texts, apart from the reader.

A rule relates a text to what a first part of it writes and to the rest behind that part; so
`Value v t rest` says that the part of `t` before `rest` writes the value `v`.  A value may be
written in many ways: with any white space between its tokens, with each character of a string as
it stands or by an escape, and with any escape that there is for it.  Main statements:

* `Value.suffix`, `Value.starts`: what is left of a text stands at its end, and few characters
  start a value.
-/

namespace TextMacros.Json

/-! ## white space -/

/-- White space between two tokens: any number of characters, none included. -/
inductive Spaces : Text → Text → Prop where
  /-- No white space. -/
  | nil {t : Text} : Spaces t t
  /-- One character, and more white space behind it. -/
  | cons {c : Char} {t rest : Text} (hc : isSpace c = true) (h : Spaces t rest) :
    Spaces (c :: t) rest

/-! ## numbers -/

/-- Whether all characters are decimal digits. -/
def AllDigits (t : Text) : Prop := ∀ c ∈ t, c.isDigit = true

/-- The sign in front of a number: nothing or a minus. -/
inductive Sign : Int → Text → Text → Prop where
  /-- No sign. -/
  | plus {t : Text} : Sign 1 t t
  /-- A minus. -/
  | minus {t : Text} : Sign (-1) ('-' :: t) t

/-- The sign of an exponent: nothing, a plus or a minus. -/
inductive ExponentSign : Int → Text → Text → Prop where
  /-- A sign as other numbers have it. -/
  | sign {s : Int} {t rest : Text} (h : Sign s t rest) : ExponentSign s t rest
  /-- A plus. -/
  | plus {t : Text} : ExponentSign 1 ('+' :: t) t

/-- The digits of an integer part: a zero alone, or digits of which the first is no zero. -/
inductive Whole : Text → Prop where
  /-- A zero alone. -/
  | zero : Whole ['0']
  /-- Digits that start with another one. -/
  | digits {c : Char} {ds : Text} (hc : c ≠ '0') (h : AllDigits (c :: ds)) : Whole (c :: ds)

/-- The digits of a fraction: none and no point, or some behind a point. -/
inductive Fraction : Text → Text → Text → Prop where
  /-- No fraction. -/
  | absent {t : Text} : Fraction [] t t
  /-- A point and digits. -/
  | present {ds rest : Text} (hne : ds ≠ []) (h : AllDigits ds) :
    Fraction ds ('.' :: ds ++ rest) rest

/-- An exponent, or none. -/
inductive Exponent : Option Int → Text → Text → Prop where
  /-- No exponent. -/
  | absent {t : Text} : Exponent none t t
  /-- A mark, a sign and digits. -/
  | present {mark : Char} {s : Int} {t ds rest : Text} (hmark : mark = 'e' ∨ mark = 'E')
      (hsign : ExponentSign s t (ds ++ rest)) (hne : ds ≠ []) (h : AllDigits ds) :
    Exponent (some (s * Text.ofAsciiDigits ds)) (mark :: t) rest

/-- A number.  Without fraction and exponent it may not have more digits than are read. -/
inductive Number : Json CodeText → Text → Text → Prop where
  /-- An integer. -/
  | int {s : Int} {t ds rest : Text} (hsign : Sign s t (ds ++ rest)) (hwhole : Whole ds)
      (hlength : ds.length ≤ Text.maxDigits) : Number (.int (s * Text.ofAsciiDigits ds)) t rest
  /-- A number with a fraction or an exponent. -/
  | real {s : Int} {t ds t₁ fs t₂ rest : Text} {exponent? : Option Int}
      (hsign : Sign s t (ds ++ t₁)) (hwhole : Whole ds) (hfraction : Fraction fs t₁ t₂)
      (hexponent : Exponent exponent? t₂ rest) (hreal : fs ≠ [] ∨ exponent?.isSome) :
    Number (.real (s * Text.ofAsciiDigits (ds ++ fs)) (exponent?.getD 0 - fs.length)) t rest

/-! ## strings -/

/-- Four hexadecimal digits, and the number that they write. -/
inductive Quad : Nat → Text → Text → Prop where
  /-- The digits. -/
  | digits {a b c d : Char} {i j k l : Nat} {rest : Text} (ha : hexValue? a = some i)
      (hb : hexValue? b = some j) (hc : hexValue? c = some k) (hd : hexValue? d = some l) :
    Quad (((i * 16 + j) * 16 + k) * 16 + l) (a :: b :: c :: d :: rest) rest

/-- An escape with the number of a code point, behind its `\u`. -/
inductive UnicodeEscape : CodePoint → Text → Text → Prop where
  /-- The number of a code point that is not the first half of a surrogate pair. -/
  | plain {n : Nat} {t rest : Text} (hn : Quad n t rest) (hhigh : isHighSurrogate n = false) :
    UnicodeEscape (.ofNat n) t rest
  /-- The first half of a surrogate pair, and the second one in an escape of its own. -/
  | pair {n m : Nat} {t t₁ rest : Text} (hn : Quad n t ('\\' :: 'u' :: t₁))
      (hhigh : isHighSurrogate n = true) (hm : Quad m t₁ rest) (hlow : isLowSurrogate m = true) :
    UnicodeEscape (pairOf n m) t rest
  /-- The first half of a surrogate pair, behind which the second one is not written. -/
  | half {n : Nat} {t rest : Text} (hn : Quad n t rest) (hhigh : isHighSurrogate n = true)
      (halone : ∀ m t₁ t₂, rest = '\\' :: 'u' :: t₁ → Quad m t₁ t₂ → isLowSurrogate m = false) :
    UnicodeEscape (.ofNat n) t rest

/-- The code points of a string behind its opening quote, up to the closing one. -/
inductive Chars : CodeText → Text → Text → Prop where
  /-- The closing quote. -/
  | close {rest : Text} : Chars [] ('"' :: rest) rest
  /-- A character as it stands; quotes, backslashes and control characters cannot be written so. -/
  | raw {c : Char} {s : CodeText} {t rest : Text} (hquote : c ≠ '"') (hbackslash : c ≠ '\\')
      (hcontrol : 0x20 ≤ c.toNat) (h : Chars s t rest) : Chars (.ofChar c :: s) (c :: t) rest
  /-- An escape with a letter or sign. -/
  | short {c d : Char} {s : CodeText} {t rest : Text} (hc : escaped? c = some d)
      (h : Chars s t rest) : Chars (.ofChar d :: s) ('\\' :: c :: t) rest
  /-- An escape with a number. -/
  | unicode {p : CodePoint} {s : CodeText} {t t₁ rest : Text} (hp : UnicodeEscape p t t₁)
      (h : Chars s t₁ rest) : Chars (p :: s) ('\\' :: 'u' :: t) rest

/-! ## values -/

mutual

/-- A value. -/
inductive Value : Json CodeText → Text → Text → Prop where
  /-- A word. -/
  | word {w : Text} {v : Json CodeText} {rest : Text} (h : (w, v) ∈ words) :
    Value v (w ++ rest) rest
  /-- A number. -/
  | number {v : Json CodeText} {t rest : Text} (h : Number v t rest) : Value v t rest
  /-- A string. -/
  | string {s : CodeText} {t rest : Text} (h : Chars s t rest) : Value (.text s) ('"' :: t) rest
  /-- An array without items. -/
  | emptyList {t rest : Text} (h : Spaces t (']' :: rest)) : Value (.list []) ('[' :: t) rest
  /-- An array with items. -/
  | list {items : List (Json CodeText)} {t t₁ rest : Text} (hspaces : Spaces t t₁)
      (h : Items items t₁ rest) : Value (.list items) ('[' :: t) rest
  /-- An object without members. -/
  | emptyObject {t rest : Text} (h : Spaces t ('}' :: rest)) : Value (.object []) ('{' :: t) rest
  /-- An object with members. -/
  | object {members : List (CodeText × Json CodeText)} {t t₁ rest : Text} (hspaces : Spaces t t₁)
      (h : Members members t₁ rest) : Value (.object members) ('{' :: t) rest

/-- The items of an array, and its closing bracket. -/
inductive Items : List (Json CodeText) → Text → Text → Prop where
  /-- The last item. -/
  | last {item : Json CodeText} {t t₁ rest : Text} (hitem : Value item t t₁)
      (hclose : Spaces t₁ (']' :: rest)) : Items [item] t rest
  /-- An item, a comma and more items. -/
  | more {item : Json CodeText} {items : List (Json CodeText)} {t t₁ t₂ t₃ rest : Text}
      (hitem : Value item t t₁) (hcomma : Spaces t₁ (',' :: t₂)) (hspaces : Spaces t₂ t₃)
      (h : Items items t₃ rest) : Items (item :: items) t rest

/-- A member of an object: a name, a colon and a value. -/
inductive Member : CodeText × Json CodeText → Text → Text → Prop where
  /-- The parts of a member. -/
  | parts {name : CodeText} {v : Json CodeText} {t t₁ t₂ t₃ rest : Text} (hname : Chars name t t₁)
      (hcolon : Spaces t₁ (':' :: t₂)) (hspaces : Spaces t₂ t₃) (h : Value v t₃ rest) :
    Member (name, v) ('"' :: t) rest

/-- The members of an object, and its closing bracket. -/
inductive Members : List (CodeText × Json CodeText) → Text → Text → Prop where
  /-- The last member. -/
  | last {m : CodeText × Json CodeText} {t t₁ rest : Text} (hmember : Member m t t₁)
      (hclose : Spaces t₁ ('}' :: rest)) : Members [m] t rest
  /-- A member, a comma and more members. -/
  | more {m : CodeText × Json CodeText} {members : List (CodeText × Json CodeText)}
      {t t₁ t₂ t₃ rest : Text} (hmember : Member m t t₁) (hcomma : Spaces t₁ (',' :: t₂))
      (hspaces : Spaces t₂ t₃) (h : Members members t₃ rest) : Members (m :: members) t rest

end

/-- A whole text: one value, with white space around it. -/
def Document (v : Json CodeText) (t : Text) : Prop :=
  ∃ t₁ t₂, Spaces t t₁ ∧ Value v t₁ t₂ ∧ Spaces t₂ []

/-! ## what is left of a text -/

theorem Spaces.suffix {t rest : Text} (h : Spaces t rest) : rest <:+ t := by
  induction h with
  | nil => exact List.suffix_rfl
  | cons hc h ih => exact ih.trans (List.suffix_cons _ _)

theorem Sign.suffix {s : Int} {t rest : Text} (h : Sign s t rest) : rest <:+ t := by
  cases h with
  | plus => exact List.suffix_rfl
  | minus => exact List.suffix_cons _ _

theorem ExponentSign.suffix {s : Int} {t rest : Text} (h : ExponentSign s t rest) :
    rest <:+ t := by
  cases h with
  | sign h => exact h.suffix
  | plus => exact List.suffix_cons _ _

theorem Fraction.suffix {fs t rest : Text} (h : Fraction fs t rest) : rest <:+ t := by
  cases h with
  | absent => exact List.suffix_rfl
  | present hne hdigits => exact List.suffix_append _ _

theorem Exponent.suffix {exponent? : Option Int} {t rest : Text}
    (h : Exponent exponent? t rest) : rest <:+ t := by
  cases h with
  | absent => exact List.suffix_rfl
  | present hmark hsign hne hdigits =>
    exact ((List.suffix_append _ _).trans hsign.suffix).trans (List.suffix_cons _ _)

theorem Number.suffix {v : Json CodeText} {t rest : Text} (h : Number v t rest) : rest <:+ t := by
  cases h with
  | int hsign hwhole hlength => exact (List.suffix_append _ _).trans hsign.suffix
  | real hsign hwhole hfraction hexponent hreal =>
    exact (hexponent.suffix.trans hfraction.suffix).trans
      ((List.suffix_append _ _).trans hsign.suffix)

theorem Quad.suffix {n : Nat} {t rest : Text} (h : Quad n t rest) : rest <:+ t := by
  cases h with
  | @digits a b c d => exact List.suffix_append [a, b, c, d] _

theorem UnicodeEscape.suffix {p : CodePoint} {t rest : Text} (h : UnicodeEscape p t rest) :
    rest <:+ t := by
  cases h with
  | plain hn hhigh => exact hn.suffix
  | pair hn hhigh hm hlow =>
    exact hm.suffix.trans ((List.suffix_append ['\\', 'u'] _).trans hn.suffix)
  | half hn hhigh halone => exact hn.suffix

theorem Chars.suffix {s : CodeText} {t rest : Text} (h : Chars s t rest) : rest <:+ t := by
  induction h with
  | close => exact List.suffix_cons _ _
  | raw hquote hbackslash hcontrol h ih => exact ih.trans (List.suffix_cons _ _)
  | @short c d s t rest hc h ih => exact ih.trans (List.suffix_append ['\\', c] t)
  | @unicode p s t t₁ rest hp h ih =>
    exact (ih.trans hp.suffix).trans (List.suffix_append ['\\', 'u'] t)

mutual

/-- What is left behind a value stands at the end of the text. -/
theorem Value.suffix {v : Json CodeText} {t rest : Text} (h : Value v t rest) : rest <:+ t := by
  cases h with
  | word h => exact List.suffix_append _ _
  | number h => exact h.suffix
  | string h => exact h.suffix.trans (List.suffix_cons _ _)
  | emptyList h =>
    exact ((List.suffix_cons _ _).trans h.suffix).trans (List.suffix_cons _ _)
  | list hspaces h => exact (h.suffix.trans hspaces.suffix).trans (List.suffix_cons _ _)
  | emptyObject h =>
    exact ((List.suffix_cons _ _).trans h.suffix).trans (List.suffix_cons _ _)
  | object hspaces h => exact (h.suffix.trans hspaces.suffix).trans (List.suffix_cons _ _)

theorem Items.suffix {items : List (Json CodeText)} {t rest : Text} (h : Items items t rest) :
    rest <:+ t := by
  cases h with
  | last hitem hclose => exact ((List.suffix_cons _ _).trans hclose.suffix).trans hitem.suffix
  | more hitem hcomma hspaces h =>
    have hnext := (hspaces.suffix.trans (List.suffix_cons _ _)).trans hcomma.suffix
    exact (h.suffix.trans hnext).trans hitem.suffix

theorem Member.suffix {m : CodeText × Json CodeText} {t rest : Text} (h : Member m t rest) :
    rest <:+ t := by
  cases h with
  | parts hname hcolon hspaces h =>
    have hvalue := (hspaces.suffix.trans (List.suffix_cons _ _)).trans hcolon.suffix
    exact ((h.suffix.trans hvalue).trans hname.suffix).trans (List.suffix_cons _ _)

theorem Members.suffix {members : List (CodeText × Json CodeText)} {t rest : Text}
    (h : Members members t rest) : rest <:+ t := by
  cases h with
  | last hmember hclose =>
    exact ((List.suffix_cons _ _).trans hclose.suffix).trans hmember.suffix
  | more hmember hcomma hspaces h =>
    have hnext := (hspaces.suffix.trans (List.suffix_cons _ _)).trans hcomma.suffix
    exact (h.suffix.trans hnext).trans hmember.suffix

end

/-! ## how a value starts -/

/-- Whether a text starts with a character that a value can start with. -/
def StartsValue (t : Text) : Prop :=
  ∃ c rest, t = c :: rest ∧
    (c.isDigit = true ∨ c ∈ ['"', '[', '{', '-', 'n', 't', 'f', 'N', 'I'])

theorem Whole.starts {ds : Text} (h : Whole ds) (rest : Text) :
    ∃ c s, ds ++ rest = c :: s ∧ c.isDigit = true := by
  cases h with
  | zero => exact ⟨'0', rest, rfl, rfl⟩
  | @digits c ds hc hdigits => exact ⟨c, ds ++ rest, rfl, hdigits c List.mem_cons_self⟩

/-- Whether a text starts with a digit, or with a minus and a digit. -/
def StartsNumber (t : Text) : Prop :=
  ∃ s u, Sign s t u ∧ ∃ c rest, u = c :: rest ∧ c.isDigit = true

theorem Number.starts {v : Json CodeText} {t rest : Text} (h : Number v t rest) :
    StartsNumber t := by
  cases h with
  | int hsign hwhole hlength => exact ⟨_, _, hsign, hwhole.starts _⟩
  | real hsign hwhole hfraction hexponent hreal => exact ⟨_, _, hsign, hwhole.starts _⟩

theorem Value.starts {v : Json CodeText} {t rest : Text} (h : Value v t rest) :
    StartsValue t := by
  cases h with
  | word h =>
    simp only [words, List.mem_cons, Prod.mk.injEq, List.not_mem_nil, or_false] at h
    rcases h with ⟨rfl, -⟩ | ⟨rfl, -⟩ | ⟨rfl, -⟩ | ⟨rfl, -⟩ | ⟨rfl, -⟩ | ⟨rfl, -⟩ <;>
      exact ⟨_, _, rfl, .inr (by decide)⟩
  | number h =>
    obtain ⟨s, u, hsign, c, u', rfl, hc⟩ := h.starts
    cases hsign with
    | plus => exact ⟨c, u', rfl, .inl hc⟩
    | minus => exact ⟨'-', c :: u', rfl, .inr (by decide)⟩
  | string h => exact ⟨_, _, rfl, .inr (by decide)⟩
  | emptyList h | list hspaces h => exact ⟨_, _, rfl, .inr (by decide)⟩
  | emptyObject h | object hspaces h => exact ⟨_, _, rfl, .inr (by decide)⟩

theorem Items.starts {items : List (Json CodeText)} {t rest : Text} (h : Items items t rest) :
    StartsValue t := by
  cases h with
  | last hitem hclose => exact hitem.starts
  | more hitem hcomma hspaces h => exact hitem.starts

theorem Members.starts {members : List (CodeText × Json CodeText)} {t rest : Text}
    (h : Members members t rest) : StartsValue t := by
  cases h with
  | last hmember hclose =>
    cases hmember
    exact ⟨_, _, rfl, .inr (by decide)⟩
  | more hmember hcomma hspaces h =>
    cases hmember
    exact ⟨_, _, rfl, .inr (by decide)⟩

end TextMacros.Json
