import Mathlib.Data.List.TakeWhile
import TextMacros.Proofs.Json.Grammar

/-!
# TextMacros.Proofs.Json.Scalars

White space, numbers and strings are read as the grammar has them.

Each reader comes with two laws.  What it cuts off is what the rule allows; and what the rule
allows it cuts off, as long as what stands behind cannot be taken for more of it.  That condition
is what the reader adds to the rules, which may stop anywhere: white space and digits are read as
far as they go.
-/

namespace TextMacros.Json

/-- What a computation in two steps yields, the second step yields from what the first one does. -/
theorem ok_of_bind {α β : Type} {x : Except Fault α} {f : α → Except Fault β} {b : β}
    (h : x >>= f = .ok b) : ∃ a, x = .ok a ∧ f a = .ok b := by
  cases x with
  | error fault => simp [bind, Except.bind] at h
  | ok a => exact ⟨a, rfl, h⟩

theorem error_of_bind {α β : Type} {x : Except Fault α} {f : α → Except Fault β} {fault : Fault}
    (h : x >>= f = .error fault) : x = .error fault ∨ ∃ a, x = .ok a ∧ f a = .error fault := by
  cases x with
  | error fault' => exact .inl (by simpa [bind, Except.bind] using h)
  | ok a => exact .inr ⟨a, rfl, h⟩

/-! ## white space -/

theorem spaces_skipSpace (t : Text) : Spaces t (skipSpace t) := by
  induction t with
  | nil => exact .nil
  | cons c t ih =>
    rw [skipSpace, List.dropWhile_cons]
    by_cases hc : isSpace c = true
    · rw [if_pos hc]
      exact .cons hc ih
    · rw [if_neg hc]
      exact .nil

theorem Spaces.skipSpace_eq {t rest : Text} (h : Spaces t rest) :
    skipSpace t = skipSpace rest := by
  induction h with
  | nil => rfl
  | cons hc h ih => rw [← ih, skipSpace, List.dropWhile_cons, if_pos hc]; rfl

theorem skipSpace_cons {c : Char} (hc : isSpace c = false) (t : Text) :
    skipSpace (c :: t) = c :: t := by
  simp [skipSpace, hc]

theorem StartsValue.skipSpace_eq {t : Text} (h : StartsValue t) : skipSpace t = t := by
  obtain ⟨c, rest, rfl, hc⟩ := h
  refine skipSpace_cons ?_ rest
  rcases hc with hdigit | hmem
  · have hnot : ∀ d : Char, isSpace d = true → d.isDigit = false := by
      intro d hd
      simp only [isSpace, Bool.or_eq_true, beq_iff_eq] at hd
      rcases hd with ((rfl | rfl) | rfl) | rfl <;> rfl
    cases hspace : isSpace c with
    | false => rfl
    | true => simp [hnot c hspace] at hdigit
  · have hall : ∀ d ∈ ['"', '[', '{', '-', 'n', 't', 'f', 'N', 'I'], isSpace d = false := by
      simp [isSpace]
    exact hall c hmem

/-! ## digits -/

/-- Whether a number is over where a text starts. -/
def NumberStops (rest : Text) : Prop :=
  ∀ c ∈ rest.head?, c.isDigit = false ∧ c ≠ '.' ∧ c ≠ 'e' ∧ c ≠ 'E'

/-- Whether no digit starts a text. -/
def DigitsStop (rest : Text) : Prop := ∀ c ∈ rest.head?, c.isDigit = false

theorem NumberStops.digitsStop {rest : Text} (h : NumberStops rest) : DigitsStop rest :=
  fun c hc => (h c hc).1

theorem digitsStop_cons {c : Char} (hc : c.isDigit = false) (t : Text) : DigitsStop (c :: t) := by
  simpa [DigitsStop] using hc

theorem cutDigits_sound {t ds rest : Text} (h : cutDigits t = (ds, rest)) :
    AllDigits ds ∧ t = ds ++ rest := by
  rw [cutDigits, Prod.mk.injEq] at h
  obtain ⟨rfl, rfl⟩ := h
  exact ⟨fun c hc => List.mem_takeWhile_imp hc, List.takeWhile_append_dropWhile.symm⟩

theorem cutDigits_append {ds rest : Text} (h : AllDigits ds) (hrest : DigitsStop rest) :
    cutDigits (ds ++ rest) = (ds, rest) := by
  have hnone : cutDigits rest = ([], rest) := by
    cases rest with
    | nil => rfl
    | cons c rest => simp [cutDigits, hrest c rfl]
  rw [cutDigits, Prod.mk.injEq] at hnone ⊢
  rw [List.takeWhile_append_of_pos h, List.dropWhile_append_of_pos h, hnone.1, hnone.2]
  simp

theorem cutInteger_sound {t ds rest : Text} (h : cutInteger t = (ds, rest)) (hne : ds ≠ []) :
    Whole ds ∧ t = ds ++ rest := by
  rw [cutInteger.eq_def] at h
  split at h
  · rw [Prod.mk.injEq] at h
    obtain ⟨rfl, rfl⟩ := h
    exact ⟨.zero, rfl⟩
  · rename_i hzero
    obtain ⟨hdigits, rfl⟩ := cutDigits_sound h
    cases ds with
    | nil => exact absurd rfl hne
    | cons c ds =>
      refine ⟨.digits ?_ hdigits, rfl⟩
      rintro rfl
      exact hzero _ rfl

theorem cutInteger_append {ds rest : Text} (h : Whole ds) (hrest : DigitsStop rest) :
    cutInteger (ds ++ rest) = (ds, rest) := by
  cases h with
  | zero => rfl
  | @digits c ds hc hdigits =>
    rw [cutInteger.eq_def]
    split
    · rename_i heq
      simp [hc] at heq
    · exact cutDigits_append hdigits hrest

theorem Whole.ne_nil {ds : Text} (h : Whole ds) : ds ≠ [] := by
  cases h <;> simp

theorem Whole.allDigits {ds : Text} (h : Whole ds) : AllDigits ds := by
  cases h with
  | zero => simp [AllDigits]
  | digits hc hdigits => exact hdigits

/-! ## fractions and exponents -/

theorem fraction_cutFraction (t : Text) : Fraction (cutFraction t).1 t (cutFraction t).2 := by
  rw [cutFraction.eq_def]
  split
  · rename_i rest
    cases hcut : cutDigits rest with
    | mk ds after =>
      obtain ⟨hdigits, rfl⟩ := cutDigits_sound hcut
      cases ds with
      | nil => exact .absent
      | cons d ds => exact .present (List.cons_ne_nil d ds) hdigits
  · exact .absent

theorem Fraction.cutFraction_eq {fs t rest : Text} (h : Fraction fs t rest)
    (hrest : DigitsStop rest) (hpoint : rest.head? ≠ some '.') : cutFraction t = (fs, rest) := by
  cases h with
  | absent =>
    rw [cutFraction.eq_def]
    split
    · exact absurd rfl hpoint
    · rfl
  | present hne hdigits =>
    simp [cutFraction, cutDigits_append hdigits hrest, hne]

theorem exponentSign_cutSign (t : Text) :
    ExponentSign (Text.cutSign t).1 t (Text.cutSign t).2 := by
  rw [Text.cutSign.eq_def]
  split
  · exact .sign .minus
  · exact .plus
  · exact .sign .plus

theorem ExponentSign.cutSign_eq {s : Int} {t ds rest : Text} (h : ExponentSign s t (ds ++ rest))
    (hne : ds ≠ []) (hdigits : AllDigits ds) : Text.cutSign t = (s, ds ++ rest) := by
  cases h with
  | sign h =>
    cases h with
    | minus => rfl
    | plus =>
      cases ds with
      | nil => exact absurd rfl hne
      | cons d ds =>
        -- a digit is no sign
        have hd := hdigits d List.mem_cons_self
        rw [Text.cutSign.eq_def]
        split
        · rename_i heq
          obtain ⟨rfl, -⟩ := List.cons.inj heq
          simp at hd
        · rename_i heq
          obtain ⟨rfl, -⟩ := List.cons.inj heq
          simp at hd
        · rfl
  | plus => rfl

theorem exponent_cutExponent? (t : Text) :
    Exponent (cutExponent? t).1 t (cutExponent? t).2 := by
  rw [cutExponent?.eq_def]
  split
  · exact .absent
  · rename_i mark rest
    by_cases hmark : mark = 'e' ∨ mark = 'E'
    · rw [if_pos (by simpa using hmark)]
      have hsign := exponentSign_cutSign rest
      cases hcut : cutDigits (Text.cutSign rest).2 with
      | mk ds after =>
        obtain ⟨hdigits, heq⟩ := cutDigits_sound hcut
        cases ds with
        | nil => simpa [hcut] using Exponent.absent
        | cons d ds =>
          rw [heq] at hsign
          simpa [hcut] using Exponent.present hmark hsign (List.cons_ne_nil d ds) hdigits
    · rw [if_neg (by simpa using hmark)]
      exact .absent

theorem Exponent.cutExponent?_eq {exponent? : Option Int} {t rest : Text}
    (h : Exponent exponent? t rest) (hrest : NumberStops rest) :
    cutExponent? t = (exponent?, rest) := by
  cases h with
  | absent =>
    cases t with
    | nil => rfl
    | cons c t =>
      obtain ⟨-, -, he, hE⟩ := hrest c rfl
      simp [cutExponent?, he, hE]
  | present hmark hsign hne hdigits =>
    have hcut := cutDigits_append hdigits hrest.digitsStop
    simp [cutExponent?, hmark, hsign.cutSign_eq hne hdigits, hcut, hne]

/-- A number is not over where its exponent starts, but its digits are. -/
theorem Exponent.stops {exponent? : Option Int} {t rest : Text} (h : Exponent exponent? t rest)
    (hrest : NumberStops rest) : DigitsStop t ∧ t.head? ≠ some '.' := by
  cases h with
  | absent =>
    refine ⟨hrest.digitsStop, fun hpoint => ?_⟩
    exact (hrest '.' hpoint).2.1 rfl
  | present hmark hsign hne hdigits =>
    rcases hmark with rfl | rfl <;> exact ⟨digitsStop_cons rfl _, by simp⟩

theorem Fraction.stops {fs t rest : Text} (h : Fraction fs t rest) (hrest : DigitsStop rest) :
    DigitsStop t := by
  cases h with
  | absent => exact hrest
  | present hne hdigits => exact digitsStop_cons rfl _

/-! ## numbers -/

/-- The sign that the reader sees, and what it goes on with. -/
theorem sign_of_text (t : Text) : Sign (if t.head? == some '-' then -1 else 1) t
    (if t.head? == some '-' then t.tail else t) := by
  by_cases h : t.head? = some '-'
  · obtain ⟨u, rfl⟩ : ∃ u, t = '-' :: u := by
      cases t with
      | nil => simp at h
      | cons c u => exact ⟨u, by simpa using h⟩
    exact .minus
  · rw [if_neg (by simpa using h), if_neg (by simpa using h)]
    exact .plus

theorem Sign.text_eq {s : Int} {t u : Text} (h : Sign s t u)
    (hu : ∃ c rest, u = c :: rest ∧ c.isDigit = true) :
    (if t.head? == some '-' then (-1 : Int) else 1) = s ∧
      (if t.head? == some '-' then t.tail else t) = u := by
  cases h with
  | minus => exact ⟨rfl, rfl⟩
  | plus =>
    obtain ⟨c, rest, rfl, hc⟩ := hu
    have hne : c ≠ '-' := by
      rintro rfl
      simp at hc
    simp [hne]

/-- What the reader says of a number, once its parts are known. -/
def numberOfParts (s : Int) (ds fs : Text) (exponent? : Option Int) (rest : Text) :
    Except Fault (Json CodeText × Text) :=
  if fs = [] ∧ exponent? = none then
    if ds.length > Text.maxDigits then .error (.integerTooLong ds.length)
    else .ok (.int (s * Text.ofAsciiDigits ds), rest)
  else .ok (.real (s * Text.ofAsciiDigits (ds ++ fs)) (exponent?.getD 0 - fs.length), rest)

theorem readNumber_of_parts {t ds t₁ fs t₂ rest : Text} {exponent? : Option Int} {s : Int}
    (hsign : (if t.head? == some '-' then (-1 : Int) else 1) = s)
    (hwhole : cutInteger (if t.head? == some '-' then t.tail else t) = (ds, t₁)) (hne : ds ≠ [])
    (hfraction : cutFraction t₁ = (fs, t₂)) (hexponent : cutExponent? t₂ = (exponent?, rest)) :
    readNumber t = numberOfParts s ds fs exponent? rest := by
  simp only [readNumber, hsign, hwhole, hfraction, hexponent]
  rw [if_neg (by simpa using hne)]
  simp [numberOfParts]

/-- The reader finds no integer part, or it cuts a text into the parts of a number. -/
theorem readNumber_cases (t : Text) :
    readNumber t = .error (.malformed .expectedValue t) ∨
      ∃ s ds t₁ fs t₂ exponent? rest, Sign s t (ds ++ t₁) ∧ Whole ds ∧ Fraction fs t₁ t₂ ∧
        Exponent exponent? t₂ rest ∧ readNumber t = numberOfParts s ds fs exponent? rest := by
  have hsign := sign_of_text t
  cases hcut : cutInteger (if t.head? == some '-' then t.tail else t) with
  | mk ds t₁ =>
    by_cases hne : ds = []
    · left
      simp only [readNumber, hcut, hne]
      rw [if_pos List.isEmpty_nil]
    · right
      obtain ⟨hwhole, hu⟩ := cutInteger_sound hcut hne
      rw [hu] at hsign
      exact ⟨_, ds, t₁, _, _, _, _, hsign, hwhole, fraction_cutFraction t₁,
        exponent_cutExponent? _, readNumber_of_parts rfl hcut hne rfl rfl⟩

/-- Without fraction and exponent, nothing is cut off behind the integer part. -/
theorem Fraction.eq_of_nil {t rest : Text} (h : Fraction [] t rest) : t = rest := by
  generalize hfs : ([] : Text) = fs at h
  cases h with
  | absent => rfl
  | present hne hdigits => exact absurd hfs.symm hne

theorem number_of_readNumber {t rest : Text} {v : Json CodeText}
    (h : readNumber t = .ok (v, rest)) : Number v t rest := by
  rcases readNumber_cases t with herror |
    ⟨s, ds, t₁, fs, t₂, exponent?, t₃, hsign, hwhole, hfraction, hexponent, hread⟩
  · simp [herror] at h
  · rw [hread, numberOfParts] at h
    by_cases hint : fs = [] ∧ exponent? = none
    · rw [if_pos hint] at h
      obtain ⟨rfl, rfl⟩ := hint
      obtain rfl := hfraction.eq_of_nil
      cases hexponent
      by_cases hlength : ds.length > Text.maxDigits
      · simp [hlength] at h
      · rw [if_neg hlength, Except.ok.injEq, Prod.mk.injEq] at h
        obtain ⟨rfl, rfl⟩ := h
        exact .int hsign hwhole (Nat.le_of_not_lt hlength)
    · rw [if_neg hint, Except.ok.injEq, Prod.mk.injEq] at h
      obtain ⟨rfl, rfl⟩ := h
      refine .real hsign hwhole hfraction hexponent ?_
      rw [Option.isSome_iff_ne_none]
      exact not_and_or.1 hint

/-- What the reader says of an integer. -/
theorem readNumber_of_integer {s : Int} {t ds rest : Text} (hsign : Sign s t (ds ++ rest))
    (hwhole : Whole ds) (hrest : NumberStops rest) :
    readNumber t = if ds.length > Text.maxDigits then .error (.integerTooLong ds.length)
      else .ok (.int (s * Text.ofAsciiDigits ds), rest) := by
  obtain ⟨hs, hu⟩ := hsign.text_eq (hwhole.starts rest)
  obtain ⟨hstop, hpoint⟩ := Exponent.absent.stops hrest
  have hcut := cutInteger_append hwhole hstop
  have hfraction := Fraction.absent.cutFraction_eq hstop hpoint
  have hexponent := Exponent.absent.cutExponent?_eq hrest
  rw [← hu] at hcut
  rw [readNumber_of_parts hs hcut hwhole.ne_nil hfraction hexponent, numberOfParts,
    if_pos ⟨rfl, rfl⟩]

theorem Number.readNumber_eq {t rest : Text} {v : Json CodeText} (h : Number v t rest)
    (hrest : NumberStops rest) : readNumber t = .ok (v, rest) := by
  cases h with
  | int hsign hwhole hlength =>
    rw [readNumber_of_integer hsign hwhole hrest, if_neg (Nat.not_lt.2 hlength)]
  | @real s t ds t₁ fs t₂ rest exponent? hsign hwhole hfraction hexponent hreal =>
    obtain ⟨hs, hu⟩ := hsign.text_eq (hwhole.starts t₁)
    obtain ⟨hstop, hpoint⟩ := hexponent.stops hrest
    have hcut := cutInteger_append hwhole (hfraction.stops hstop)
    rw [← hu] at hcut
    rw [readNumber_of_parts hs hcut hwhole.ne_nil (hfraction.cutFraction_eq hstop hpoint)
      (hexponent.cutExponent?_eq hrest), numberOfParts, if_neg]
    rw [Option.isSome_iff_ne_none] at hreal
    exact not_and_or.2 hreal

/-- Whether a text holds so many digits in a row. -/
def HasDigits (n : Nat) (t : Text) : Prop := ∃ ds, ds <:+: t ∧ ds.length = n ∧ AllDigits ds

theorem HasDigits.of_suffix {n : Nat} {t u : Text} (h : HasDigits n u) (hsuffix : u <:+ t) :
    HasDigits n t := by
  obtain ⟨ds, hds, hlength, hdigits⟩ := h
  exact ⟨ds, hds.trans hsuffix.isInfix, hlength, hdigits⟩

/-- An integer that is too long has as many digits in a row as it is said to have. -/
theorem digits_of_readNumber_tooLong {t : Text} {n : Nat}
    (h : readNumber t = .error (.integerTooLong n)) : Text.maxDigits < n ∧ HasDigits n t := by
  rcases readNumber_cases t with herror |
    ⟨s, ds, t₁, fs, t₂, exponent?, t₃, hsign, hwhole, -, -, hread⟩
  · simp [herror] at h
  · rw [hread, numberOfParts] at h
    split at h
    · split at h
      · rename_i hlength
        rw [Except.error.injEq, Fault.integerTooLong.injEq] at h
        subst h
        have hinfix := (List.prefix_append ds t₁).isInfix.trans hsign.suffix.isInfix
        exact ⟨hlength, ds, hinfix, rfl, hwhole.allDigits⟩
      · simp at h
    · simp at h

/-! ## words -/

theorem afterWord?_eq_some_iff {w t rest : Text} : afterWord? w t = some rest ↔ t = w ++ rest := by
  induction w generalizing t with
  | nil => simp [afterWord?]
  | cons c w ih =>
    cases t with
    | nil => simp [afterWord?]
    | cons d t =>
      by_cases hc : c = d
      · simp [afterWord?, hc, ih]
      · simp [afterWord?, hc, Ne.symm hc]

theorem value_of_readWord {t rest : Text} {v : Json CodeText}
    (h : readWord t = .ok (v, rest)) : Value v t rest := by
  rw [readWord] at h
  split at h
  · rename_i found hfound
    obtain ⟨⟨w, v'⟩, hw, hmap⟩ := List.exists_of_findSome?_eq_some hfound
    obtain ⟨rest', hafter, rfl⟩ := Option.map_eq_some_iff.1 hmap
    rw [afterWord?_eq_some_iff] at hafter
    rw [Except.ok.injEq, Prod.mk.injEq] at h
    obtain ⟨rfl, rfl⟩ := h
    rw [hafter]
    exact .word hw
  · exact .number (number_of_readNumber h)

theorem readWord_word {w : Text} {v : Json CodeText} (h : (w, v) ∈ words) (rest : Text) :
    readWord (w ++ rest) = .ok (v, rest) := by
  simp only [words, List.mem_cons, Prod.mk.injEq, List.not_mem_nil, or_false] at h
  rcases h with ⟨rfl, rfl⟩ | ⟨rfl, rfl⟩ | ⟨rfl, rfl⟩ | ⟨rfl, rfl⟩ | ⟨rfl, rfl⟩ | ⟨rfl, rfl⟩ <;> rfl

theorem StartsNumber.readWord_eq {t : Text} (h : StartsNumber t) : readWord t = readNumber t := by
  obtain ⟨s, u, hsign, c, u', rfl, hc⟩ := h
  have hnone : (words.findSome? fun w => (afterWord? w.1 t).map (w.2, ·)) = none := by
    rw [List.findSome?_eq_none_iff]
    rintro ⟨w, v'⟩ hw
    rw [Option.map_eq_none_iff, Option.eq_none_iff_forall_ne_some]
    intro rest' hafter
    rw [afterWord?_eq_some_iff] at hafter
    -- a word has a letter where a number has a digit
    simp only [words, List.mem_cons, Prod.mk.injEq, List.not_mem_nil, or_false] at hw
    cases hsign with
    | plus =>
      rcases hw with ⟨rfl, -⟩ | ⟨rfl, -⟩ | ⟨rfl, -⟩ | ⟨rfl, -⟩ | ⟨rfl, -⟩ | ⟨rfl, -⟩ <;>
        simp [Text.ofString] at hafter <;> simp [hafter.1] at hc
    | minus =>
      -- only one of the words starts with a minus
      rcases hw with ⟨rfl, -⟩ | ⟨rfl, -⟩ | ⟨rfl, -⟩ | ⟨rfl, -⟩ | ⟨rfl, -⟩ | ⟨rfl, -⟩ <;>
        simp [Text.ofString] at hafter
      simp [hafter.1] at hc
  rw [readWord, hnone]

/-! ## strings -/

theorem hexQuad?_eq_some_iff {t rest : Text} {n : Nat} :
    hexQuad? t = some (n, rest) ↔ Quad n t rest := by
  constructor
  · intro h
    rw [hexQuad?.eq_def] at h
    split at h
    · simp only [Option.bind_eq_bind, Option.bind_eq_some_iff, Option.some.injEq,
        Prod.mk.injEq] at h
      obtain ⟨i, ha, j, hb, k, hc, l, hd, rfl, rfl⟩ := h
      exact .digits ha hb hc hd
    · simp at h
  · rintro ⟨ha, hb, hc, hd⟩
    simp [hexQuad?, ha, hb, hc, hd]

theorem Quad.number_eq {t rest rest' : Text} {n m : Nat} (h : Quad n t rest) (h' : Quad m t rest') :
    n = m := by
  have hn := hexQuad?_eq_some_iff.2 h
  rw [hexQuad?_eq_some_iff.2 h', Option.some.injEq, Prod.mk.injEq] at hn
  exact hn.1.symm

theorem Quad.drop_eq {t rest : Text} {n : Nat} (h : Quad n t rest) : t.drop 4 = rest := by
  cases h
  rfl

theorem readUnicodeDigits_eq_ok_iff {t rest : Text} {n : Nat} :
    readUnicodeDigits t = .ok (n, rest) ↔ Quad n t rest ∧ rest ≠ [] := by
  constructor
  · intro h
    rw [readUnicodeDigits] at h
    split at h
    · rename_i c after found hdrop hquad
      rw [Except.ok.injEq] at h
      subst h
      rw [hexQuad?_eq_some_iff] at hquad
      refine ⟨hquad, ?_⟩
      cases hquad with
      | digits ha hb hc hd =>
        rintro rfl
        simp at hdrop
    · simp at h
  · rintro ⟨hquad, hne⟩
    have hfound := hexQuad?_eq_some_iff.2 hquad
    cases hquad with
    | digits ha hb hc hd =>
      cases rest with
      | nil => exact absurd rfl hne
      | cons e rest => simp [readUnicodeDigits, hfound]

/-- Whether an escape with a number is complete where a text starts with one. -/
def EscapeComplete (t : Text) : Prop :=
  ∀ u, t = '\\' :: 'u' :: u → ∃ m v, Quad m u v ∧ v ≠ []

theorem escape_of_readUnicodeEscape {t rest : Text} {p : CodePoint}
    (h : readUnicodeEscape t = .ok (p, rest)) (hnext : EscapeComplete rest) :
    UnicodeEscape p t rest := by
  obtain ⟨⟨n, t₁⟩, hn, h⟩ := ok_of_bind h
  obtain ⟨hquad, hne⟩ := readUnicodeDigits_eq_ok_iff.1 hn
  by_cases hhigh : isHighSurrogate n = true
  · simp only [hhigh, if_true] at h
    split at h
    · rename_i second c after hdrop
      obtain ⟨⟨m, t₂⟩, hm, h⟩ := ok_of_bind h
      obtain ⟨hquad', hne'⟩ := readUnicodeDigits_eq_ok_iff.1 hm
      by_cases hlow : isLowSurrogate m = true
      · simp only [hlow, if_true, Except.ok.injEq, Prod.mk.injEq] at h
        obtain ⟨rfl, rfl⟩ := h
        exact .pair hquad hhigh hquad' hlow
      · simp only [hlow, Bool.false_eq_true, if_false, Except.ok.injEq, Prod.mk.injEq] at h
        obtain ⟨rfl, rfl⟩ := h
        refine .half hquad hhigh fun m' u v hu hm' => ?_
        obtain rfl : second = u := by simpa using hu
        rw [hquad'.number_eq hm'] at hlow
        simpa using hlow
    · rename_i hnot
      simp only [Except.ok.injEq, Prod.mk.injEq] at h
      obtain ⟨rfl, rfl⟩ := h
      refine .half hquad hhigh fun m u v hu hm => ?_
      -- the reader would have gone on with the second escape, which is complete
      obtain ⟨m', v', hm', hv'⟩ := hnext u hu
      obtain ⟨c, after, hdrop⟩ := List.exists_cons_of_ne_nil (hm'.drop_eq ▸ hv')
      subst hu
      exact (hnot u c after rfl hdrop).elim
  · simp only [hhigh, Bool.false_eq_true, if_false, Except.ok.injEq, Prod.mk.injEq] at h
    obtain ⟨rfl, rfl⟩ := h
    exact .plain hquad (by simpa using hhigh)

theorem UnicodeEscape.readUnicodeEscape_eq {t rest : Text} {p : CodePoint}
    (h : UnicodeEscape p t rest) (hne : rest ≠ []) (hnext : EscapeComplete rest) :
    readUnicodeEscape t = .ok (p, rest) := by
  cases h with
  | plain hn hhigh =>
    have hfirst := readUnicodeDigits_eq_ok_iff.2 ⟨hn, hne⟩
    simp [readUnicodeEscape, hfirst, hhigh, bind, Except.bind]
  | pair hn hhigh hm hlow =>
    have hfirst := readUnicodeDigits_eq_ok_iff.2 ⟨hn, by simp⟩
    have hsecond := readUnicodeDigits_eq_ok_iff.2 ⟨hm, hne⟩
    obtain ⟨c, after, hdrop⟩ := List.exists_cons_of_ne_nil (hm.drop_eq ▸ hne)
    simp [readUnicodeEscape, hfirst, hsecond, hhigh, hlow, hdrop, bind, Except.bind]
  | half hn hhigh halone =>
    have hfirst := readUnicodeDigits_eq_ok_iff.2 ⟨hn, hne⟩
    by_cases hu : ∃ u, rest = '\\' :: 'u' :: u
    · obtain ⟨u, rfl⟩ := hu
      obtain ⟨m, v, hm, hv⟩ := hnext u rfl
      have hsecond := readUnicodeDigits_eq_ok_iff.2 ⟨hm, hv⟩
      have hlow := halone m u v rfl hm
      obtain ⟨c, after, hdrop⟩ := List.exists_cons_of_ne_nil (hm.drop_eq ▸ hv)
      simp [readUnicodeEscape, hfirst, hsecond, hhigh, hlow, hdrop, bind, Except.bind]
    · simp only [readUnicodeEscape, hfirst, hhigh, if_true, bind, Except.bind]
      split
      · exact absurd ⟨_, rfl⟩ hu
      · rfl

/-- What is left of a string is not empty, and an escape at its front is complete. -/
theorem Chars.next {s : CodeText} {t rest : Text} (h : Chars s t rest) :
    t ≠ [] ∧ EscapeComplete t := by
  induction h with
  | close => exact ⟨by simp, by simp [EscapeComplete]⟩
  | raw hquote hbackslash hcontrol h ih =>
    exact ⟨by simp, fun u hu => absurd (List.cons.inj hu).1 hbackslash⟩
  | short hc h ih =>
    refine ⟨by simp, fun u hu => ?_⟩
    simp only [List.cons.injEq, true_and] at hu
    simp [hu.1, escaped?] at hc
  | unicode hp h ih =>
    refine ⟨by simp, fun u hu => ?_⟩
    simp only [List.cons.injEq, true_and] at hu
    subst hu
    cases hp with
    | plain hn hhigh => exact ⟨_, _, hn, ih.1⟩
    | pair hn hhigh hm hlow => exact ⟨_, _, hn, by simp⟩
    | half hn hhigh halone => exact ⟨_, _, hn, ih.1⟩

theorem chars_of_readChars {opening t rest : Text} {fuel : Nat} {read s : CodeText}
    (h : readChars opening fuel read t = .ok (s, rest)) :
    ∃ s', s = read.reverse ++ s' ∧ Chars s' t rest := by
  fun_induction readChars opening fuel read t with
  | case1 => simp at h
  | case2 => simp at h
  | case3 fuel read rest' =>
    simp only [Except.ok.injEq, Prod.mk.injEq] at h
    obtain ⟨rfl, rfl⟩ := h
    exact ⟨[], by simp, .close⟩
  | case4 => simp at h
  | case5 fuel read t ih =>
    obtain ⟨⟨p, t₁⟩, hp, h⟩ := ok_of_bind h
    obtain ⟨s', rfl, hs'⟩ := ih p t₁ h
    exact ⟨p :: s', by simp, .unicode (escape_of_readUnicodeEscape hp hs'.next.2) hs'⟩
  | case6 fuel read c t hu d hd ih =>
    obtain ⟨s', rfl, hs'⟩ := ih h
    exact ⟨.ofChar d :: s', by simp, .short hd hs'⟩
  | case7 => simp at h
  | case8 => simp at h
  | case9 fuel read c t hquote hnil hunicode hshort hcontrol ih =>
    obtain ⟨s', rfl, hs'⟩ := ih h
    have hbackslash : c ≠ '\\' := by
      rintro rfl
      cases t with
      | nil => exact hnil rfl rfl
      | cons d t => exact hshort d t rfl rfl
    exact ⟨.ofChar c :: s', by simp, .raw hquote hbackslash (Nat.le_of_not_lt hcontrol) hs'⟩

theorem Chars.readChars_eq {s : CodeText} {t rest : Text} (h : Chars s t rest) (opening : Text)
    {fuel : Nat} (hfuel : t.length < fuel) (read : CodeText) :
    readChars opening fuel read t = .ok (read.reverse ++ s, rest) := by
  induction h generalizing fuel read with
  | close =>
    cases fuel with
    | zero => simp at hfuel
    | succ fuel => simp [readChars]
  | @raw c s t rest hquote hbackslash hcontrol h ih =>
    cases fuel with
    | zero => simp at hfuel
    | succ fuel =>
      have ih := ih (Nat.lt_of_succ_lt_succ hfuel) (.ofChar c :: read)
      rw [readChars.eq_def]
      simp [hbackslash, Nat.not_lt.2 hcontrol, ih]
  | @short c d s t rest hc h ih =>
    cases fuel with
    | zero => simp at hfuel
    | succ fuel =>
      have ih := ih (Nat.lt_of_succ_lt (Nat.lt_of_succ_lt_succ hfuel)) (.ofChar d :: read)
      have hu : c ≠ 'u' := by
        rintro rfl
        simp [escaped?] at hc
      rw [readChars.eq_def]
      simp [hc, ih]
  | @unicode p s t t₁ rest hp h ih =>
    cases fuel with
    | zero => simp at hfuel
    | succ fuel =>
      have hlength := hp.suffix.length_le
      simp only [List.length_cons] at hfuel
      have hfuel' : t₁.length < fuel := by omega
      have ih := ih hfuel' (p :: read)
      rw [readChars, hp.readUnicodeEscape_eq h.next.1 h.next.2]
      simpa [bind, Except.bind] using ih

/-- A string is read from its opening quote on as it is written. -/
theorem readString_eq_ok_iff {s : CodeText} {t rest : Text} :
    readString t = .ok (s, rest) ↔ Chars s t rest := by
  constructor
  · intro h
    obtain ⟨s', rfl, hs'⟩ := chars_of_readChars h
    simpa using hs'
  · intro h
    simpa [readString] using h.readChars_eq ('"' :: t) (Nat.lt_succ_self t.length) []

theorem readUnicodeDigits_ne_tooLong (t : Text) (n : Nat) :
    readUnicodeDigits t ≠ .error (.integerTooLong n) := by
  intro h
  rw [readUnicodeDigits] at h
  split at h <;> simp at h

theorem readUnicodeEscape_ne_tooLong (t : Text) (n : Nat) :
    readUnicodeEscape t ≠ .error (.integerTooLong n) := by
  intro h
  rcases error_of_bind h with h | ⟨⟨m, v⟩, -, h⟩
  · exact readUnicodeDigits_ne_tooLong t n h
  · simp only at h
    split at h
    · split at h
      · rename_i second _ _ _
        rcases error_of_bind h with h | ⟨⟨m', v'⟩, -, h⟩
        · exact readUnicodeDigits_ne_tooLong second n h
        · simp only at h
          split at h <;> simp at h
      · simp at h
    · simp at h

theorem readChars_ne_tooLong (opening : Text) (fuel : Nat) (read : CodeText) (t : Text) (n : Nat) :
    readChars opening fuel read t ≠ .error (.integerTooLong n) := by
  intro h
  fun_induction readChars opening fuel read t with
  | case1 | case2 | case3 | case4 | case7 | case8 => simp at h
  | case5 fuel read t ih =>
    rcases error_of_bind h with h | ⟨⟨p, v⟩, -, h⟩
    · exact readUnicodeEscape_ne_tooLong t n h
    · exact ih p v h
  | case6 fuel read c t hu d hd ih => exact ih h
  | case9 fuel read c t hquote hnil hunicode hshort hcontrol ih => exact ih h

/-- No string is refused for an integer. -/
theorem readString_ne_tooLong (t : Text) (n : Nat) : readString t ≠ .error (.integerTooLong n) :=
  readChars_ne_tooLong _ _ _ _ n

end TextMacros.Json
