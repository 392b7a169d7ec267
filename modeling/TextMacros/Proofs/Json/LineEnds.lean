import TextMacros.MacroFile
import TextMacros.Proofs.Json.Grammar

/-!
# TextMacros.Proofs.Json.LineEnds

JSON texts do not depend on how their lines end.

A line may end with a carriage return, a line feed, or both; texts have the `SameLines` if they
differ in nothing else.  A line end stands only in white space, never in a word, a number or a
string; so each rule of the grammar that holds of a text holds of every text with the same lines,
and what is left behind has the same lines again.  Main statement: `document_unifyLineEnds_iff`.
-/

namespace TextMacros

open MacroFile (unifyLineEnds)

/-! ## texts with the same lines -/

theorem MacroFile.unifyLineEnds_cons (c : Char) (t : Text) :
    unifyLineEnds (c :: t) =
      if c = '\r' then (if t.head? = some '\n' then unifyLineEnds t else '\n' :: unifyLineEnds t)
      else c :: unifyLineEnds t := by
  cases t with
  | nil => by_cases hc : c = '\r' <;> simp [unifyLineEnds, hc]
  | cons d t =>
    by_cases hc : c = '\r'
    · by_cases hd : d = '\n' <;> simp [unifyLineEnds, hc, hd]
    · simp [unifyLineEnds, hc]

/-- Whether two texts differ in nothing but how their lines end. -/
def SameLines (t u : Text) : Prop := unifyLineEnds t = unifyLineEnds u

/-- Whether no line ends in a text. -/
def InLine (t : Text) : Prop := ∀ c ∈ t, c ≠ '\r' ∧ c ≠ '\n'

namespace SameLines

variable {t u : Text} {c : Char}

theorem symm (h : SameLines t u) : SameLines u t := Eq.symm h

theorem eq_nil (h : SameLines [] u) : u = [] := by
  have hnil : unifyLineEnds ([] : Text) = [] := rfl
  rw [SameLines, hnil] at h
  induction u with
  | nil => rfl
  | cons d u ih =>
    rw [MacroFile.unifyLineEnds_cons] at h
    split at h
    · split at h
      · rename_i hfeed
        simp [ih h] at hfeed
      · simp at h
    · simp at h

/-- A text that starts with a line end has the same lines only with texts that do. -/
theorem exists_of_lineFeed (h : unifyLineEnds u = '\n' :: unifyLineEnds t) :
    ∃ u', SameLines t u' ∧ (u = '\n' :: u' ∨ u = '\r' :: u' ∨ u = '\r' :: '\n' :: u') := by
  cases u with
  | nil => simp [unifyLineEnds] at h
  | cons d u =>
    rw [MacroFile.unifyLineEnds_cons] at h
    by_cases hd : d = '\r'
    · rw [if_pos hd] at h
      by_cases hu : u.head? = some '\n'
      · obtain ⟨u', rfl⟩ : ∃ u', u = '\n' :: u' := by
          cases u with
          | nil => simp at hu
          | cons e u => exact ⟨u, by simpa using hu⟩
        rw [if_pos hu, MacroFile.unifyLineEnds_cons, if_neg (by decide)] at h
        exact ⟨u', (List.cons.inj h).2.symm, .inr (.inr (by rw [hd]))⟩
      · rw [if_neg hu] at h
        exact ⟨u, (List.cons.inj h).2.symm, .inr (.inl (by rw [hd]))⟩
    · rw [if_neg hd] at h
      obtain ⟨rfl, htail⟩ := List.cons.inj h
      exact ⟨u, htail.symm, .inl rfl⟩

/-- A character that ends no line stands in every text with the same lines. -/
theorem exists_cons (h : SameLines (c :: t) u) (hc : c ≠ '\r' ∧ c ≠ '\n') :
    ∃ u', u = c :: u' ∧ SameLines t u' := by
  rw [SameLines, MacroFile.unifyLineEnds_cons, if_neg hc.1] at h
  cases u with
  | nil => simp [unifyLineEnds] at h
  | cons d u =>
    rw [MacroFile.unifyLineEnds_cons] at h
    by_cases hd : d = '\r'
    · -- then the other text would start with a line end
      rw [if_pos hd] at h
      split at h
      · rename_i hu
        cases u with
        | nil => simp at hu
        | cons e u =>
          obtain rfl : e = '\n' := by simpa using hu
          rw [MacroFile.unifyLineEnds_cons, if_neg (by decide)] at h
          exact absurd (List.cons.inj h).1 hc.2
      · exact absurd (List.cons.inj h).1 hc.2
    · rw [if_neg hd] at h
      obtain ⟨rfl, htail⟩ := List.cons.inj h
      exact ⟨u, rfl, htail⟩

theorem exists_append {w : Text} (hw : InLine w) (h : SameLines (w ++ t) u) :
    ∃ u', u = w ++ u' ∧ SameLines t u' := by
  induction w generalizing u with
  | nil => exact ⟨u, rfl, h⟩
  | cons c w ih =>
    obtain ⟨u₁, rfl, h₁⟩ := h.exists_cons (hw c List.mem_cons_self)
    obtain ⟨u₂, rfl, h₂⟩ := ih (fun d hd => hw d (List.mem_cons_of_mem c hd)) h₁
    exact ⟨u₂, rfl, h₂⟩

end SameLines

/-- Unifying line ends leaves the lines as they are. -/
theorem sameLines_unifyLineEnds (t : Text) : SameLines (unifyLineEnds t) t := by
  rw [SameLines]
  induction t with
  | nil => rfl
  | cons c t ih =>
    rw [MacroFile.unifyLineEnds_cons]
    split
    · split
      · exact ih
      · rw [MacroFile.unifyLineEnds_cons, if_neg (by decide), ih]
    · rename_i hc
      rw [MacroFile.unifyLineEnds_cons, if_neg hc, ih]

theorem unifyLineEnds_of_inLine {t : Text} (h : InLine t) : unifyLineEnds t = t := by
  induction t with
  | nil => rfl
  | cons c t ih =>
    rw [MacroFile.unifyLineEnds_cons, if_neg (h c List.mem_cons_self).1,
      ih fun d hd => h d (List.mem_cons_of_mem c hd)]

namespace Json

variable {t rest u : Text}

/-! ## white space and numbers -/

theorem Spaces.trans {t₁ t₂ t₃ : Text} (h : Spaces t₁ t₂) (h' : Spaces t₂ t₃) : Spaces t₁ t₃ := by
  induction h with
  | nil => exact h'
  | cons hc h ih => exact .cons hc (ih h')

theorem Spaces.sameLines (h : Spaces t rest) (hu : SameLines t u) :
    ∃ rest', Spaces u rest' ∧ SameLines rest rest' := by
  induction h generalizing u with
  | nil => exact ⟨u, .nil, hu⟩
  | @cons c t rest hc h ih =>
    -- behind a line end, the white space of the other text goes on
    have hline : unifyLineEnds u = '\n' :: unifyLineEnds t →
        ∃ rest', Spaces u rest' ∧ SameLines rest rest' := by
      intro hu
      obtain ⟨u', ht, hform⟩ := SameLines.exists_of_lineFeed hu
      obtain ⟨rest', hspaces, hrest⟩ := ih ht
      refine ⟨rest', Spaces.trans ?_ hspaces, hrest⟩
      rcases hform with rfl | rfl | rfl
      · exact .cons rfl .nil
      · exact .cons rfl .nil
      · exact .cons rfl (.cons rfl .nil)
    by_cases hreturn : c = '\r'
    · rw [SameLines, MacroFile.unifyLineEnds_cons, if_pos hreturn] at hu
      split at hu
      · exact ih hu
      · exact hline hu.symm
    · by_cases hfeed : c = '\n'
      · rw [SameLines, MacroFile.unifyLineEnds_cons, if_neg hreturn, hfeed] at hu
        exact hline hu.symm
      · obtain ⟨u', rfl, ht⟩ := hu.exists_cons ⟨hreturn, hfeed⟩
        obtain ⟨rest', hspaces, hrest⟩ := ih ht
        exact ⟨rest', .cons hc hspaces, hrest⟩

theorem AllDigits.inLine {ds : Text} (h : AllDigits ds) : InLine ds := by
  intro c hc
  have hdigit := h c hc
  constructor <;> rintro rfl <;> simp at hdigit

theorem Whole.inLine {ds : Text} (h : Whole ds) : InLine ds := by
  cases h with
  | zero => simp [InLine]
  | digits hc hdigits => exact hdigits.inLine

theorem Sign.sameLines {s : Int} (h : Sign s t rest) (hu : SameLines t u) :
    ∃ rest', Sign s u rest' ∧ SameLines rest rest' := by
  cases h with
  | plus => exact ⟨u, .plus, hu⟩
  | minus =>
    obtain ⟨u', rfl, ht⟩ := hu.exists_cons (by decide)
    exact ⟨u', .minus, ht⟩

theorem ExponentSign.sameLines {s : Int} (h : ExponentSign s t rest) (hu : SameLines t u) :
    ∃ rest', ExponentSign s u rest' ∧ SameLines rest rest' := by
  cases h with
  | sign h =>
    obtain ⟨rest', h', hrest⟩ := h.sameLines hu
    exact ⟨rest', .sign h', hrest⟩
  | plus =>
    obtain ⟨u', rfl, ht⟩ := hu.exists_cons (by decide)
    exact ⟨u', .plus, ht⟩

theorem Fraction.sameLines {fs : Text} (h : Fraction fs t rest) (hu : SameLines t u) :
    ∃ rest', Fraction fs u rest' ∧ SameLines rest rest' := by
  cases h with
  | absent => exact ⟨u, .absent, hu⟩
  | present hne hdigits =>
    obtain ⟨u₁, rfl, h₁⟩ := hu.exists_cons (by decide)
    obtain ⟨u₂, rfl, h₂⟩ := SameLines.exists_append hdigits.inLine h₁
    exact ⟨u₂, .present hne hdigits, h₂⟩

theorem Exponent.sameLines {exponent? : Option Int} (h : Exponent exponent? t rest)
    (hu : SameLines t u) : ∃ rest', Exponent exponent? u rest' ∧ SameLines rest rest' := by
  cases h with
  | absent => exact ⟨u, .absent, hu⟩
  | present hmark hsign hne hdigits =>
    obtain ⟨u₁, rfl, h₁⟩ := hu.exists_cons (by rcases hmark with rfl | rfl <;> decide)
    obtain ⟨u₂, hsign', h₂⟩ := hsign.sameLines h₁
    obtain ⟨u₃, rfl, h₃⟩ := SameLines.exists_append hdigits.inLine h₂
    exact ⟨u₃, .present hmark hsign' hne hdigits, h₃⟩

theorem Number.sameLines {v : Json CodeText} (h : Number v t rest) (hu : SameLines t u) :
    ∃ rest', Number v u rest' ∧ SameLines rest rest' := by
  cases h with
  | int hsign hwhole hlength =>
    obtain ⟨u₁, hsign', h₁⟩ := hsign.sameLines hu
    obtain ⟨u₂, rfl, h₂⟩ := SameLines.exists_append hwhole.inLine h₁
    exact ⟨u₂, .int hsign' hwhole hlength, h₂⟩
  | real hsign hwhole hfraction hexponent hreal =>
    obtain ⟨u₁, hsign', h₁⟩ := hsign.sameLines hu
    obtain ⟨u₂, rfl, h₂⟩ := SameLines.exists_append hwhole.inLine h₁
    obtain ⟨u₃, hfraction', h₃⟩ := hfraction.sameLines h₂
    obtain ⟨u₄, hexponent', h₄⟩ := hexponent.sameLines h₃
    exact ⟨u₄, .real hsign' hwhole hfraction' hexponent' hreal, h₄⟩

/-! ## strings -/

theorem Quad.sameLines {n : Nat} (h : Quad n t rest) (hu : SameLines t u) :
    ∃ rest', Quad n u rest' ∧ SameLines rest rest' := by
  have hinLine : ∀ {c : Char} {i : Nat}, hexValue? c = some i → c ≠ '\r' ∧ c ≠ '\n' := by
    intro c i hc
    constructor <;> rintro rfl <;> simp [hexValue?] at hc
  cases h with
  | digits ha hb hc hd =>
    obtain ⟨u₁, rfl, h₁⟩ := hu.exists_cons (hinLine ha)
    obtain ⟨u₂, rfl, h₂⟩ := h₁.exists_cons (hinLine hb)
    obtain ⟨u₃, rfl, h₃⟩ := h₂.exists_cons (hinLine hc)
    obtain ⟨u₄, rfl, h₄⟩ := h₃.exists_cons (hinLine hd)
    exact ⟨u₄, .digits ha hb hc hd, h₄⟩

theorem exists_of_sameLines_escape (hu : SameLines ('\\' :: 'u' :: t) u) :
    ∃ u', u = '\\' :: 'u' :: u' ∧ SameLines t u' := by
  obtain ⟨u₁, rfl, h₁⟩ := hu.exists_cons (by decide)
  obtain ⟨u₂, rfl, h₂⟩ := h₁.exists_cons (by decide)
  exact ⟨u₂, rfl, h₂⟩

theorem UnicodeEscape.sameLines {p : CodePoint} (h : UnicodeEscape p t rest)
    (hu : SameLines t u) : ∃ rest', UnicodeEscape p u rest' ∧ SameLines rest rest' := by
  cases h with
  | plain hn hhigh =>
    obtain ⟨u₁, hn', h₁⟩ := hn.sameLines hu
    exact ⟨u₁, .plain hn' hhigh, h₁⟩
  | pair hn hhigh hm hlow =>
    obtain ⟨u₁, hn', h₁⟩ := hn.sameLines hu
    obtain ⟨u₂, rfl, h₂⟩ := exists_of_sameLines_escape h₁
    obtain ⟨u₃, hm', h₃⟩ := hm.sameLines h₂
    exact ⟨u₃, .pair hn' hhigh hm' hlow, h₃⟩
  | half hn hhigh halone =>
    obtain ⟨u₁, hn', h₁⟩ := hn.sameLines hu
    refine ⟨u₁, .half hn' hhigh fun m u₂ u₃ hescape hm => ?_, h₁⟩
    subst hescape
    obtain ⟨t₂, rfl, h₂⟩ := exists_of_sameLines_escape h₁.symm
    obtain ⟨t₃, hm', -⟩ := hm.sameLines h₂
    exact halone m t₂ t₃ rfl hm'

theorem Chars.sameLines {s : CodeText} (h : Chars s t rest) (hu : SameLines t u) :
    ∃ rest', Chars s u rest' ∧ SameLines rest rest' := by
  induction h generalizing u with
  | close =>
    obtain ⟨u₁, rfl, h₁⟩ := hu.exists_cons (by decide)
    exact ⟨u₁, .close, h₁⟩
  | raw hquote hbackslash hcontrol h ih =>
    have hinLine : ∀ {c : Char}, 0x20 ≤ c.toNat → c ≠ '\r' ∧ c ≠ '\n' := by
      intro c hc
      constructor <;> rintro rfl <;> simp at hc
    obtain ⟨u₁, rfl, h₁⟩ := hu.exists_cons (hinLine hcontrol)
    obtain ⟨u₂, h', h₂⟩ := ih h₁
    exact ⟨u₂, .raw hquote hbackslash hcontrol h', h₂⟩
  | short hc h ih =>
    have hinLine : ∀ {c d : Char}, escaped? c = some d → c ≠ '\r' ∧ c ≠ '\n' := by
      intro c d hc
      constructor <;> rintro rfl <;> simp [escaped?] at hc
    obtain ⟨u₁, rfl, h₁⟩ := hu.exists_cons (by decide)
    obtain ⟨u₂, rfl, h₂⟩ := h₁.exists_cons (hinLine hc)
    obtain ⟨u₃, h', h₃⟩ := ih h₂
    exact ⟨u₃, .short hc h', h₃⟩
  | unicode hp h ih =>
    obtain ⟨u₁, rfl, h₁⟩ := exists_of_sameLines_escape hu
    obtain ⟨u₂, hp', h₂⟩ := hp.sameLines h₁
    obtain ⟨u₃, h', h₃⟩ := ih h₂
    exact ⟨u₃, .unicode hp' h', h₃⟩

/-! ## values -/

theorem Spaces.sameLines_cons {c : Char} (h : Spaces t (c :: rest)) (hu : SameLines t u)
    (hc : c ≠ '\r' ∧ c ≠ '\n') : ∃ rest', Spaces u (c :: rest') ∧ SameLines rest rest' := by
  obtain ⟨u₁, h', h₁⟩ := h.sameLines hu
  obtain ⟨u₂, rfl, h₂⟩ := h₁.exists_cons hc
  exact ⟨u₂, h', h₂⟩

theorem inLine_of_mem_words {w : Text} {v : Json CodeText} (h : (w, v) ∈ words) : InLine w := by
  have hall : ∀ p ∈ words, InLine p.1 := by
    simp [words, InLine, Text.ofString]
  exact hall _ h

mutual

theorem Value.sameLines {v : Json CodeText} {t rest u : Text} (h : Value v t rest)
    (hu : SameLines t u) : ∃ rest', Value v u rest' ∧ SameLines rest rest' := by
  cases h with
  | word h =>
    obtain ⟨u₁, rfl, h₁⟩ := SameLines.exists_append (inLine_of_mem_words h) hu
    exact ⟨u₁, .word h, h₁⟩
  | number h =>
    obtain ⟨u₁, h', h₁⟩ := h.sameLines hu
    exact ⟨u₁, .number h', h₁⟩
  | string h =>
    obtain ⟨u₁, rfl, h₁⟩ := hu.exists_cons (by decide)
    obtain ⟨u₂, h', h₂⟩ := h.sameLines h₁
    exact ⟨u₂, .string h', h₂⟩
  | emptyList h =>
    obtain ⟨u₁, rfl, h₁⟩ := hu.exists_cons (by decide)
    obtain ⟨u₂, h', h₂⟩ := h.sameLines_cons h₁ (by decide)
    exact ⟨u₂, .emptyList h', h₂⟩
  | list hspaces h =>
    obtain ⟨u₁, rfl, h₁⟩ := hu.exists_cons (by decide)
    obtain ⟨u₂, hspaces', h₂⟩ := hspaces.sameLines h₁
    obtain ⟨u₃, h', h₃⟩ := h.sameLines h₂
    exact ⟨u₃, .list hspaces' h', h₃⟩
  | emptyObject h =>
    obtain ⟨u₁, rfl, h₁⟩ := hu.exists_cons (by decide)
    obtain ⟨u₂, h', h₂⟩ := h.sameLines_cons h₁ (by decide)
    exact ⟨u₂, .emptyObject h', h₂⟩
  | object hspaces h =>
    obtain ⟨u₁, rfl, h₁⟩ := hu.exists_cons (by decide)
    obtain ⟨u₂, hspaces', h₂⟩ := hspaces.sameLines h₁
    obtain ⟨u₃, h', h₃⟩ := h.sameLines h₂
    exact ⟨u₃, .object hspaces' h', h₃⟩

theorem Items.sameLines {items : List (Json CodeText)} {t rest u : Text} (h : Items items t rest)
    (hu : SameLines t u) : ∃ rest', Items items u rest' ∧ SameLines rest rest' := by
  cases h with
  | last hitem hclose =>
    obtain ⟨u₁, hitem', h₁⟩ := hitem.sameLines hu
    obtain ⟨u₂, hclose', h₂⟩ := hclose.sameLines_cons h₁ (by decide)
    exact ⟨u₂, .last hitem' hclose', h₂⟩
  | more hitem hcomma hspaces h =>
    obtain ⟨u₁, hitem', h₁⟩ := hitem.sameLines hu
    obtain ⟨u₂, hcomma', h₂⟩ := hcomma.sameLines_cons h₁ (by decide)
    obtain ⟨u₃, hspaces', h₃⟩ := hspaces.sameLines h₂
    obtain ⟨u₄, h', h₄⟩ := h.sameLines h₃
    exact ⟨u₄, .more hitem' hcomma' hspaces' h', h₄⟩

theorem Member.sameLines {m : CodeText × Json CodeText} {t rest u : Text} (h : Member m t rest)
    (hu : SameLines t u) : ∃ rest', Member m u rest' ∧ SameLines rest rest' := by
  cases h with
  | parts hname hcolon hspaces h =>
    obtain ⟨u₁, rfl, h₁⟩ := hu.exists_cons (by decide)
    obtain ⟨u₂, hname', h₂⟩ := hname.sameLines h₁
    obtain ⟨u₃, hcolon', h₃⟩ := hcolon.sameLines_cons h₂ (by decide)
    obtain ⟨u₄, hspaces', h₄⟩ := hspaces.sameLines h₃
    obtain ⟨u₅, h', h₅⟩ := h.sameLines h₄
    exact ⟨u₅, .parts hname' hcolon' hspaces' h', h₅⟩

theorem Members.sameLines {members : List (CodeText × Json CodeText)} {t rest u : Text}
    (h : Members members t rest) (hu : SameLines t u) :
    ∃ rest', Members members u rest' ∧ SameLines rest rest' := by
  cases h with
  | last hmember hclose =>
    obtain ⟨u₁, hmember', h₁⟩ := hmember.sameLines hu
    obtain ⟨u₂, hclose', h₂⟩ := hclose.sameLines_cons h₁ (by decide)
    exact ⟨u₂, .last hmember' hclose', h₂⟩
  | more hmember hcomma hspaces h =>
    obtain ⟨u₁, hmember', h₁⟩ := hmember.sameLines hu
    obtain ⟨u₂, hcomma', h₂⟩ := hcomma.sameLines_cons h₁ (by decide)
    obtain ⟨u₃, hspaces', h₃⟩ := hspaces.sameLines h₂
    obtain ⟨u₄, h', h₄⟩ := h.sameLines h₃
    exact ⟨u₄, .more hmember' hcomma' hspaces' h', h₄⟩

end

theorem Document.sameLines {v : Json CodeText} (h : Document v t) (hu : SameLines t u) :
    Document v u := by
  obtain ⟨t₁, t₂, hbefore, hvalue, hafter⟩ := h
  obtain ⟨u₁, hbefore', h₁⟩ := hbefore.sameLines hu
  obtain ⟨u₂, hvalue', h₂⟩ := hvalue.sameLines h₁
  obtain ⟨u₃, hafter', h₃⟩ := hafter.sameLines h₂
  rw [h₃.eq_nil] at hafter'
  exact ⟨u₁, u₂, hbefore', hvalue', hafter'⟩

/-- **Line ends do not count**: with its line ends unified, a text writes the same value. -/
theorem document_unifyLineEnds_iff {v : Json CodeText} :
    Document v (unifyLineEnds t) ↔ Document v t :=
  ⟨fun h => h.sameLines (sameLines_unifyLineEnds t),
    fun h => h.sameLines (sameLines_unifyLineEnds t).symm⟩

end Json

end TextMacros
