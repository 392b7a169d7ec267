import TextMacros.Proofs.Expansion.NamedToken

/-!
# TextMacros.Proofs.Expansion.FlatText

Texts whose tokens yield no further tokens: what comes out, and after how many steps.

```text
flat  ::=  literal  |  literal token flat
```

Literals are inert, and so is what is put for a token, its value or else its default.  The tokens
are settled one by one from the left.  A token for which nothing is put stays as it is written and
is passed over with one step; but putting something for a token takes the scan back to the front,
and then all tokens that stay to its left are passed over anew.  So `FlatText.steps` carries along
how many these are.

A text is `PassedIn` some steps if that many lead past it from the front of any text that starts
with it.  Every token adds a step to them or is taken away after them (`PassedIn.leave`,
`PassedIn.splice`), and the run is one induction along the text (`steps_flat`).  Main statement:
`expand_flat`.
-/

namespace TextMacros

/-! ## flat texts -/

/-- An inert text. -/
abbrev Literal := { t : Text // Inert t }

/-- Literals with tokens between them. -/
inductive FlatText where
  /-- The last literal. -/
  | last (l : Literal)
  /-- A literal, a token behind it, and what follows. -/
  | token (l : Literal) (w : NamedToken) (rest : FlatText)

namespace FlatText

/-- The text as it is written. -/
def text : FlatText → Text
  | last l => l.1
  | token l w rest => l.1 ++ (w.1.text ++ rest.text)

/-- The tokens, from the left. -/
def tokens : FlatText → List NamedToken
  | last _ => []
  | token _ w rest => w :: rest.tokens

section

variable (value? : Text → Option Text)

/-- The text with the tokens settled, before escapes are removed. -/
def settled : FlatText → Text
  | last l => l.1
  | token l w rest => l.1 ++ ((w.put? value?).getD w.1.text ++ rest.settled)

/-- What the text yields: every literal and everything put without its escapes, and the tokens
for which nothing is put as they are written. -/
def answer : FlatText → Text
  | last l => unescape l.1
  | token l w rest =>
    unescape l.1 ++ ((match w.put? value? with
      | some r => unescape r
      | none => w.1.text) ++ rest.answer)

/-- The steps that the tokens take, with `left` tokens to their left for which nothing is put: one
for each further such token, and for any other one more than there are such tokens left of it. -/
def steps (left : Nat) : FlatText → Nat
  | last _ => 0
  | token _ w rest =>
    match w.put? value? with
    | none => 1 + rest.steps (left + 1)
    | some _ => (1 + left) + rest.steps left

end

end FlatText

/-! ## passing over and putting in -/

variable {value? : Text → Option Text} {w : NamedToken} {a l r : Text} {n : Nat}

/-- From the front of any text that starts with `a`, some `n` steps lead past `a` and leave the text
as it is. -/
def PassedIn (rules : Rules) (n : Nat) (a : Text) : Prop :=
  ∀ b, ∃ steps offset, Expansion.Steps rules (.start (a ++ b)) steps ⟨a ++ b, offset⟩ ∧
    steps.length = n ∧ InertFrom offset a

namespace PassedIn

theorem nil (rules : Rules) : PassedIn rules 0 [] :=
  fun b => ⟨[], 0, .nil (.start b), rfl, inert_nil.inertFrom (Nat.le_refl 0)⟩

theorem append {rules : Rules} (h : PassedIn rules n a) (hl : Inert l) :
    PassedIn rules n (a ++ l) := by
  intro b
  obtain ⟨steps, offset, hsteps, hlength, hinert⟩ := h (l ++ b)
  rw [← List.append_assoc] at hsteps
  exact ⟨steps, offset, hsteps, hlength, hinert.append hl⟩

/-- A token for which nothing is put is passed with one step more. -/
theorem leave (h : PassedIn ⟨value?, defaultName.isMatch⟩ n a) (hput : w.put? value? = none) :
    PassedIn ⟨value?, defaultName.isMatch⟩ (n + 1) (a ++ w.1.text) := by
  intro b
  obtain ⟨steps, offset, hsteps, hlength, hinert⟩ := h (w.1.text ++ b)
  have hstep := NamedToken.step?_leave hinert hput b
  rw [List.append_assoc]
  exact ⟨_, _, hsteps.append (.single hstep), by simp [hlength], NamedToken.inertFrom_text hput a⟩

/-- What is put for a token takes its place with one step more, which leads back to the front. -/
theorem splice (h : PassedIn ⟨value?, defaultName.isMatch⟩ n a) (hput : w.put? value? = some r)
    (hr : Inert r) (b : Text) :
    ∃ steps, Expansion.Steps ⟨value?, defaultName.isMatch⟩ (.start (a ++ (w.1.text ++ b))) steps
      (.start (a ++ (r ++ b))) ∧ steps.length = n + 1 := by
  obtain ⟨steps, offset, hsteps, hlength, hinert⟩ := h (w.1.text ++ b)
  have hstep := NamedToken.step?_splice hinert hput (refersTo_of_inert hr _) b
  exact ⟨_, hsteps.append (.single hstep), by simp [hlength]⟩

end PassedIn

/-! ## the run -/

/-- From behind a text that is passed in `n` steps, the tokens of a flat text are settled in as many
steps as are counted for them, and `n` more to pass that text in the end. -/
theorem FlatText.steps_flat (t : FlatText)
    (inert : ∀ w ∈ t.tokens, ∀ r, w.put? value? = some r → Inert r)
    (h : PassedIn ⟨value?, defaultName.isMatch⟩ n a) :
    ∃ steps offset, Expansion.Steps ⟨value?, defaultName.isMatch⟩ (.start (a ++ t.text)) steps
        ⟨a ++ t.settled value?, offset⟩ ∧
      steps.length = n + t.steps value? n ∧ InertFrom offset (a ++ t.settled value?) := by
  induction t generalizing a n with
  | last l => simpa [text, settled, FlatText.steps] using h.append l.2 []
  | token l w rest ih =>
    have hl := h.append l.2
    have hrest : ∀ v ∈ rest.tokens, ∀ r, v.put? value? = some r → Inert r :=
      fun v hv => inert v (List.mem_cons_of_mem w hv)
    cases hput : w.put? value? with
    | none =>
      obtain ⟨steps, offset, hsteps, hlength, hinert⟩ := ih hrest (hl.leave hput)
      refine ⟨steps, offset, ?_, ?_, ?_⟩
      · simpa [text, settled, hput] using hsteps
      · simp only [FlatText.steps, hput]
        omega
      · simpa [settled, hput] using hinert
    | some r =>
      have hr : Inert r := inert w List.mem_cons_self r hput
      obtain ⟨first, hfirst, hcount⟩ := hl.splice hput hr rest.text
      obtain ⟨others, offset, hothers, hlength, hinert⟩ := ih hrest (hl.append hr)
      refine ⟨first ++ others, offset, ?_, ?_, ?_⟩
      · have hall := hfirst.append (by simpa using hothers)
        simpa [text, settled, hput] using hall
      · simp only [FlatText.steps, hput, List.length_append]
        omega
      · simpa [settled, hput] using hinert

namespace FlatText

variable (t : FlatText) (inert : ∀ w ∈ t.tokens, ∀ r, w.put? value? = some r → Inert r)

include inert

/-- Escapes are removed from every piece of a settled text on its own. -/
theorem unescape_settled : unescape (t.settled value?) = t.answer value? := by
  induction t with
  | last l => rfl
  | token l w rest ih =>
    have hrest := ih fun v hv => inert v (List.mem_cons_of_mem w hv)
    rw [settled, answer, unescape_append l.2.getLast?_ne]
    cases hput : w.put? value? with
    | none =>
      have hlast : w.1.text.getLast? ≠ some Bracket.escape := by
        simpa [w.1.getLast?_text] using w.1.kind.closer_ne_escape
      rw [Option.getD_none, unescape_append hlast, hrest,
        unescape_of_noEscape (NamedToken.escape_notMem_text hput)]
    | some r =>
      have hr : Inert r := inert w List.mem_cons_self r hput
      rw [Option.getD_some, unescape_append hr.getLast?_ne, hrest]

end FlatText

/-- **Flat texts, exactly**: let what is put for the tokens of a flat text, their values or else
their trimmed defaults, be inert.  Then the expansion of the text settles within a bound if and
only if the bound allows the steps counted for the text; it yields the literals and what is put,
without their escapes, and the other tokens as they are written, and it takes those steps. -/
theorem expand_flat (value? : Text → Option Text) (t : FlatText) (bound : Int)
    (inert : ∀ w ∈ t.tokens, ∀ r, w.put? value? = some r → Inert r) :
    (∀ r, (expand ⟨value?, defaultName.isMatch⟩ t.text bound).result = .ok r ↔
      t.steps value? 0 ≤ bound ∧ r = t.answer value?) ∧
    (t.steps value? 0 ≤ bound →
      (expand ⟨value?, defaultName.isMatch⟩ t.text bound).steps.length = t.steps value? 0) := by
  obtain ⟨steps, offset, hsteps, hlength, hinert⟩ := t.steps_flat inert (.nil _)
  simp only [List.nil_append, Nat.zero_add] at hsteps hlength hinert
  have hnone : Expansion.step? ⟨value?, defaultName.isMatch⟩ ⟨t.settled value?, offset⟩ = none :=
    Expansion.step?_eq_none_iff.2 (Token.find?_of_inertFrom hinert)
  rw [← hlength, ← t.unescape_settled inert]
  refine ⟨fun r => result_eq_ok_iff_of_steps hsteps hnone, fun hle => ?_⟩
  rw [expand_of_steps_settled hsteps hnone hle]

/-- A name without a value, one with a value, another one with a default, and one more without a
value; dollars are escaped in a literal, in the value and in the default that is used, and the
default that is not used holds the closer of the other kind. -/
theorem expand_flat_of_four :
    let value? : Text → Option Text := fun name => [(['A'], Text.ofString "a\\$")].lookup name
    let U : NamedToken := ⟨⟨.round, ['U'], none, by decide, by decide +kernel⟩, by decide⟩
    let A : NamedToken :=
      ⟨⟨.curly, ['A'], some ['x', ')'], by decide, by decide +kernel⟩, by decide⟩
    let B : NamedToken :=
      ⟨⟨.round, ['B'], some (.ofString " \\$d "), by decide, by decide +kernel⟩, by decide⟩
    let V : NamedToken := ⟨⟨.curly, ['V'], none, by decide, by decide +kernel⟩, by decide⟩
    let empty : Literal := ⟨[], by decide⟩
    let t : FlatText := .token ⟨['\\', '$'], by decide +kernel⟩ U
      (.token ⟨['-'], by decide +kernel⟩ A
        (.token empty B (.token empty V (.last ⟨['.'], by decide +kernel⟩))))
    let rules : Rules := ⟨value?, defaultName.isMatch⟩
    (t.text = .ofString "\\$$(U)-$\x7bA=x)\x7d$(B= \\$d )$\x7bV\x7d." ∧
      ∀ w ∈ t.tokens, ∀ r, w.put? value? = some r → Inert r) ∧
    (expand rules t.text 6).result = .ok (.ofString "$$(U)-a$$d$\x7bV\x7d.") ∧
    (expand rules t.text 6).steps.length = 6 ∧
    ∀ r, (expand rules t.text 5).result ≠ .ok r := by
  intro value? U A B V empty t rules
  have inert : ∀ w ∈ t.tokens, ∀ r, w.put? value? = some r → Inert r := by
    have hall : ∀ w ∈ t.tokens, ∀ r ∈ w.put? value?, Inert r := by decide +kernel
    exact hall
  have hsteps : t.steps value? 0 = 6 := by decide +kernel
  have hanswer : t.answer value? = .ofString "$$(U)-a$$d$\x7bV\x7d." := by decide +kernel
  obtain ⟨hsix, hcount⟩ := expand_flat value? t 6 inert
  obtain ⟨hfive, -⟩ := expand_flat value? t 5 inert
  rw [hsteps] at hsix hcount hfive
  refine ⟨⟨by decide +kernel, inert⟩, ?_, hcount (by decide), fun r hr => ?_⟩
  · exact (hsix _).2 ⟨by decide, hanswer.symm⟩
  · exact absurd ((hfive r).1 hr).1 (by decide)

end TextMacros
