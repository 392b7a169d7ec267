import TextMacros.Proofs.Expansion.Steps

/-!
# TextMacros.Proofs.Expansion.SelfReference

Values that refer to their own names.

A value is a `BareReference` to a name if it is a token of that name and nothing else.  Putting
such a value in its own place would never settle, so the default given at the token is taken
instead, and it becomes the whole text.  But what a step looks at is the first token of the
value, wherever it stands (`refersTo_iff`).  A value with more text around its reference, such as
a list that adds to itself, is treated alike (`refersTo_between`), although it is no bare
reference any more (`bareReference_between_iff`), and the text around the token is lost.

What comes of such a text is what comes of the default that is taken, with the steps made until
then off the bound; without any default the value takes its own place for ever.  Main statements:

* `expand_selfReference`: the outcome of a text whose first token bears such a name;
* `surroundings_lost`: text around a token is lost although the value is no bare reference;
* `restart_iff_first_token`: when the text around a token is lost, and what is left.
-/

namespace TextMacros

variable {rules : Rules} {name text v a : Text} {token : Token}

/-! ## references in values -/

/-- Whether a value is a token of a name and nothing else. -/
def BareReference (name value : Text) : Prop :=
  ∃ token ∈ Token.find? value 0,
    token.name = name ∧ token.start = 0 ∧ token.stop + 1 = value.length

instance (name value : Text) : Decidable (BareReference name value) :=
  inferInstanceAs (Decidable (∃ token ∈ Token.find? value 0, _))

/-- A value refers to a name if its first token bears it, wherever that stands. -/
theorem refersTo_iff :
    refersTo name v = true ↔ ∃ token, Token.find? v 0 = some token ∧ token.name = name := by
  unfold refersTo
  rw [beq_iff_eq, Option.map_eq_some_iff]

/-- A value that refers to a name still does with an inert text in front and any text behind. -/
theorem refersTo_between (ha : Inert a) (h : refersTo name v = true) (b : Text) :
    refersTo name (a ++ v ++ b) = true := by
  obtain ⟨token, hfind, hname⟩ := refersTo_iff.1 h
  exact refersTo_iff.2 ⟨token.shift a.length, Token.find?_between ha hfind b, hname⟩

theorem BareReference.refersTo (h : BareReference name v) : refersTo name v = true := by
  obtain ⟨token, hfind, hname, -, -⟩ := h
  exact refersTo_iff.2 ⟨token, hfind, hname⟩

/-- But a bare reference is none any more with any text around it. -/
theorem bareReference_between_iff (ha : Inert a) (h : BareReference name v) (b : Text) :
    BareReference name (a ++ v ++ b) ↔ a = [] ∧ b = [] := by
  constructor
  · obtain ⟨token, hfind, -, hstart, hstop⟩ := h
    rintro ⟨whole, hwhole, -, hfront, hend⟩
    rw [Token.find?_between ha hfind b, Option.mem_some_iff] at hwhole
    subst hwhole
    simp only [Token.start_shift, Token.stop_shift, List.length_append] at hfront hend
    constructor
    · exact List.length_eq_zero_iff.1 (by omega)
    · exact List.length_eq_zero_iff.1 (by omega)
  · rintro ⟨rfl, rfl⟩
    simpa using h

/-! ## a step that replaces the whole text -/

theorem Action.due_restart_iff {r : Text} :
    Action.Due rules token (.restart r) ↔ rules.isName token.name = true ∧
      ∃ v, rules.value? token.name = some v ∧ refersTo token.name v = true ∧
        r = token.default?.getD v := by
  constructor
  · intro hdue
    cases hdue with
    | restart name value refers => exact ⟨name, _, value, refers, rfl⟩
  · rintro ⟨hname, v, hvalue, hrefers, rfl⟩
    exact .restart hname hvalue hrefers

/-- A text whose first token bears a name that its own value refers to makes way for the default
of the token, or else for that value: the rest of the expansion is the expansion of these. -/
theorem expand_of_refersTo {bound : Int} (first : Token.find? text 0 = some token)
    (hname : rules.isName token.name = true) (hvalue : rules.value? token.name = some v)
    (hrefers : refersTo token.name v = true) (hbound : 0 ≤ bound) :
    expand rules text bound = (expand rules (token.default?.getD v) (bound - 1)).cons
      ⟨token, .restart (token.default?.getD v)⟩ := by
  have hdue : Action.Due rules token (.restart (token.default?.getD v)) :=
    .restart hname hvalue hrefers
  have hstep : (Expansion.start text).step? rules =
      some (⟨token, .restart (token.default?.getD v)⟩, .start (token.default?.getD v)) :=
    Expansion.step?_eq_some_iff.2 ⟨first, hdue, rfl⟩
  have hbudget : (bound + 1).toNat = (bound - 1 + 1).toNat + 1 := by omega
  rw [expand, hbudget, Expansion.run_of_step?_eq_some hstep]
  rfl

/-! ## the outcome -/

/-- A name whose value has a first token of the same name, wherever that stands in it. -/
structure SelfReference (rules : Rules) (name value : Text) (inner : Token) : Prop where
  /-- It is a name. -/
  isName : rules.isName name = true
  /-- It has the value. -/
  value? : rules.value? name = some value
  /-- The value has the token. -/
  first : Token.find? value 0 = some inner
  /-- The token bears the name. -/
  name_eq : inner.name = name

/-- A text whose first token bears such a name makes way for the default of the token, or else for
the value. -/
theorem SelfReference.expand_eq {inner : Token} {bound : Int}
    (self : SelfReference rules name v inner) (first : Token.find? text 0 = some token)
    (hname : token.name = name) (hbound : 0 ≤ bound) :
    expand rules text bound = (expand rules (token.default?.getD v) (bound - 1)).cons
      ⟨token, .restart (token.default?.getD v)⟩ := by
  subst hname
  exact expand_of_refersTo first self.isName self.value?
    (refersTo_iff.2 ⟨inner, self.first, self.name_eq⟩) hbound

/-- Where neither the token nor its value gives a default, the value is put in again and again,
and each time the name is asked for. -/
theorem SelfReference.expand_of_noDefault {inner : Token}
    (self : SelfReference rules name v inner) (hinner : inner.default? = none) (n : Nat)
    (first : Token.find? text 0 = some token) (hname : token.name = name)
    (hdefault : token.default? = none) :
    (expand rules text n).result = .error v ∧
      (expand rules text n).lookups = List.replicate (n + 1) name := by
  induction n generalizing text token with
  | zero =>
    rw [self.expand_eq first hname (Int.natCast_nonneg 0), hdefault, Option.getD_none,
      expand_of_neg (by decide)]
    exact ⟨rfl, congrArg ([·]) hname⟩
  | succ n ih =>
    -- the text is now the value, and its first token has no default either
    obtain ⟨hresult, hlookups⟩ := ih self.first self.name_eq hinner
    have hbound : ((n + 1 : Nat) : Int) - 1 = n := by omega
    rw [self.expand_eq first hname (Int.natCast_nonneg _), hdefault, Option.getD_none, hbound,
      Run.result_cons, Run.lookups_cons rfl, hresult, hlookups, hname]
    exact ⟨rfl, rfl⟩

/-- **Self-references, exactly**: let the first token of a text bear a name whose value has a first
token of the same name.  If the token of the text has a default, the outcome is that of the
default with one step less; else, if the token of the value has one, it is that of this default
with two steps less, where one step alone leaves the value; and if neither has a default, every
bound is exceeded with the value as the text, after one look-up of the name more than the bound
allows steps. -/
theorem expand_selfReference {inner : Token} (self : SelfReference rules name v inner)
    (first : Token.find? text 0 = some token) (bears : token.name = name) :
    (∀ d, token.default? = some d → ∀ bound : Int, 0 ≤ bound →
      (expand rules text bound).result = (expand rules d (bound - 1)).result) ∧
    (token.default? = none → ∀ d, inner.default? = some d →
      (∀ bound : Int, 1 ≤ bound →
        (expand rules text bound).result = (expand rules d (bound - 2)).result) ∧
      (expand rules text 0).result = .error v) ∧
    (token.default? = none → inner.default? = none → ∀ bound : Int, 0 ≤ bound →
      (expand rules text bound).result = .error v ∧
      (expand rules text bound).lookups = List.replicate (bound + 1).toNat name) ∧
    (expand rules text (-1)).result = .error text := by
  refine ⟨fun d hd bound hbound => ?_, fun hnone d hd => ⟨fun bound hbound => ?_, ?_⟩,
    fun hnone hinner bound hbound => ?_, ?_⟩
  · rw [self.expand_eq first bears hbound, hd]
    rfl
  · have htwo : bound - 1 - 1 = bound - 2 := by omega
    rw [self.expand_eq first bears (by omega), hnone, Option.getD_none, Run.result_cons,
      self.expand_eq self.first self.name_eq (by omega), hd, Option.getD_some, Run.result_cons,
      htwo]
  · rw [self.expand_eq first bears (Int.le_refl 0), hnone, Option.getD_none, Run.result_cons,
      expand_of_neg (by decide)]
    rfl
  · obtain ⟨n, rfl⟩ := Int.eq_ofNat_of_zero_le hbound
    exact self.expand_of_noDefault hinner n first bears hnone
  · rw [expand_of_neg (by decide)]
    rfl

/-- A bare reference, used with a default and without one, and a reference with a default of its
own between other text; with bounds that allow the steps, and with some that do not. -/
theorem expand_selfReference_of_three :
    let bare := Text.ofString "$\x7bS\x7d"
    let list := Text.ofString "/x:$(P=$(S=0)):$(S)"
    let rules := Rules.ofPairs [(['S'], bare), (['P'], list)]
    let default := Text.ofString "a $(S=$(P)) b"
    let uses := Text.ofString "a $\x7bP\x7d b"
    (SelfReference rules ['S'] bare ⟨['S'], none, 0, 3⟩ ∧
      SelfReference rules ['P'] list ⟨['P'], some (.ofString "$(S=0)"), 3, 13⟩) ∧
    (expand rules default 5).result = (expand rules (.ofString "$(P)") 4).result ∧
    ((expand rules uses 3).result = (expand rules (.ofString "$(S=0)") 1).result ∧
      (expand rules uses 0).result = .error list) ∧
    ((expand rules (.ofString "a $(S) b") 7).result = .error bare ∧
      (expand rules (.ofString "a $(S) b") 7).lookups = List.replicate 8 ['S']) := by
  intro bare list rules default uses
  have hbare : SelfReference rules ['S'] bare ⟨['S'], none, 0, 3⟩ :=
    ⟨by decide +kernel, by decide +kernel, by decide +kernel, rfl⟩
  have hlist : SelfReference rules ['P'] list ⟨['P'], some (.ofString "$(S=0)"), 3, 13⟩ :=
    ⟨by decide +kernel, by decide +kernel, by decide +kernel, rfl⟩
  have hwith : Token.find? default 0 = some ⟨['S'], some (.ofString "$(P)"), 2, 10⟩ := by
    decide +kernel
  have hwithout : Token.find? (.ofString "a $(S) b") 0 = some ⟨['S'], none, 2, 5⟩ := by
    decide +kernel
  have huses : Token.find? uses 0 = some ⟨['P'], none, 2, 5⟩ := by decide +kernel
  obtain ⟨hdefault, -⟩ := expand_selfReference hbare hwith rfl
  obtain ⟨-, hown, -⟩ := expand_selfReference hlist huses rfl
  obtain ⟨-, -, hnone, -⟩ := expand_selfReference hbare hwithout rfl
  exact ⟨⟨hbare, hlist⟩, hdefault _ rfl 5 (by decide), ⟨(hown rfl _ rfl).1 3 (by decide),
    (hown rfl _ rfl).2⟩, hnone rfl rfl 7 (by decide)⟩

/-! ## what is lost -/

/-- The value of a name adds to itself, so it is no bare reference.  Still the text around the
token is lost, and the expansion settles with the default alone, where putting the value in would
exceed the bound. -/
theorem surroundings_lost :
    let path := Text.ofString "PATH"
    let value := Text.ofString "/opt:$(PATH)"
    let rules := Rules.ofPairs [(path, value)]
    let text := Text.ofString "a $(PATH=/bin) b"
    let s : Step := ⟨⟨path, some (.ofString "/bin"), 2, 13⟩, .restart (.ofString "/bin")⟩
    (Expansion.start text).step? rules = some (s, .start (.ofString "/bin")) ∧
      rules.value? path = some value ∧ ¬ BareReference path value ∧
      (expand rules text 1).result = .ok (.ofString "/bin") ∧
      (expand rules text 1).result ≠ .error (.ofString "a /opt:/opt:$(PATH) b") := by
  intro path value rules text s
  have hresult : (expand rules text 1).result = .ok (.ofString "/bin") :=
    Run.result_eq_ok_iff.2 (by decide +kernel)
  refine ⟨by decide +kernel, by decide +kernel, by decide +kernel, hresult, ?_⟩
  simp [hresult]

/-- **When the text around a token is lost**: a step replaces the whole working text if and only
if the token bears a name whose value has a first token of the same name.  What is left then is
the default of the token, or else the value.  It does not matter what else the value holds: a
bare reference has the same effect with an inert text in front of it and any text behind it,
although it is none any more then.  And of a text whose first token bears such a name, nothing
but the default of that token has a say in the result. -/
theorem restart_iff_first_token (rules : Rules) :
    (∀ (e f : Expansion) (s : Step), e.step? rules = some (s, f) →
      ((∃ r, s.action = .restart r) ↔ rules.isName s.token.name = true ∧
        ∃ v first, rules.value? s.token.name = some v ∧ Token.find? v 0 = some first ∧
          first.name = s.token.name) ∧
      ∀ r, s.action = .restart r → f = .start r ∧
        ∃ v, rules.value? s.token.name = some v ∧ r = s.token.default?.getD v) ∧
    (∀ (name a v b : Text), Inert a → BareReference name v →
      refersTo name (a ++ v ++ b) = true ∧
        (BareReference name (a ++ v ++ b) ↔ a = [] ∧ b = [])) ∧
    ∀ (text : Text) (token : Token) (v : Text) (bound : Int),
      Token.find? text 0 = some token → rules.isName token.name = true →
      rules.value? token.name = some v → refersTo token.name v = true → 0 ≤ bound →
      (expand rules text bound).result =
        (expand rules (token.default?.getD v) (bound - 1)).result := by
  refine ⟨fun e f s hstep => ?_, fun name a v b ha h => ?_, ?_⟩
  · obtain ⟨-, hdue, rfl⟩ := Expansion.step?_eq_some_iff.1 hstep
    constructor
    · constructor
      · rintro ⟨r, hr⟩
        rw [hr, Action.due_restart_iff] at hdue
        obtain ⟨hname, v, hvalue, hrefers, -⟩ := hdue
        obtain ⟨first, hfirst, heq⟩ := refersTo_iff.1 hrefers
        exact ⟨hname, v, first, hvalue, hfirst, heq⟩
      · rintro ⟨hname, v, first, hvalue, hfirst, heq⟩
        have hrestart : Action.Due rules s.token (.restart (s.token.default?.getD v)) :=
          .restart hname hvalue (refersTo_iff.2 ⟨first, hfirst, heq⟩)
        -- only one thing is due for a token
        rw [← Action.of_eq_iff] at hdue hrestart
        exact ⟨_, hdue.symm.trans hrestart⟩
    · intro r hr
      rw [hr, Action.due_restart_iff] at hdue
      obtain ⟨-, v, hvalue, -, hreplacement⟩ := hdue
      rw [hr]
      exact ⟨rfl, v, hvalue, hreplacement⟩
  · exact ⟨refersTo_between ha h.refersTo b, bareReference_between_iff ha h b⟩
  · intro text token v bound hfirst hname hvalue hrefers hbound
    rw [expand_of_refersTo hfirst hname hvalue hrefers hbound]
    rfl

/-- A bare reference, the same one in a longer value, and a use of it between other tokens. -/
theorem restart_iff_first_token_of_list :
    let rules := Rules.ofPairs [(['S'], .ofString "$(S)"), (['P'], .ofString "\\$(X) $(P):$(S)")]
    let token : Token := ⟨['P'], some (.ofString "$(X)"), 2, 10⟩
    let s : Step := ⟨token, .restart (.ofString "$(X)")⟩
    let f := Expansion.start (.ofString "$(X)")
    let text := Text.ofString "a $(P=$(X)) $(S)"
    (Expansion.start text).step? rules = some (s, f) ∧
      (∃ v first, rules.value? ['P'] = some v ∧ Token.find? v 0 = some first ∧
        first.name = ['P']) ∧
      (∃ v, rules.value? ['P'] = some v ∧ Text.ofString "$(X)" = token.default?.getD v) ∧
      refersTo ['S'] (.ofString "<" ++ .ofString "$(S)" ++ .ofString ">$(X)") = true ∧
      ¬ BareReference ['S'] (.ofString "<" ++ .ofString "$(S)" ++ .ofString ">$(X)") ∧
      (expand rules text 5).result = (expand rules (.ofString "$(X)") 4).result := by
  intro rules token s f text
  have hstep : (Expansion.start text).step? rules = some (s, f) := by decide +kernel
  obtain ⟨hsteps, hbetween, hexpand⟩ := restart_iff_first_token rules
  obtain ⟨hiff, hleft⟩ := hsteps _ _ _ hstep
  obtain ⟨hrefers, hbare⟩ := hbetween ['S'] (.ofString "<") (.ofString "$(S)")
    (.ofString ">$(X)") (by decide +kernel) (by decide +kernel)
  refine ⟨hstep, (hiff.1 ⟨_, rfl⟩).2, (hleft _ rfl).2, hrefers, ?_, ?_⟩
  · rw [hbare]
    decide
  · exact hexpand text token (.ofString "\\$(X) $(P):$(S)") 5 (by decide +kernel)
      (by decide +kernel) (by decide +kernel) (by decide +kernel) (by decide)

end TextMacros
