import TextMacros.Text.Basic

/-!
# TextMacros.Dictionary

Dictionaries that keep the order in which their names were first given.

Writing a name that is there replaces its value and keeps its place; a new name goes to the end.
Main statements:

* `get?_insert`: reading after a write gives the value written, or what was there before;
* `names_insert`: a write adds a new name at the end, and moves none;
* `get?_ofList`, `names_ofList`: a dictionary built from pairs holds the last value of each name,
  and the names in the order in which they first come;
* `ext_get?`: the names in their order and their values are all there is to a dictionary;
* `get?_filterMap`: what is made of the values is found under the same names.
-/

namespace TextMacros

variable {α : Type u} {β : Type v} {κ : Type} [DecidableEq κ]

/-! ## writing to a list of pairs -/

/-- Writes a value into a list of pairs: over the pair of that name, or else at the end. -/
def upsert (name : κ) (value : α) : List (κ × α) → List (κ × α)
  | [] => [(name, value)]
  | (n, v) :: rest => if n = name then (name, value) :: rest else (n, v) :: upsert name value rest

theorem map_fst_upsert (name : κ) (value : α) (pairs : List (κ × α)) :
    (upsert name value pairs).map Prod.fst =
      if name ∈ pairs.map Prod.fst then pairs.map Prod.fst else pairs.map Prod.fst ++ [name] := by
  induction pairs with
  | nil => rfl
  | cons p rest ih =>
    obtain ⟨n, v⟩ := p
    by_cases h : n = name
    · simp [upsert, h]
    · simp only [upsert, h, if_false, List.map_cons, ih, List.mem_cons, Ne.symm h, false_or]
      split <;> rfl

theorem lookup_upsert [BEq κ] [LawfulBEq κ] (name n : κ) (value : α) (pairs : List (κ × α)) :
    (upsert name value pairs).lookup n = if n = name then some value else pairs.lookup n := by
  induction pairs with
  | nil => grind [upsert]
  | cons p rest ih => grind [upsert]

omit [DecidableEq κ] in
theorem lookup_eq_none_of_notMem [BEq κ] [LawfulBEq κ] {name : κ} {pairs : List (κ × α)}
    (h : name ∉ pairs.map Prod.fst) : pairs.lookup name = none := by
  rw [List.lookup_eq_none_iff]
  intro p hp
  have hne : name ≠ p.1 := fun heq => h (List.mem_map.2 ⟨p, hp, heq.symm⟩)
  simpa using hne

omit [DecidableEq κ] in
/-- Looking up a name in the pairs that a list gives is a search of the list. -/
theorem lookup_filterMap [BEq κ] [LawfulBEq κ] (f : β → Option (κ × α)) (l : List β) (name : κ) :
    (l.filterMap f).lookup name =
      l.findSome? fun b => (f b).bind fun p => if p.1 == name then some p.2 else none := by
  induction l with
  | nil => rfl
  | cons b l ih =>
    cases h : f b with
    | none => simpa [h] using ih
    | some p =>
      obtain ⟨n, v⟩ := p
      by_cases hn : n = name
      · simp [h, hn]
      · simp [h, hn, ih, List.lookup_cons, beq_false_of_ne (Ne.symm hn)]

/-! ## dictionaries -/

/-- Pairs of a name and a value, in the order of the names' first writing; no name twice.  Names
are texts, unless something else is said. -/
structure Dictionary (α : Type u) (κ : Type := Text) where
  /-- The pairs. -/
  entries : List (κ × α)
  /-- The names differ. -/
  nodup : (entries.map Prod.fst).Nodup := by simp

namespace Dictionary

/-- The dictionary without a name. -/
def empty : Dictionary α κ := ⟨[], by simp⟩

instance : Inhabited (Dictionary α κ) := ⟨empty⟩

/-- The names, in order. -/
def names (d : Dictionary α κ) : List κ := d.entries.map Prod.fst

/-- The value of a name. -/
def get? [BEq κ] (d : Dictionary α κ) (name : κ) : Option α := d.entries.lookup name

/-- The dictionary with a value written. -/
def insert (d : Dictionary α κ) (name : κ) (value : α) : Dictionary α κ where
  entries := upsert name value d.entries
  nodup := by
    rw [map_fst_upsert]
    split
    · exact d.nodup
    · rename_i h
      exact List.nodup_append.2 ⟨d.nodup, by simp, by grind⟩

/-- The dictionary without a name. -/
def erase [BEq κ] (d : Dictionary α κ) (name : κ) : Dictionary α κ where
  entries := d.entries.filter fun p => p.1 != name
  nodup := (List.filter_sublist.map Prod.fst).nodup d.nodup

/-- The dictionary that a list of pairs gives when its pairs are written in order. -/
def ofList (pairs : List (κ × α)) : Dictionary α κ :=
  pairs.foldl (fun d p => d.insert p.1 p.2) empty

/-- What is made of the values; a name whose value gives nothing goes. -/
def filterMap (f : α → Option β) (d : Dictionary α κ) : Dictionary β κ where
  entries := d.entries.filterMap fun p => (f p.2).map (p.1, ·)
  nodup := by
    refine List.Sublist.nodup ?_ d.nodup
    induction d.entries with
    | nil => simp
    | cons p rest ih =>
      cases h : f p.2 with
      | none => simpa [h] using ih.cons p.1
      | some v => simpa [h] using ih

omit [DecidableEq κ] in
@[simp] theorem get?_empty [BEq κ] (name : κ) : (empty : Dictionary α κ).get? name = none := rfl

theorem get?_insert [BEq κ] [LawfulBEq κ] (d : Dictionary α κ) (name n : κ) (value : α) :
    (d.insert name value).get? n = if n = name then some value else d.get? n :=
  lookup_upsert name n value d.entries

theorem names_insert (d : Dictionary α κ) (name : κ) (value : α) :
    (d.insert name value).names = if name ∈ d.names then d.names else d.names ++ [name] :=
  map_fst_upsert name value d.entries

theorem get?_ofList [BEq κ] [LawfulBEq κ] (pairs : List (κ × α)) (name : κ) :
    (ofList pairs).get? name = pairs.reverse.lookup name := by
  have aux : ∀ d : Dictionary α κ, (pairs.foldl (fun d p => d.insert p.1 p.2) d).get? name =
      (pairs.reverse.lookup name).or (d.get? name) := by
    induction pairs with
    | nil => simp
    | cons p rest ih =>
      intro d
      rw [List.foldl_cons, ih, get?_insert, List.reverse_cons, List.lookup_append]
      grind
  simpa [ofList, get?_empty] using aux empty

omit [DecidableEq κ] in
theorem get?_eq_some_iff [BEq κ] [LawfulBEq κ] {d : Dictionary α κ} {name : κ} {value : α} :
    d.get? name = some value ↔ (name, value) ∈ d.entries := by
  obtain ⟨entries, nodup⟩ := d
  rw [get?]
  induction entries with
  | nil => simp
  | cons p rest ih =>
    obtain ⟨n, v⟩ := p
    obtain ⟨hn, hrest⟩ := List.nodup_cons.1 nodup
    by_cases h : name = n
    · subst h
      have hnot : (name, value) ∉ rest := fun hmem => hn (List.mem_map.2 ⟨_, hmem, rfl⟩)
      simp [hnot, eq_comm]
    · simp [List.lookup_cons, beq_false_of_ne h, ih hrest, h]

omit [DecidableEq κ] in
theorem mem_names_iff [BEq κ] [LawfulBEq κ] {d : Dictionary α κ} {name : κ} :
    name ∈ d.names ↔ ∃ value, d.get? name = some value := by
  simp [names, get?_eq_some_iff]

/-- The names of pairs are kept in the order in which they first come. -/
theorem names_ofList [BEq κ] [LawfulBEq κ] (pairs : List (κ × α)) :
    (ofList pairs).names = (pairs.map Prod.fst).eraseDups := by
  have aux : ∀ d : Dictionary α κ, (pairs.foldl (fun d p => d.insert p.1 p.2) d).names =
      d.names ++ ((pairs.map Prod.fst).filter (!d.names.contains ·)).eraseDups := by
    induction pairs with
    | nil => simp
    | cons p rest ih =>
      intro d
      rw [List.foldl_cons, ih, names_insert]
      by_cases h : p.1 ∈ d.names
      · simp [h]
      · -- the name comes next, and is passed over from then on
        have hfilter : (fun n => !(d.names ++ [p.1]).contains n) =
            fun n => !n == p.1 && !d.names.contains n := by
          funext n
          rw [List.contains_append, List.contains_cons, List.contains_nil, Bool.or_false,
            Bool.not_or, Bool.and_comm]
        rw [if_neg h, List.map_cons, List.filter_cons, if_pos (by simpa using h),
          List.eraseDups_cons, List.filter_filter, hfilter, List.append_assoc]
        rfl
  have hstart := aux empty
  have hall : (pairs.map Prod.fst).filter (!(empty : Dictionary α κ).names.contains ·) =
      pairs.map Prod.fst := List.filter_eq_self.2 fun _ _ => rfl
  rwa [hall] at hstart

omit [DecidableEq κ] in
/-- Dictionaries with the same names in the same order, and the same values, are the same. -/
theorem ext_get? [BEq κ] [LawfulBEq κ] {d e : Dictionary α κ} (hnames : d.names = e.names)
    (hvalues : ∀ name, d.get? name = e.get? name) : d = e := by
  obtain ⟨entries, nodup⟩ := d
  obtain ⟨entries', nodup'⟩ := e
  congr
  induction entries generalizing entries' with
  | nil =>
    cases entries' with
    | nil => rfl
    | cons p rest => simp [names] at hnames
  | cons p rest ih =>
    cases entries' with
    | nil => simp [names] at hnames
    | cons p' rest' =>
      obtain ⟨n, v⟩ := p
      obtain ⟨n', v'⟩ := p'
      simp only [names, List.map_cons, List.cons.injEq] at hnames
      obtain ⟨rfl, hnames⟩ := hnames
      obtain ⟨hn, hrest⟩ := List.nodup_cons.1 nodup
      obtain ⟨hn', hrest'⟩ := List.nodup_cons.1 nodup'
      have hv : v = v' := by simpa [get?] using hvalues n
      have htail : rest = rest' := by
        refine ih hrest rest' hrest' hnames fun name => ?_
        by_cases h : name = n
        · -- the first name stands in neither rest
          subst h
          rw [get?, get?, lookup_eq_none_of_notMem hn, lookup_eq_none_of_notMem hn']
        · simpa [get?, List.lookup_cons, beq_false_of_ne h] using hvalues name
      rw [hv, htail]

omit [DecidableEq κ] in
theorem names_filterMap {f : α → Option β} {d : Dictionary α κ}
    (h : ∀ p ∈ d.entries, (f p.2).isSome) : (d.filterMap f).names = d.names := by
  obtain ⟨entries, nodup⟩ := d
  simp only [names, filterMap]
  induction entries with
  | nil => rfl
  | cons p rest ih =>
    obtain ⟨v, hv⟩ := Option.isSome_iff_exists.1 (h p List.mem_cons_self)
    have ih := ih (List.nodup_cons.1 nodup).2 fun q hq => h q (List.mem_cons_of_mem p hq)
    simp [hv, ih]

omit [DecidableEq κ] in
theorem get?_filterMap [BEq κ] [LawfulBEq κ] (f : α → Option β) (d : Dictionary α κ) (name : κ) :
    (d.filterMap f).get? name = (d.get? name).bind f := by
  obtain ⟨entries, nodup⟩ := d
  simp only [get?, filterMap]
  induction entries with
  | nil => rfl
  | cons p rest ih =>
    obtain ⟨n, v⟩ := p
    obtain ⟨hn, hrest⟩ := List.nodup_cons.1 nodup
    have ih := ih hrest
    by_cases h : name = n
    · -- the name stands nowhere else, so a value that gives nothing leaves it without any
      subst h
      have hnone := lookup_eq_none_of_notMem hn
      cases hv : f v with
      | none => simp [hv, ih, hnone]
      | some w => simp [hv]
    · cases hv : f v with
      | none => simp [hv, ih, List.lookup_cons, beq_false_of_ne h]
      | some w => simp [hv, ih, List.lookup_cons, beq_false_of_ne h]

end Dictionary

end TextMacros
