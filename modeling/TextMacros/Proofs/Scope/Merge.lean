import TextMacros.Scope
import TextMacros.Proofs.Expansion.Steps

/-!
# TextMacros.Proofs.Scope.Merge

Chaining scopes is merging their dictionaries.

A chain may have chains for members, and so on, and each of them may be empty.  What a scope asks
in the end are the dictionaries at its `leaves`, from left to right: the first one that has a name
gives its value, be it empty (`lookup_eq_findSome?_leaves`).  So a scope gives the same values as
any one dictionary that keeps to this order, and `Dictionary.merge` makes such a dictionary
(`get?_merge`).  Main statement: `expand_eq_merged`.
-/

namespace TextMacros

/-! ## merging dictionaries -/

namespace Dictionary

/-- The second dictionary with the first one written over it. -/
def overlay (d under : Dictionary α) : Dictionary α :=
  d.entries.foldr (fun p merged => merged.insert p.1 p.2) under

theorem get?_overlay (d under : Dictionary α) (name : Text) :
    (d.overlay under).get? name = (d.get? name).or (under.get? name) := by
  have hwrite : ∀ pairs : List (Text × α),
      (pairs.foldr (fun p merged => merged.insert p.1 p.2) under).get? name =
        (pairs.lookup name).or (under.get? name) := by
    intro pairs
    induction pairs with
    | nil => rfl
    | cons p rest ih =>
      obtain ⟨n, v⟩ := p
      rw [List.foldr_cons, get?_insert, ih, List.lookup_cons]
      by_cases h : name = n
      · simp [h]
      · simp [h, beq_false_of_ne h]
  exact hwrite d.entries

/-- One dictionary for several: the first that has a name gives its value. -/
def merge (ds : List (Dictionary α)) : Dictionary α := ds.foldr overlay empty

theorem get?_merge (ds : List (Dictionary α)) (name : Text) :
    (merge ds).get? name = ds.findSome? (·.get? name) := by
  induction ds with
  | nil => rfl
  | cons d ds ih =>
    have hmerge : merge (d :: ds) = d.overlay (merge ds) := rfl
    rw [hmerge, get?_overlay, ih, List.findSome?_cons]
    cases d.get? name <;> rfl

end Dictionary

/-! ## the leaves of a scope -/

namespace Scope

mutual

/-- The dictionaries that a scope asks, from left to right. -/
def leaves (environments : Environments) : Scope → List (Dictionary Text)
  | mapping values => [values]
  | environment source => [environments source]
  | file _ values => [values]
  | chain members => leavesOfAll environments members

/-- The dictionaries that several scopes ask, from left to right. -/
def leavesOfAll (environments : Environments) : List Scope → List (Dictionary Text)
  | [] => []
  | member :: members => leaves environments member ++ leavesOfAll environments members

end

mutual

/-- The value of a name in a scope is that of the first leaf that has it. -/
theorem lookup_eq_findSome?_leaves (environments : Environments) (scope : Scope) (name : Text) :
    lookup environments scope name = (leaves environments scope).findSome? (·.get? name) := by
  cases scope with
  | mapping values => simp [lookup, leaves]
  | environment source => simp [lookup, leaves]
  | file path values => simp [lookup, leaves]
  | chain members =>
    rw [lookup, leaves]
    exact lookupFirst_eq_findSome?_leaves environments members name

/-- The same for several scopes. -/
theorem lookupFirst_eq_findSome?_leaves (environments : Environments) (members : List Scope)
    (name : Text) : lookupFirst environments members name =
      (leavesOfAll environments members).findSome? (·.get? name) := by
  cases members with
  | nil => rfl
  | cons member members =>
    rw [lookupFirst, leavesOfAll, List.findSome?_append,
      lookup_eq_findSome?_leaves environments member name,
      lookupFirst_eq_findSome?_leaves environments members name]

end

end Scope

/-- **Chaining scopes equals merging dictionaries**: there is a dictionary that gives each name the
value of the first leaf that has it; and with any such dictionary in place of the scope, all names
have the same values, and every text is expanded in the same way, with the same look-ups and the
same outcome. -/
theorem expand_eq_merged (environments : Environments) (scope : Scope) :
    (∀ name, (Dictionary.merge (scope.leaves environments)).get? name =
      (scope.leaves environments).findSome? (·.get? name)) ∧
    ∀ merged : Dictionary Text,
      (∀ name, merged.get? name = (scope.leaves environments).findSome? (·.get? name)) →
      (∀ name, scope.lookup environments name =
        (Scope.mapping merged).lookup environments name) ∧
      ∀ (isName : Text → Bool) (text : Text) (bound : Int),
        expand (scope.rules environments isName) text bound =
          expand ((Scope.mapping merged).rules environments isName) text bound := by
  refine ⟨Dictionary.get?_merge _, fun merged hmerged => ?_⟩
  have hlookup : ∀ name, scope.lookup environments name =
      (Scope.mapping merged).lookup environments name := by
    intro name
    rw [Scope.lookup_eq_findSome?_leaves, ← hmerged, Scope.lookup]
  refine ⟨hlookup, fun isName text bound => ?_⟩
  have hrules : scope.rules environments isName =
      (Scope.mapping merged).rules environments isName := by
    rw [Scope.rules, Scope.rules, funext hlookup]
  rw [hrules]

/-- Chains in chains, two of them empty, with an empty value that hides another one and a value
of the inner scope that names a macro of the outer one. -/
theorem expand_eq_merged_of_nested :
    let inner : Dictionary Text := .ofList [(['A'], []), (['B'], .ofString "<$(C)>")]
    let outer : Dictionary Text := .ofList [(['C'], .ofString "$(A)c"), (['A'], ['a'])]
    let environments : Environments := fun _ => .ofList [(['B'], ['b']), (['D'], ['d'])]
    let scope : Scope := .chain [.chain [], .chain [.mapping inner, .chain []],
      .chain [.file ['f'] outer], .environment .process]
    let merged : Dictionary Text := .ofList [(['A'], []), (['B'], .ofString "<$(C)>"),
      (['C'], .ofString "$(A)c"), (['D'], ['d'])]
    let text := Text.ofString "$(A)$(B)$(D)"
    (∀ name, merged.get? name = (scope.leaves environments).findSome? (·.get? name)) ∧
      (∀ name, scope.lookup environments name =
        (Scope.mapping merged).lookup environments name) ∧
      expand (scope.rules environments defaultName.isMatch) text 5 =
        expand ((Scope.mapping merged).rules environments defaultName.isMatch) text 5 ∧
      (expand (scope.rules environments defaultName.isMatch) text 5).result =
        .ok (.ofString "<c>d") := by
  intro inner outer environments scope merged text
  have hmerged : ∀ name,
      merged.get? name = (scope.leaves environments).findSome? (·.get? name) := by
    intro name
    simp only [merged, scope, inner, outer, environments, Scope.leaves, Scope.leavesOfAll,
      List.nil_append, List.append_nil, List.cons_append, List.findSome?_cons, List.findSome?_nil,
      Dictionary.get?_ofList, List.reverse_cons, List.reverse_nil, List.lookup_cons,
      List.lookup_nil]
    grind
  obtain ⟨-, hall⟩ := expand_eq_merged environments scope
  obtain ⟨hlookup, hexpand⟩ := hall merged hmerged
  have hsame := hexpand defaultName.isMatch text 5
  refine ⟨hmerged, hlookup, hsame, ?_⟩
  rw [hsame, Run.result_eq_ok_iff]
  decide +kernel

end TextMacros
