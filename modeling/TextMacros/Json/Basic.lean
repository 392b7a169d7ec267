import TextMacros.Text.Quoted

/-!
# TextMacros.Json.Basic

JSON values.  Objects keep their members as they were written, in order and with repeated names;
numbers with a fraction or an exponent are kept exactly.  Strings and names are of one type, that
of texts unless something else is said.
-/

namespace TextMacros

/-- A JSON value. -/
inductive Json (σ : Type := Text) where
  /-- The value `null`. -/
  | null
  /-- A truth value. -/
  | bool (value : Bool)
  /-- A number written without fraction and exponent. -/
  | int (value : Int)
  /-- A number written with fraction or exponent: `mantissa` times ten to the `exponent`. -/
  | real (mantissa exponent : Int)
  /-- One of the numbers that are not finite. -/
  | notFinite
  /-- A string. -/
  | text (value : σ)
  /-- An array. -/
  | list (items : List (Json σ))
  /-- An object, with its members as they were written. -/
  | object (members : List (σ × Json σ))

namespace Json

/-- The string that a value is, if it is one. -/
def text? {σ : Type} : Json σ → Option σ
  | text value => some value
  | _ => none

mutual

/-- A value written out with quotes, as it is named in messages. -/
def describe : Json → Text
  | null => .ofString "None"
  | bool true => .ofString "True"
  | bool false => .ofString "False"
  | int n => .ofInt n
  | real mantissa exponent => .ofInt mantissa ++ 'e' :: Text.ofInt exponent
  | notFinite => .ofString "nan"
  | text t => t.quoted
  | list items => '[' :: Text.joined (.ofString ", ") (describeAll items) ++ [']']
  | object members => '{' :: Text.joined (.ofString ", ") (describeMembers members) ++ ['}']

/-- The items of an array, each written out. -/
def describeAll : List Json → List Text
  | [] => []
  | item :: items => describe item :: describeAll items

/-- The members of an object, each written out. -/
def describeMembers : List (Text × Json) → List Text
  | [] => []
  | (name, value) :: members =>
    (name.quoted ++ .ofString ": " ++ describe value) :: describeMembers members

end

end Json

end TextMacros
