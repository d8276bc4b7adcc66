import SourceUpgrade.Floating.Rounding

namespace SourceUpgrade.Json

/-!
# JSON values

The values of the JSON data format. An object lists its fields in the order in which they are
written; objects that have been read, and records built by `Value.record`, list them by ascending
key and have each key once.
-/

/-- A number: an integer kept exactly, or a finite floating-point number. -/
inductive Number where
  | integer (value : Int)
  | float (value : Floating.Number)
deriving Repr, DecidableEq

/-- A JSON value. -/
inductive Value where
  | null
  | bool (value : Bool)
  | number (value : Number)
  | string (value : String)
  | array (items : List Value)
  | object (fields : List (String × Value))
deriving Repr

/-- The fields of an object. -/
abbrev Fields : Type := List (String × Value)

namespace Value

instance : Inhabited Value := ⟨.null⟩

mutual

/-- Decide whether two values are equal. -/
def decideEq : (left right : Value) → Decidable (left = right)
  | .null, .null => isTrue rfl
  | .bool left, .bool right =>
      if same : left = right then isTrue (by rw [same]) else isFalse (by simp [same])
  | .number left, .number right =>
      if same : left = right then isTrue (by rw [same]) else isFalse (by simp [same])
  | .string left, .string right =>
      if same : left = right then isTrue (by rw [same]) else isFalse (by simp [same])
  | .array left, .array right =>
      match decideEqItems left right with
      | isTrue same => isTrue (by rw [same])
      | isFalse differs => isFalse (by simp [differs])
  | .object left, .object right =>
      match decideEqFields left right with
      | isTrue same => isTrue (by rw [same])
      | isFalse differs => isFalse (by simp [differs])
  | .null, .bool _ | .null, .number _ | .null, .string _ | .null, .array _ | .null, .object _
  | .bool _, .null | .bool _, .number _ | .bool _, .string _ | .bool _, .array _
  | .bool _, .object _
  | .number _, .null | .number _, .bool _ | .number _, .string _ | .number _, .array _
  | .number _, .object _
  | .string _, .null | .string _, .bool _ | .string _, .number _ | .string _, .array _
  | .string _, .object _
  | .array _, .null | .array _, .bool _ | .array _, .number _ | .array _, .string _
  | .array _, .object _
  | .object _, .null | .object _, .bool _ | .object _, .number _ | .object _, .string _
  | .object _, .array _ => isFalse (by simp)
termination_by structural left => left

/-- Decide whether two lists of values are equal. -/
def decideEqItems : (left right : List Value) → Decidable (left = right)
  | [], [] => isTrue rfl
  | x :: xs, y :: ys =>
      match decideEq x y, decideEqItems xs ys with
      | isTrue sameHead, isTrue sameTail => isTrue (by rw [sameHead, sameTail])
      | isFalse differs, _ => isFalse (by simp [differs])
      | _, isFalse differs => isFalse (by simp [differs])
  | [], _ :: _ | _ :: _, [] => isFalse (by simp)
termination_by structural left => left

/-- Decide whether two lists of fields are equal. -/
def decideEqFields : (left right : List (String × Value)) → Decidable (left = right)
  | [], [] => isTrue rfl
  | (key, x) :: xs, (otherKey, y) :: ys =>
      if sameKey : key = otherKey then
        match decideEq x y, decideEqFields xs ys with
        | isTrue sameHead, isTrue sameTail => isTrue (by rw [sameKey, sameHead, sameTail])
        | isFalse differs, _ => isFalse (by simp [differs])
        | _, isFalse differs => isFalse (by simp [differs])
      else
        isFalse (by simp [sameKey])
  | [], _ :: _ | _ :: _, [] => isFalse (by simp)
termination_by structural left => left

end

instance : DecidableEq Value := decideEq

/-- The integer that a value is, if it is one. -/
def int? : Value → Option Int
  | .number (.integer value) => some value
  | _ => none

/-- The text that a value is, if it is one. -/
def string? : Value → Option String
  | .string value => some value
  | _ => none

/-- A natural number as a value. -/
def ofNat (value : Nat) : Value :=
  .number (.integer value)

/-- A list of texts as a value. -/
def ofStrings (values : List String) : Value :=
  .array (values.map Value.string)

end Value

namespace Fields

/-- The value of a key. -/
def get? (fields : Fields) (key : String) : Option Value :=
  fields.lookup key

/-- Set the value of a key in a list that ascends by key; a value it had before is forgotten. -/
def insert (key : String) (value : Value) : Fields → Fields
  | [] => [(key, value)]
  | (other, held) :: rest =>
      if key = other then (key, value) :: rest
      else if key < other then (key, value) :: (other, held) :: rest
      else (other, held) :: insert key value rest

/-- Leave out the fields with a key. -/
def erase (fields : Fields) (key : String) : Fields :=
  fields.filter fun field => field.1 != key

/-- The given fields by ascending key; of fields with one key the last one counts. -/
def sorted (fields : Fields) : Fields :=
  fields.foldl (fun sorted field => insert field.1 field.2 sorted) []

end Fields

/-- An object with the given fields, listed by ascending key. -/
def Value.record (fields : Fields) : Value :=
  .object (Fields.sorted fields)

end SourceUpgrade.Json
