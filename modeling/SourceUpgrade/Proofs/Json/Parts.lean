import SourceUpgrade.Json.Value

namespace SourceUpgrade.Json

/-!
# The parts of a value

Containers within containers: an induction over all values, the arrangement of all fields by key,
the depth of nesting and the numbers within a value. What a list of items or fields has, each of
them has.
-/

/-- A property of all values: it passes from the items and fields of a container to the container. -/
@[induction_eliminator]
theorem Value.induct
    {motive : Value → Prop}
    (null : motive .null)
    (bool : ∀ value, motive (.bool value))
    (number : ∀ value, motive (.number value))
    (string : ∀ value, motive (.string value))
    (array : ∀ items, (∀ item ∈ items, motive item) → motive (.array items))
    (object : ∀ fields, (∀ field ∈ fields, motive field.2) → motive (.object fields))
    (value : Value) :
    motive value := by
  refine @Value.rec motive (fun items => ∀ item ∈ items, motive item)
    (fun fields => ∀ field ∈ fields, motive field.2) (fun field => motive field.2)
    null bool number string array object ?_ ?_ ?_ ?_ ?_ value
  · intro item member
    cases member
  · intro head items headHolds itemsHold item member
    rcases List.mem_cons.mp member with rfl | later
    · exact headHolds
    · exact itemsHold item later
  · intro field member
    cases member
  · intro head fields headHolds fieldsHold field member
    rcases List.mem_cons.mp member with rfl | later
    · exact headHolds
    · exact fieldsHold field later
  · intro key value holds
    exact holds

mutual

/-- A value with the fields of all its objects by ascending key. -/
def Value.normal : Value → Value
  | .null => .null
  | .bool value => .bool value
  | .number value => .number value
  | .string value => .string value
  | .array items => .array (normalItems items)
  | .object fields => .record (normalFields fields)

/-- The items with the fields of all their objects by ascending key. -/
def normalItems : List Value → List Value
  | [] => []
  | item :: items => item.normal :: normalItems items

/-- The fields, as they stand, with the fields of all their objects by ascending key. -/
def normalFields : List (String × Value) → Fields
  | [] => []
  | (key, value) :: fields => (key, value.normal) :: normalFields fields

end

mutual

/-- How deep containers nest in a value. -/
def Value.nesting : Value → Nat
  | .null => 0
  | .bool _ => 0
  | .number _ => 0
  | .string _ => 0
  | .array items => nestingItems items + 1
  | .object fields => nestingFields fields + 1

/-- How deep containers nest in some items. -/
def nestingItems : List Value → Nat
  | [] => 0
  | item :: items => max item.nesting (nestingItems items)

/-- How deep containers nest in the values of some fields. -/
def nestingFields : List (String × Value) → Nat
  | [] => 0
  | (_, value) :: fields => max value.nesting (nestingFields fields)

end

mutual

/-- All numbers within a value. -/
def Value.numbers : Value → List Number
  | .null => []
  | .bool _ => []
  | .number value => [value]
  | .string _ => []
  | .array items => numbersItems items
  | .object fields => numbersFields fields

/-- All numbers within some items. -/
def numbersItems : List Value → List Number
  | [] => []
  | item :: items => item.numbers ++ numbersItems items

/-- All numbers within the values of some fields. -/
def numbersFields : List (String × Value) → List Number
  | [] => []
  | (_, value) :: fields => value.numbers ++ numbersFields fields

end

theorem normalItems_eq_map
    (items : List Value) :
    normalItems items = items.map Value.normal := by
  induction items with
  | nil =>
      rfl
  | cons item items inductionHypothesis =>
      rw [normalItems, inductionHypothesis, List.map_cons]

theorem normalFields_eq_map
    (fields : List (String × Value)) :
    normalFields fields = fields.map fun field => (field.1, field.2.normal) := by
  induction fields with
  | nil =>
      rfl
  | cons field fields inductionHypothesis =>
      rw [normalFields, inductionHypothesis, List.map_cons]

theorem nestingItems_le_iff
    {items : List Value}
    {depth : Nat} :
    nestingItems items ≤ depth ↔ ∀ item ∈ items, item.nesting ≤ depth := by
  induction items with
  | nil =>
      simp [nestingItems]
  | cons item items inductionHypothesis =>
      rw [nestingItems, Nat.max_le, inductionHypothesis, List.forall_mem_cons]

theorem nestingFields_le_iff
    {fields : List (String × Value)}
    {depth : Nat} :
    nestingFields fields ≤ depth ↔ ∀ field ∈ fields, field.2.nesting ≤ depth := by
  induction fields with
  | nil =>
      simp [nestingFields]
  | cons field fields inductionHypothesis =>
      rw [nestingFields, Nat.max_le, inductionHypothesis, List.forall_mem_cons]

theorem mem_numbersItems
    {items : List Value}
    {number : Number} :
    number ∈ numbersItems items ↔ ∃ item ∈ items, number ∈ item.numbers := by
  induction items with
  | nil =>
      simp [numbersItems]
  | cons item items inductionHypothesis =>
      simp [numbersItems, inductionHypothesis, or_and_right, exists_or]

/-- The numbers within some fields are those within each of them. -/
theorem mem_numbersFields
    {fields : List (String × Value)}
    {number : Number} :
    number ∈ numbersFields fields ↔ ∃ field ∈ fields, number ∈ field.2.numbers := by
  induction fields with
  | nil =>
      simp [numbersFields]
  | cons field fields inductionHypothesis =>
      obtain ⟨key, value⟩ := field
      rw [numbersFields, List.mem_append, inductionHypothesis]
      constructor
      · rintro (here | ⟨field, member, later⟩)
        · exact ⟨(key, value), List.mem_cons_self, here⟩
        · exact ⟨field, List.mem_cons_of_mem _ member, later⟩
      · rintro ⟨field, member, within⟩
        rcases List.mem_cons.mp member with rfl | later
        · exact Or.inl within
        · exact Or.inr ⟨field, later, within⟩

end SourceUpgrade.Json
