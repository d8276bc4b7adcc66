import SourceUpgrade.Proofs.Json.RoundTrip

namespace SourceUpgrade.Json

/-!
# What the reader returns

A value that has been read within a depth is `AsRead`: its objects list their fields by ascending
key, its containers nest within the depth, and its integers have 64 bits.
-/

/-- A value such as the reader returns when containers may nest to a depth. -/
inductive Value.AsRead : Nat → Value → Prop where
  | null {depth : Nat} : AsRead depth .null
  | bool {depth : Nat} (value : Bool) : AsRead depth (.bool value)
  | number {depth : Nat} {number : Number} (inRange : number.InRange) :
      AsRead depth (.number number)
  | string {depth : Nat} (text : String) : AsRead depth (.string text)
  | array {depth : Nat} {items : List Value} (allowed : depth ≠ 0)
      (each : ∀ item ∈ items, AsRead (depth - 1) item) : AsRead depth (.array items)
  | object {depth : Nat} {fields : Fields} (allowed : depth ≠ 0) (ascending : fields.Ascending)
      (each : ∀ field ∈ fields, AsRead (depth - 1) field.2) : AsRead depth (.object fields)

namespace Value.AsRead

variable {depth : Nat} {value : Value}

theorem record
    {fields : Fields}
    (allowed : depth ≠ 0)
    (each : ∀ field ∈ fields, field.2.AsRead (depth - 1)) :
    (Value.record fields).AsRead depth :=
  .object allowed (Fields.sorted_ascending fields) fun field member =>
    each field (Fields.mem_sorted member)

/-- The fields of all objects are in order. -/
theorem normal_eq
    (asRead : value.AsRead depth) :
    value.normal = value := by
  induction asRead with
  | null | bool | number | string =>
      rfl
  | array _ _ inductionHypothesis =>
      rw [normal, normalItems_eq_map]
      exact congrArg Value.array ((List.map_congr_left inductionHypothesis).trans (List.map_id' _))
  | @object depth fields _ ascending _ inductionHypothesis =>
      have same : fields.map (fun field => (field.1, field.2.normal)) = fields := by
        refine (List.map_congr_left ?_).trans (List.map_id' _)
        intro field member
        rw [inductionHypothesis field member]
      rw [normal, normalFields_eq_map, same]
      exact congrArg Value.object (Fields.sorted_of_ascending ascending)

theorem normalFields_eq
    {fields : Fields}
    (each : ∀ field ∈ fields, field.2.AsRead depth) :
    normalFields fields = fields := by
  rw [normalFields_eq_map]
  refine (List.map_congr_left ?_).trans (List.map_id' _)
  intro field member
  rw [(each field member).normal_eq]

/-- Containers nest within the depth. -/
theorem nesting_le
    (asRead : value.AsRead depth) :
    value.nesting ≤ depth := by
  induction asRead with
  | null | bool | number | string =>
      exact Nat.zero_le _
  | array allowed _ inductionHypothesis =>
      have within := nestingItems_le_iff.mpr inductionHypothesis
      rw [nesting]
      omega
  | object allowed _ _ inductionHypothesis =>
      have within := nestingFields_le_iff.mpr inductionHypothesis
      rw [nesting]
      omega

/-- All numbers are in range. -/
theorem inRange
    (asRead : value.AsRead depth)
    {number : Number}
    (within : number ∈ value.numbers) :
    number.InRange := by
  induction asRead with
  | null | bool | string =>
      cases within
  | number inRange =>
      rw [List.mem_singleton.mp within]
      exact inRange
  | array _ _ inductionHypothesis =>
      obtain ⟨item, member, within⟩ := mem_numbersItems.mp within
      exact inductionHypothesis item member within
  | object _ _ _ inductionHypothesis =>
      obtain ⟨field, member, within⟩ := mem_numbersFields.mp within
      exact inductionHypothesis field member within

end Value.AsRead

/-! ## Numbers -/

/-- What is taken into a significand has room in it. -/
theorem takeDigits_significand_le
    {first : Nat}
    (room : first ≤ significandLimit)
    (taken : Nat)
    (digits : List Char) :
    (takeDigits first taken digits).significand ≤ significandLimit := by
  induction digits generalizing first taken with
  | nil =>
      exact room
  | cons digit digits inductionHypothesis =>
      rw [takeDigits]
      split
      · exact room
      · rename_i fits
        exact inductionHypothesis (Nat.not_lt.mp fits) _

theorem inRange_of_floatNumber
    {negative : Bool}
    {significand : Nat}
    {exponent : Int}
    {number : Number}
    (computed : floatNumber negative significand exponent = .ok number) :
    number.InRange := by
  unfold floatNumber at computed
  split at computed
  · cases computed
  · obtain rfl := Except.ok.inj computed
    trivial

/-- The value of a numeral is in range. -/
theorem Numeral.inRange_of_value
    {numeral : Numeral}
    {number : Number}
    (valued : numeral.value = .ok number) :
    number.InRange := by
  have limited : (takeDigits 0 0 numeral.whole).significand ≤ 0xFFFFFFFFFFFFFFFF :=
    takeDigits_significand_le (Nat.zero_le _) 0 numeral.whole
  unfold Numeral.value at valued
  dsimp only at valued
  split at valued
  · split at valued
    · exact inRange_of_floatNumber valued
    · split at valued
      · obtain rfl := Except.ok.inj valued
        constructor <;> omega
      · split at valued
        · rename_i bounds
          obtain rfl := Except.ok.inj valued
          constructor <;> omega
        · exact inRange_of_floatNumber valued
  · unfold Numeral.floatValue at valued
    dsimp only at valued
    split at valued
    · exact inRange_of_floatNumber valued
    · split at valued
      · split at valued
        · cases valued
        · exact inRange_of_floatNumber valued
      · exact inRange_of_floatNumber valued

theorem inRange_of_readNumber
    {text rest : List Char}
    {number : Number}
    (read : readNumber text = .ok (number, rest)) :
    number.InRange := by
  unfold readNumber at read
  split at read
  all_goals
    obtain ⟨⟨numeral, after⟩, _, readValue⟩ := bind_ok_iff.mp read
    obtain ⟨value, valued, same⟩ := bind_ok_iff.mp readValue
    obtain ⟨rfl, _⟩ := Prod.mk.inj (Except.ok.inj same)
    exact numeral.inRange_of_value valued

/-- A number that is read again is in range. -/
theorem Number.InRange.reread
    {number : Number}
    (inRange : number.InRange) :
    number.reread.InRange := by
  unfold Number.reread
  split
  · exact inRange_of_readNumber ‹_›
  · exact inRange

/-- Numbers that are read again leave the keys of fields as they are. -/
theorem keys_rereadFields (fields : Fields) :
    Fields.keys (rereadFields fields) = fields.keys := by
  rw [rereadFields_eq_map, Fields.keys, List.map_map]
  rfl

theorem Fields.Ascending.rereadFields
    {fields : Fields}
    (ascending : fields.Ascending) :
    Ascending (Json.rereadFields fields) := by
  rw [rereadFields_eq_map]
  exact List.pairwise_map.mpr ascending

/-- A value whose numbers are read again stays as the reader returns values. -/
theorem Value.AsRead.reread
    {depth : Nat}
    {value : Value}
    (asRead : value.AsRead depth) :
    value.reread.AsRead depth := by
  induction asRead with
  | null =>
      exact .null
  | bool value =>
      exact .bool value
  | number inRange =>
      exact .number inRange.reread
  | string text =>
      exact .string text
  | array allowed _ inductionHypothesis =>
      rw [Value.reread, rereadItems_eq_map]
      exact .array allowed (List.forall_mem_map.mpr inductionHypothesis)
  | object allowed ascending _ inductionHypothesis =>
      refine .object allowed ascending.rereadFields ?_
      rw [rereadFields_eq_map]
      exact List.forall_mem_map.mpr inductionHypothesis

theorem asRead_rereadFields
    {depth : Nat}
    {fields : Fields}
    (asRead : ∀ field ∈ fields, field.2.AsRead depth) :
    ∀ field ∈ rereadFields fields, field.2.AsRead depth := by
  rw [rereadFields_eq_map]
  exact List.forall_mem_map.mpr fun field member => (asRead field member).reread

/-- A scalar that has been read is as the reader returns it. -/
theorem asRead_of_readScalar
    {text rest : List Char}
    {value : Value}
    (read : readScalar text = .ok (value, rest))
    (depth : Nat) :
    value.AsRead depth := by
  unfold readScalar at read
  split at read
  · obtain ⟨rfl, _⟩ := Prod.mk.inj (Except.ok.inj read)
    exact .null
  · split at read
    · obtain ⟨rfl, _⟩ := Prod.mk.inj (Except.ok.inj read)
      exact .bool true
    · split at read
      · obtain ⟨rfl, _⟩ := Prod.mk.inj (Except.ok.inj read)
        exact .bool false
      · obtain ⟨⟨number, after⟩, readNumber, same⟩ := bind_ok_iff.mp read
        obtain ⟨rfl, _⟩ := Prod.mk.inj (Except.ok.inj same)
        exact .number (inRange_of_readNumber readNumber)

/-! ## Values -/

/-- What the reader returns with some fuel, for values, items and fields. -/
structure ReadsWithin (fuel : Nat) : Prop where
  value :
    ∀ {depth : Nat} {text rest : List Char} {value : Value},
      readValue fuel depth text = .ok (value, rest) → value.AsRead depth
  items :
    ∀ {depth : Nat} {text rest : List Char} {items : List Value},
      readItems fuel depth text = .ok (items, rest) → ∀ item ∈ items, item.AsRead depth
  fields :
    ∀ {depth : Nat} {text rest : List Char} {fields : Fields},
      readFields fuel depth text = .ok (fields, rest) → ∀ field ∈ fields, field.2.AsRead depth

/-- With fuel for one step more, a value is read from what its items or fields are. -/
theorem ReadsWithin.step_value
    {fuel : Nat}
    (within : ReadsWithin fuel)
    {depth : Nat}
    {text rest : List Char}
    {value : Value}
    (read : readValue (fuel + 1) depth text = .ok (value, rest)) :
    value.AsRead depth := by
  rw [readValue] at read
  split at read
  · obtain ⟨⟨chars, after⟩, _, same⟩ := bind_ok_iff.mp read
    obtain ⟨rfl, _⟩ := Prod.mk.inj (Except.ok.inj same)
    exact .string _
  · split at read
    · cases read
    · rename_i allowed
      split at read
      · obtain ⟨rfl, _⟩ := Prod.mk.inj (Except.ok.inj read)
        exact .array allowed (by simp)
      · obtain ⟨⟨items, after⟩, readItems, same⟩ := bind_ok_iff.mp read
        obtain ⟨rfl, _⟩ := Prod.mk.inj (Except.ok.inj same)
        exact .array allowed (within.items readItems)
  · split at read
    · cases read
    · rename_i allowed
      split at read
      · obtain ⟨rfl, _⟩ := Prod.mk.inj (Except.ok.inj read)
        exact .object allowed .nil (by simp)
      · obtain ⟨⟨fields, after⟩, readFields, same⟩ := bind_ok_iff.mp read
        obtain ⟨rfl, _⟩ := Prod.mk.inj (Except.ok.inj same)
        exact .record allowed (within.fields readFields)
  · exact asRead_of_readScalar read depth

/-- With fuel for one step more, items are read from a value and the items after it. -/
theorem ReadsWithin.step_items
    {fuel : Nat}
    (within : ReadsWithin fuel)
    {depth : Nat}
    {text rest : List Char}
    {items : List Value}
    (read : readItems (fuel + 1) depth text = .ok (items, rest)) :
    ∀ item ∈ items, item.AsRead depth := by
  rw [readItems] at read
  obtain ⟨⟨item, after⟩, readItem, read⟩ := bind_ok_iff.mp read
  have itemAsRead : item.AsRead depth := within.value readItem
  dsimp only at read
  split at read
  · obtain ⟨rfl, _⟩ := Prod.mk.inj (Except.ok.inj read)
    simpa using itemAsRead
  · obtain ⟨⟨later, after⟩, readLater, same⟩ := bind_ok_iff.mp read
    obtain ⟨rfl, _⟩ := Prod.mk.inj (Except.ok.inj same)
    exact List.forall_mem_cons.mpr ⟨itemAsRead, within.items readLater⟩
  · cases read

/-- With fuel for one step more, fields are read from a key, a value and the fields after them. -/
theorem ReadsWithin.step_fields
    {fuel : Nat}
    (within : ReadsWithin fuel)
    {depth : Nat}
    {text rest : List Char}
    {fields : Fields}
    (read : readFields (fuel + 1) depth text = .ok (fields, rest)) :
    ∀ field ∈ fields, field.2.AsRead depth := by
  rw [readFields] at read
  obtain ⟨⟨key, afterKey⟩, _, read⟩ := bind_ok_iff.mp read
  obtain ⟨⟨value, after⟩, readValue, read⟩ := bind_ok_iff.mp read
  have valueAsRead : value.AsRead depth := within.value readValue
  dsimp only at read
  split at read
  · obtain ⟨rfl, _⟩ := Prod.mk.inj (Except.ok.inj read)
    simpa using valueAsRead
  · obtain ⟨⟨later, after⟩, readLater, same⟩ := bind_ok_iff.mp read
    obtain ⟨rfl, _⟩ := Prod.mk.inj (Except.ok.inj same)
    exact List.forall_mem_cons.mpr ⟨valueAsRead, within.fields readLater⟩
  · cases read

/-- Whatever the fuel, the reader returns values as they are described. -/
theorem readsWithin
    (fuel : Nat) :
    ReadsWithin fuel := by
  induction fuel with
  | zero =>
      constructor
      all_goals
        intro _ _ _ _ read
        cases read
  | succ fuel inductionHypothesis =>
      constructor
      · exact inductionHypothesis.step_value
      · exact inductionHypothesis.step_items
      · exact inductionHypothesis.step_fields

theorem asRead_of_read
    {text : String}
    {value : Value}
    (read : Json.read text = .ok value) :
    value.AsRead nestingLimit := by
  obtain ⟨⟨found, rest⟩, readValue, same⟩ := bind_ok_iff.mp read
  dsimp only at same
  split at same
  · obtain rfl := Except.ok.inj same
    exact (readsWithin _).value readValue
  · cases same

/-! ## Further fields

Some objects have two fields with a meaning and keep all others, such as they were read.
-/

/-- Fields as they are read beside two others. -/
structure Fields.Besides
    (first second : String)
    (depth : Nat)
    (extra : Fields) :
    Prop where
  differ : first ≠ second
  ascending : extra.Ascending
  asRead : ∀ field ∈ extra, field.2.AsRead depth
  noFirst : first ∉ extra.keys
  noSecond : second ∉ extra.keys

namespace Fields.Besides

variable {first second : String} {depth : Nat} {extra : Fields}

/-- What an object that has been read keeps beside two fields. -/
theorem of_erase
    {fields : Fields}
    (differ : first ≠ second)
    (ascending : fields.Ascending)
    (asRead : ∀ field ∈ fields, field.2.AsRead depth) :
    Besides first second depth ((fields.erase first).erase second) where
  differ := differ
  ascending := (ascending.erase first).erase second
  asRead field member := asRead field (mem_erase.mp (mem_erase.mp member).1).1
  noFirst := not_mem_keys_erase_erase _ _ _
  noSecond := not_mem_keys_erase _ _

theorem nodup_keys
    (besides : extra.Besides first second depth)
    (firstValue secondValue : Value) :
    (keys ((first, firstValue) :: (second, secondValue) :: extra)).Nodup := by
  refine List.nodup_cons.mpr ⟨?_, List.nodup_cons.mpr ⟨besides.noSecond, ?_⟩⟩
  · exact List.not_mem_cons_of_ne_of_not_mem besides.differ besides.noFirst
  · exact besides.ascending.nodup_keys

variable (besides : extra.Besides first second depth) (firstText secondText : String)

include besides

/-- An object with two texts beside such fields is read back with its fields in order. -/
theorem normal_object :
    (Value.object
        ((first, .string firstText) :: (second, .string secondText) :: extra)).normal =
      .record ((first, .string firstText) :: (second, .string secondText) :: extra) := by
  rw [Value.normal, normalFields, normalFields, Value.AsRead.normalFields_eq besides.asRead]
  rfl

theorem get?_sorted_first (firstValue secondValue : Value) :
    (sorted ((first, firstValue) :: (second, secondValue) :: extra)).get? first =
      some firstValue := by
  rw [get?_sorted (besides.nodup_keys _ _), get?_cons, if_pos rfl]

theorem get?_sorted_second (firstValue secondValue : Value) :
    (sorted ((first, firstValue) :: (second, secondValue) :: extra)).get? second =
      some secondValue := by
  rw [get?_sorted (besides.nodup_keys _ _), get?_cons, if_neg besides.differ.symm, get?_cons,
    if_pos rfl]

theorem erase_erase_sorted (firstValue secondValue : Value) :
    ((sorted ((first, firstValue) :: (second, secondValue) :: extra)).erase first).erase second =
      extra :=
  erase_erase_sorted_cons_cons (besides.nodup_keys _ _) besides.ascending

theorem nesting_object_le :
    (Value.object
        ((first, .string firstText) :: (second, .string secondText) :: extra)).nesting ≤
      depth + 1 := by
  have within : ∀ field ∈ extra, field.2.nesting ≤ depth :=
    fun field member => (besides.asRead field member).nesting_le
  refine Nat.succ_le_succ (nestingFields_le_iff.mpr ?_)
  exact List.forall_mem_cons.mpr
    ⟨Nat.zero_le _, List.forall_mem_cons.mpr ⟨Nat.zero_le _, within⟩⟩

omit besides in
/-- The numbers of an object with two texts are those of its further fields. -/
theorem mem_numbers_object
    {number : Number}
    (within :
      number ∈
        (Value.object
          ((first, .string firstText) :: (second, .string secondText) :: extra)).numbers) :
    ∃ field ∈ extra, number ∈ field.2.numbers := by
  obtain ⟨field, member, within⟩ := mem_numbersFields.mp within
  rcases List.mem_cons.mp member with rfl | member
  · cases within
  rcases List.mem_cons.mp member with rfl | member
  · cases within
  exact ⟨field, member, within⟩

end Fields.Besides

end SourceUpgrade.Json
