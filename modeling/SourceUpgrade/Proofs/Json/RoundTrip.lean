import SourceUpgrade.Proofs.Json.Fields
import SourceUpgrade.Proofs.Json.Lexical
import SourceUpgrade.Proofs.Json.Number
import SourceUpgrade.Proofs.Json.Parts
import SourceUpgrade.Proofs.Outcome

namespace SourceUpgrade.Json

/-!
# Reading what was written

A value that nests no deeper than the reader allows and has no integers but those of 64 bits is read
back from its text, with each number read again and up to the order of fields: the reader lists them
by ascending key. Without floats the numbers are the same.
-/

/-! ## Values with their numbers read again -/

mutual

/-- A value with each of its numbers read again. -/
def Value.reread : Value → Value
  | .null => .null
  | .bool value => .bool value
  | .number value => .number value.reread
  | .string value => .string value
  | .array items => .array (rereadItems items)
  | .object fields => .object (rereadFields fields)

/-- The items with each of their numbers read again. -/
def rereadItems : List Value → List Value
  | [] => []
  | item :: items => item.reread :: rereadItems items

/-- The fields with each of their numbers read again. -/
def rereadFields : List (String × Value) → List (String × Value)
  | [] => []
  | (key, value) :: fields => (key, value.reread) :: rereadFields fields

end

theorem rereadItems_eq_map
    (items : List Value) :
    rereadItems items = items.map Value.reread := by
  induction items with
  | nil =>
      rfl
  | cons item items inductionHypothesis =>
      rw [rereadItems, inductionHypothesis, List.map_cons]

theorem rereadFields_eq_map
    (fields : List (String × Value)) :
    rereadFields fields = fields.map fun field => (field.1, field.2.reread) := by
  induction fields with
  | nil =>
      rfl
  | cons field fields inductionHypothesis =>
      rw [rereadFields, inductionHypothesis, List.map_cons]

/-- Numbers that are read as they were written stay. -/
theorem Value.reread_eq_self
    {value : Value}
    (same : ∀ number ∈ value.numbers, number.reread = number) :
    value.reread = value := by
  induction value with
  | null | bool | string =>
      rfl
  | number number =>
      rw [reread, same number (List.mem_singleton.mpr rfl)]
  | array items inductionHypothesis =>
      rw [reread, rereadItems_eq_map]
      refine congrArg Value.array ((List.map_congr_left ?_).trans (List.map_id' _))
      intro item member
      refine inductionHypothesis item member ?_
      intro number within
      exact same number (mem_numbersItems.mpr ⟨item, member, within⟩)
  | object fields inductionHypothesis =>
      rw [reread, rereadFields_eq_map]
      refine congrArg Value.object ((List.map_congr_left ?_).trans (List.map_id' _))
      intro field member
      refine Prod.ext rfl (inductionHypothesis field member ?_)
      intro number within
      exact same number (mem_numbersFields.mpr ⟨field, member, within⟩)

/-- The same texts are read again. -/
theorem Value.reread_eq_string_iff
    {value : Value}
    {text : String} :
    value.reread = .string text ↔ value = .string text := by
  cases value <;> simp [reread]

/-! ## Blanks -/

theorem skipBlanks_newline
    (level : Nat)
    (text : List Char) :
    skipBlanks (newline level ++ text) = skipBlanks text := by
  refine List.dropWhile_append_of_pos ?_
  intro c member
  rcases List.mem_cons.mp member with rfl | indentation
  · decide
  · rw [List.eq_of_mem_replicate indentation]
    decide

theorem skipBlanks_blank
    (text : List Char) :
    skipBlanks (' ' :: text) = skipBlanks text :=
  rfl

theorem skipBlanks_writeString
    (text : String)
    (rest : List Char) :
    skipBlanks (writeString text ++ rest) = writeString text ++ rest :=
  rfl

theorem readValue_congr
    (fuel depth : Nat)
    {first second : List Char}
    (same : skipBlanks first = skipBlanks second) :
    readValue fuel depth first = readValue fuel depth second := by
  cases fuel with
  | zero =>
      rfl
  | succ fuel =>
      rw [readValue, readValue, same]

theorem readItems_congr
    (fuel depth : Nat)
    {first second : List Char}
    (same : skipBlanks first = skipBlanks second) :
    readItems fuel depth first = readItems fuel depth second := by
  cases fuel with
  | zero =>
      rfl
  | succ fuel =>
      rw [readItems, readItems, readValue_congr fuel depth same]

theorem readFields_congr
    (fuel depth : Nat)
    {first second : List Char}
    (same : skipBlanks first = skipBlanks second) :
    readFields fuel depth first = readFields fuel depth second := by
  cases fuel with
  | zero =>
      rfl
  | succ fuel =>
      rw [readFields, readFields, same]

/-! ## Values as they were written -/

/-- What a number begins with begins no other value. -/
theorem numeral_head
    {c : Char}
    (numeral : c.isDigit ∨ c = '-') :
    isBlank c = false ∧ c ≠ ']' ∧ c ≠ '"' ∧ c ≠ '[' ∧ c ≠ '\x7b' ∧ c ≠ 'n' ∧ c ≠ 't' ∧ c ≠ 'f' := by
  have notDigit {other : Char} (noDigit : other.isDigit = false) (noSign : other ≠ '-') :
      c ≠ other := by
    rintro rfl
    rcases numeral with digit | sign
    · rw [noDigit] at digit
      cases digit
    · exact noSign sign
  refine ⟨?_, notDigit rfl (by decide), notDigit rfl (by decide), notDigit rfl (by decide),
    notDigit rfl (by decide), notDigit rfl (by decide), notDigit rfl (by decide),
    notDigit rfl (by decide)⟩
  simp only [isBlank, Bool.or_eq_false_iff, beq_eq_false_iff_ne]
  exact ⟨⟨⟨notDigit rfl (by decide), notDigit rfl (by decide)⟩, notDigit rfl (by decide)⟩,
    notDigit rfl (by decide)⟩

/-- A number is read again where a value is expected. -/
theorem readScalar_write
    {number : Number}
    (inRange : number.InRange)
    {rest : List Char}
    (stops : Stops rest) :
    readScalar (number.write ++ rest) = .ok (.number number.reread, rest) := by
  have read := inRange.readNumber_write stops
  obtain ⟨c, chars, written, numeral⟩ := inRange.write_head
  obtain ⟨_, _, _, _, _, notN, notT, notF⟩ := numeral_head numeral
  have noWord {first : Char} (word : List Char) (differs : c ≠ first) :
      dropWord? (first :: word) (number.write ++ rest) = none := by
    rw [written]
    simp [dropWord?, List.isPrefixOf, differs.symm]
  have noNull : dropWord? "null".toList (number.write ++ rest) = none := noWord _ notN
  have noTrue : dropWord? "true".toList (number.write ++ rest) = none := noWord _ notT
  have noFalse : dropWord? "false".toList (number.write ++ rest) = none := noWord _ notF
  rw [readScalar, noNull, noTrue, noFalse]
  exact bind_of_ok read

/-- A key is read back, with its colon and the blank after it left to be skipped. -/
theorem readKey_write
    (key : String)
    (rest : List Char) :
    readKey (writeString key ++ ([':', ' '] ++ rest)) = .ok (key, ' ' :: rest) := by
  have text :
      writeString key ++ ([':', ' '] ++ rest) =
        '"' :: (key.toList.flatMap escapeChar ++ '"' :: ':' :: ' ' :: rest) := by
    simp [writeString]
  have enough :
      key.toList.length <
        (key.toList.flatMap escapeChar ++ '"' :: ':' :: ' ' :: rest).length + 1 := by
    have := length_le_flatMap_escapeChar key.toList
    rw [List.length_append]
    omega
  rw [text, readKey]
  refine (bind_of_ok (readString_escaped enough _)).trans ?_
  show Except.ok (String.ofList key.toList, _) = _
  rw [String.ofList_toList]

/-- A value is read again, with its fields in order, whatever stands after it. -/
structure Value.ReadsBack (value : Value) : Prop where
  starts :
    ∀ level, ∃ c chars, value.write level = c :: chars ∧ isBlank c = false ∧ c ≠ ']'
  reads :
    ∀ {fuel depth level : Nat} {rest : List Char},
      (value.write level).length < fuel → value.nesting ≤ depth → Stops rest →
        readValue fuel depth (value.write level ++ rest) = .ok (value.reread.normal, rest)

theorem Value.readsBack_null :
    Value.null.ReadsBack where
  starts _ := ⟨'n', _, rfl, rfl, by decide⟩
  reads := by
    intro fuel depth level rest enough _ _
    obtain ⟨fuel, rfl⟩ := Nat.exists_eq_succ_of_ne_zero (Nat.ne_of_gt (Nat.zero_lt_of_lt enough))
    rfl

/-- The words for truth values are read back. -/
theorem Value.readsBack_bool
    (value : Bool) :
    (Value.bool value).ReadsBack where
  starts _ := by
    cases value with
    | false =>
        exact ⟨'f', _, rfl, rfl, by decide⟩
    | true =>
        exact ⟨'t', _, rfl, rfl, by decide⟩
  reads := by
    intro fuel depth level rest enough _ _
    obtain ⟨fuel, rfl⟩ := Nat.exists_eq_succ_of_ne_zero (Nat.ne_of_gt (Nat.zero_lt_of_lt enough))
    cases value with
    | false =>
        rfl
    | true =>
        rfl

/-- A string is read back. -/
theorem Value.readsBack_string
    (text : String) :
    (Value.string text).ReadsBack where
  starts _ := ⟨'"', _, rfl, rfl, by decide⟩
  reads := by
    intro fuel depth level rest enough _ _
    obtain ⟨fuel, rfl⟩ := Nat.exists_eq_succ_of_ne_zero (Nat.ne_of_gt (Nat.zero_lt_of_lt enough))
    have written :
        (Value.string text).write level ++ rest =
          '"' :: (text.toList.flatMap escapeChar ++ '"' :: rest) := by
      simp [Value.write, writeString]
    have room :
        text.toList.length < (text.toList.flatMap escapeChar ++ '"' :: rest).length + 1 := by
      have := length_le_flatMap_escapeChar text.toList
      rw [List.length_append]
      omega
    rw [written]
    refine (bind_of_ok (readString_escaped room rest)).trans ?_
    show Except.ok (Value.string (String.ofList text.toList), rest) = _
    rw [String.ofList_toList]
    rfl

/-- A number is read again. -/
theorem Value.readsBack_number
    {number : Number}
    (inRange : number.InRange) :
    (Value.number number).ReadsBack where
  starts _ := by
    obtain ⟨c, chars, written, numeral⟩ := inRange.write_head
    exact ⟨c, chars, written, (numeral_head numeral).1, (numeral_head numeral).2.1⟩
  reads := by
    intro fuel depth level rest enough _ stops
    obtain ⟨fuel, rfl⟩ := Nat.exists_eq_succ_of_ne_zero (Nat.ne_of_gt (Nat.zero_lt_of_lt enough))
    obtain ⟨c, chars, written, numeral⟩ := inRange.write_head
    obtain ⟨notBlank, _, notQuote, notBracket, notBrace, _⟩ := numeral_head numeral
    have noSkip : skipBlanks (number.write ++ rest) = number.write ++ rest := by
      rw [written]
      exact List.dropWhile_cons_of_neg (by rw [notBlank]; decide)
    have differs {other : Char} (differs : c ≠ other) (after : List Char) :
        number.write ++ rest ≠ other :: after := by
      rw [written]
      exact fun same => differs (List.cons.inj same).1
    show readValue (fuel + 1) depth (number.write ++ rest) = _
    rw [readValue, noSkip]
    split
    · exact absurd ‹_› (differs notQuote _)
    · exact absurd ‹_› (differs notBracket _)
    · exact absurd ‹_› (differs notBrace _)
    · exact readScalar_write inRange stops

theorem stops_newline
    (level : Nat)
    (rest : List Char) :
    Stops (newline level ++ rest) := by
  intro c next
  obtain rfl : '\n' = c := by simpa [newline] using next
  exact Or.inr rfl

theorem stops_comma
    (rest : List Char) :
    Stops (',' :: rest) := by
  intro c next
  obtain rfl : ',' = c := by simpa using next
  exact Or.inl rfl

/-- Items that are read back each are read back in a row, up to the closing bracket. -/
theorem readItems_write
    {item : Value}
    {items : List Value}
    (each : ∀ other ∈ item :: items, other.ReadsBack)
    {depth : Nat}
    (nested : ∀ other ∈ item :: items, other.nesting ≤ depth)
    {fuel level : Nat}
    (enough : (item.write level ++ writeItems level items).length + 1 < fuel)
    (outer : Nat)
    (rest : List Char) :
    readItems fuel depth
        (item.write level ++ (writeItems level items ++ (newline outer ++ ']' :: rest))) =
      .ok (normalItems (rereadItems (item :: items)), rest) := by
  induction items generalizing item fuel with
  | nil =>
      obtain ⟨fuel, rfl⟩ := Nat.exists_eq_succ_of_ne_zero (Nat.ne_of_gt (Nat.zero_lt_of_lt enough))
      have room : (item.write level).length < fuel := by
        simp only [List.length_append] at enough
        omega
      have read := (each item List.mem_cons_self).reads room (nested item List.mem_cons_self)
        (stops_newline outer (']' :: rest))
      have closing : skipBlanks (newline outer ++ ']' :: rest) = ']' :: rest :=
        skipBlanks_newline outer (']' :: rest)
      rw [readItems]
      refine (bind_of_ok read).trans ?_
      simp only [closing]
      rfl
  | cons next items inductionHypothesis =>
      obtain ⟨fuel, rfl⟩ := Nat.exists_eq_succ_of_ne_zero (Nat.ne_of_gt (Nat.zero_lt_of_lt enough))
      simp only [writeItems, List.length_append, List.length_cons] at enough
      have room : (item.write level).length < fuel := by omega
      have roomLater : (next.write level ++ writeItems level items).length + 1 < fuel := by
        rw [List.length_append]
        omega
      have read := (each item List.mem_cons_self).reads room (nested item List.mem_cons_self)
        (stops_comma (newline level ++ (next.write level ++
          (writeItems level items ++ (newline outer ++ ']' :: rest)))))
      have readLater := inductionHypothesis
        (fun other member => each other (List.mem_cons_of_mem _ member))
        (fun other member => nested other (List.mem_cons_of_mem _ member)) roomLater
      rw [← readItems_congr fuel depth (skipBlanks_newline level _)] at readLater
      have comma (after : List Char) : skipBlanks (',' :: after) = ',' :: after := rfl
      simp only [writeItems, List.cons_append, List.append_assoc]
      rw [readItems]
      refine (bind_of_ok read).trans ?_
      simp only [comma]
      exact bind_of_ok readLater

/-- An array of items that are read back is read back. -/
theorem Value.readsBack_array
    {items : List Value}
    (each : ∀ item ∈ items, item.ReadsBack) :
    (Value.array items).ReadsBack where
  starts level := by
    cases items with
    | nil =>
        exact ⟨'[', [']'], rfl, rfl, by decide⟩
    | cons item items =>
        exact ⟨'[', _, rfl, rfl, by decide⟩
  reads := by
    intro fuel depth level rest enough nested _
    obtain ⟨fuel, rfl⟩ := Nat.exists_eq_succ_of_ne_zero (Nat.ne_of_gt (Nat.zero_lt_of_lt enough))
    have deep : depth ≠ 0 := by
      rw [Value.nesting] at nested
      omega
    have nestedItems : ∀ item ∈ items, item.nesting ≤ depth - 1 := by
      rw [Value.nesting] at nested
      exact nestingItems_le_iff.mp (by omega)
    cases items with
    | nil =>
        show (if depth = 0 then _ else Except.ok (Value.array [], rest)) = _
        rw [if_neg deep]
        rfl
    | cons item items =>
        have text :
            (Value.array (item :: items)).write level ++ rest =
              '[' :: (newline (level + 1) ++ (item.write (level + 1) ++
                (writeItems (level + 1) items ++ (newline level ++ ']' :: rest)))) := by
          simp [Value.write]
        have room :
            (item.write (level + 1) ++ writeItems (level + 1) items).length + 1 < fuel := by
          simp only [Value.write, List.length_append, List.length_cons] at enough ⊢
          omega
        obtain ⟨c, chars, written, notBlank, notBracket⟩ :=
          (each item List.mem_cons_self).starts (level + 1)
        have noSkip (after : List Char) :
            skipBlanks (newline (level + 1) ++ (item.write (level + 1) ++ after)) =
              item.write (level + 1) ++ after := by
          rw [skipBlanks_newline, written]
          exact List.dropWhile_cons_of_neg (by rw [notBlank]; decide)
        have bracket (after : List Char) : skipBlanks ('[' :: after) = '[' :: after := rfl
        rw [text, readValue, bracket]
        simp only [if_neg deep, noSkip]
        split
        · rename_i empty
          rw [written] at empty
          exact absurd (List.cons.inj empty).1 notBracket
        · exact bind_of_ok (readItems_write each nestedItems room level rest)

/-- Fields whose values are read back are read back in a row, up to the closing brace. -/
theorem readFields_write
    {field : String × Value}
    {fields : List (String × Value)}
    (each : ∀ other ∈ field :: fields, other.2.ReadsBack)
    {depth : Nat}
    (nested : ∀ other ∈ field :: fields, other.2.nesting ≤ depth)
    {fuel level : Nat}
    (enough : (field.2.write level ++ writeFields level fields).length + 1 < fuel)
    (outer : Nat)
    (rest : List Char) :
    readFields fuel depth
        (writeString field.1 ++ ([':', ' '] ++ (field.2.write level ++
          (writeFields level fields ++ (newline outer ++ '\x7d' :: rest))))) =
      .ok (normalFields (rereadFields (field :: fields)), rest) := by
  induction fields generalizing field fuel with
  | nil =>
      obtain ⟨fuel, rfl⟩ := Nat.exists_eq_succ_of_ne_zero (Nat.ne_of_gt (Nat.zero_lt_of_lt enough))
      have room : (field.2.write level).length < fuel := by
        simp only [List.length_append] at enough
        omega
      have read := (each field List.mem_cons_self).reads room (nested field List.mem_cons_self)
        (stops_newline outer ('\x7d' :: rest))
      have closing : skipBlanks (newline outer ++ '\x7d' :: rest) = '\x7d' :: rest :=
        skipBlanks_newline outer ('\x7d' :: rest)
      have readAfterBlank := (readValue_congr fuel depth (skipBlanks_blank _)).trans read
      rw [readFields, skipBlanks_writeString]
      refine (bind_of_ok (readKey_write field.1 _)).trans ?_
      refine (bind_of_ok readAfterBlank).trans ?_
      simp only [closing]
      rfl
  | cons next fields inductionHypothesis =>
      obtain ⟨fuel, rfl⟩ := Nat.exists_eq_succ_of_ne_zero (Nat.ne_of_gt (Nat.zero_lt_of_lt enough))
      simp only [writeFields, List.length_append, List.length_cons] at enough
      have room : (field.2.write level).length < fuel := by omega
      have roomLater : (next.2.write level ++ writeFields level fields).length + 1 < fuel := by
        rw [List.length_append]
        omega
      have read := (each field List.mem_cons_self).reads room (nested field List.mem_cons_self)
        (stops_comma (newline level ++ (writeString next.1 ++ ([':', ' '] ++ (next.2.write level ++
          (writeFields level fields ++ (newline outer ++ '\x7d' :: rest)))))))
      have readLater := inductionHypothesis
        (fun other member => each other (List.mem_cons_of_mem _ member))
        (fun other member => nested other (List.mem_cons_of_mem _ member)) roomLater
      rw [← readFields_congr fuel depth (skipBlanks_newline level _)] at readLater
      have readAfterBlank := (readValue_congr fuel depth (skipBlanks_blank _)).trans read
      have comma (after : List Char) : skipBlanks (',' :: after) = ',' :: after := rfl
      have text :
          writeFields level (next :: fields) ++ (newline outer ++ '\x7d' :: rest) =
            ',' :: (newline level ++ (writeString next.1 ++ ([':', ' '] ++ (next.2.write level ++
              (writeFields level fields ++ (newline outer ++ '\x7d' :: rest)))))) := by
        simp [writeFields]
      rw [readFields, skipBlanks_writeString, text]
      refine (bind_of_ok (readKey_write field.1 _)).trans ?_
      refine (bind_of_ok readAfterBlank).trans ?_
      simp only [comma]
      exact bind_of_ok readLater

/-- An object of fields whose values are read back is read back. -/
theorem Value.readsBack_object
    {fields : List (String × Value)}
    (each : ∀ field ∈ fields, field.2.ReadsBack) :
    (Value.object fields).ReadsBack where
  starts level := by
    cases fields with
    | nil =>
        exact ⟨'\x7b', ['\x7d'], rfl, rfl, by decide⟩
    | cons field fields =>
        exact ⟨'\x7b', _, rfl, rfl, by decide⟩
  reads := by
    intro fuel depth level rest enough nested _
    obtain ⟨fuel, rfl⟩ := Nat.exists_eq_succ_of_ne_zero (Nat.ne_of_gt (Nat.zero_lt_of_lt enough))
    have deep : depth ≠ 0 := by
      rw [Value.nesting] at nested
      omega
    have nestedFields : ∀ field ∈ fields, field.2.nesting ≤ depth - 1 := by
      rw [Value.nesting] at nested
      exact nestingFields_le_iff.mp (by omega)
    cases fields with
    | nil =>
        show (if depth = 0 then _ else Except.ok (Value.object [], rest)) = _
        rw [if_neg deep]
        rfl
    | cons field fields =>
        obtain ⟨key, value⟩ := field
        have text :
            (Value.object ((key, value) :: fields)).write level ++ rest =
              '\x7b' :: (newline (level + 1) ++ (writeString key ++ ([':', ' '] ++
                (value.write (level + 1) ++ (writeFields (level + 1) fields ++
                  (newline level ++ '\x7d' :: rest)))))) := by
          simp [Value.write]
        have room :
            (value.write (level + 1) ++ writeFields (level + 1) fields).length + 1 < fuel := by
          simp only [Value.write, List.length_append, List.length_cons] at enough ⊢
          omega
        have brace (after : List Char) : skipBlanks ('\x7b' :: after) = '\x7b' :: after := rfl
        rw [text, readValue, brace]
        simp only [if_neg deep, skipBlanks_newline, skipBlanks_writeString]
        exact bind_of_ok (readFields_write each nestedFields room level rest)

/-- A value whose integers have 64 bits is read again. -/
theorem Value.readsBack
    (value : Value)
    (inRange : ∀ number ∈ value.numbers, number.InRange) :
    value.ReadsBack := by
  induction value with
  | null =>
      exact readsBack_null
  | bool value =>
      exact readsBack_bool value
  | number number =>
      exact readsBack_number (inRange number (List.mem_singleton.mpr rfl))
  | string text =>
      exact readsBack_string text
  | array items inductionHypothesis =>
      refine readsBack_array ?_
      intro item member
      refine inductionHypothesis item member ?_
      intro number within
      exact inRange number (mem_numbersItems.mpr ⟨item, member, within⟩)
  | object fields inductionHypothesis =>
      refine readsBack_object ?_
      intro field member
      refine inductionHypothesis field member ?_
      intro number within
      exact inRange number (mem_numbersFields.mpr ⟨field, member, within⟩)

/-- The text of a value whose integers have 64 bits is read as this value, its numbers read again. -/
theorem read_pretty
    {value : Value}
    (inRange : ∀ number ∈ value.numbers, number.InRange)
    (nested : value.nesting ≤ nestingLimit) :
    read value.pretty = .ok value.reread.normal := by
  have enough : (value.write 0).length < 2 * (value.write 0).length + 2 := by omega
  have reads := (value.readsBack inRange).reads enough nested stops_nil
  rw [List.append_nil] at reads
  rw [read, Value.pretty, String.toList_ofList]
  exact bind_of_ok reads

end SourceUpgrade.Json
