import SourceUpgrade.Json.Value

namespace SourceUpgrade.Json.Fields

/-!
# Fields by ascending key

A list of fields that ascends strictly by key is determined by which fields it has. So sorting
fields with different keys gives the one ascending arrangement of them, and looking up, leaving out
and putting back fields can be told from membership.
-/

variable {key : String} {value : Value} {fields other : Fields}

/-- The keys ascend strictly. -/
def Ascending (fields : Fields) : Prop :=
  fields.Pairwise fun first second => first.1 < second.1

/-- The keys of some fields, in order. -/
def keys (fields : Fields) : List String :=
  fields.map Prod.fst

theorem Ascending.nodup_keys
    (ascending : Ascending fields) :
    fields.keys.Nodup := by
  refine List.pairwise_map.mpr (ascending.imp ?_)
  intro first second less same
  rw [same] at less
  exact String.lt_irrefl _ less

theorem Ascending.eq_of_perm
    (ascending : Ascending fields)
    (ascendingToo : Ascending other)
    (sameFields : fields.Perm other) :
    fields = other := by
  refine List.Perm.eq_of_pairwise ?_ ascending ascendingToo sameFields
  intro first second _ _ less greater
  exact absurd greater (String.lt_asymm less)

/-! ## Sorting -/

/-- A key that is set is put where it belongs. -/
theorem mem_insert
    {field : String × Value}
    (member : field ∈ insert key value fields) :
    field = (key, value) ∨ field ∈ fields := by
  induction fields with
  | nil =>
      exact Or.inl (List.mem_singleton.mp member)
  | cons head rest inductionHypothesis =>
      rw [insert] at member
      split at member
      · rcases List.mem_cons.mp member with rfl | inRest
        · exact Or.inl rfl
        · exact Or.inr (List.mem_cons_of_mem _ inRest)
      · split at member
        · exact List.mem_cons.mp member
        · rcases List.mem_cons.mp member with rfl | inRest
          · exact Or.inr List.mem_cons_self
          · rcases inductionHypothesis inRest with rfl | inOld
            · exact Or.inl rfl
            · exact Or.inr (List.mem_cons_of_mem _ inOld)

/-- Setting a key keeps fields ascending. -/
theorem Ascending.insert
    (ascending : Ascending fields)
    (key : String)
    (value : Value) :
    Ascending (Fields.insert key value fields) := by
  induction fields with
  | nil =>
      exact List.pairwise_singleton _ _
  | cons head rest inductionHypothesis =>
      obtain ⟨headLess, restAscending⟩ := List.pairwise_cons.mp ascending
      rw [Fields.insert]
      split
      · rename_i same
        subst same
        exact List.pairwise_cons.mpr ⟨headLess, restAscending⟩
      · rename_i different
        split
        · rename_i less
          refine List.pairwise_cons.mpr ⟨?_, ascending⟩
          intro field member
          rcases List.mem_cons.mp member with rfl | inRest
          · exact less
          · exact String.lt_trans less (headLess field inRest)
        · rename_i notLess
          have greater : head.1 < key :=
            Std.lt_of_le_of_ne (String.not_lt.mp notLess) fun same => different same.symm
          refine List.pairwise_cons.mpr ⟨?_, inductionHypothesis restAscending⟩
          intro field member
          rcases mem_insert member with rfl | inRest
          · exact greater
          · exact headLess field inRest

/-- Setting a key that is not there adds a field. -/
theorem insert_perm
    (absent : key ∉ fields.keys)
    (value : Value) :
    (insert key value fields).Perm ((key, value) :: fields) := by
  induction fields with
  | nil =>
      exact .refl _
  | cons head rest inductionHypothesis =>
      obtain ⟨differs, absentLater⟩ : key ≠ head.1 ∧ key ∉ keys rest := by
        simpa [keys] using absent
      rw [insert, if_neg differs]
      split
      · exact .refl _
      · exact ((inductionHypothesis absentLater).cons head).trans (.swap _ _ _)

theorem Ascending.foldl_insert
    (ascending : Ascending fields)
    (added : Fields) :
    Ascending
      (added.foldl (fun sorted field => Fields.insert field.1 field.2 sorted) fields) := by
  induction added generalizing fields with
  | nil =>
      exact ascending
  | cons field added inductionHypothesis =>
      exact inductionHypothesis (ascending.insert field.1 field.2)

theorem sorted_ascending
    (fields : Fields) :
    Ascending fields.sorted :=
  Ascending.foldl_insert .nil fields

/-- Sorting adds no fields. -/
theorem mem_sorted
    {field : String × Value}
    (member : field ∈ fields.sorted) :
    field ∈ fields := by
  have added (start added : Fields)
      (member :
        field ∈ added.foldl (fun sorted field => insert field.1 field.2 sorted) start) :
      field ∈ start ∨ field ∈ added := by
    induction added generalizing start with
    | nil =>
        exact Or.inl member
    | cons next added inductionHypothesis =>
        rcases inductionHypothesis _ member with inserted | later
        · rcases mem_insert inserted with rfl | before
          · exact Or.inr List.mem_cons_self
          · exact Or.inl before
        · exact Or.inr (List.mem_cons_of_mem _ later)
  exact (added [] fields member).resolve_left (by simp)

/-- Setting different new keys one after the other adds all these fields. -/
theorem foldl_insert_perm
    {added : Fields}
    (different : (fields ++ added).keys.Nodup) :
    (added.foldl (fun sorted field => insert field.1 field.2 sorted) fields).Perm
      (fields ++ added) := by
  induction added generalizing fields with
  | nil =>
      rw [List.append_nil]
      exact .refl _
  | cons field added inductionHypothesis =>
      have moved : (fields ++ field :: added).Perm (field :: fields ++ added) :=
        List.perm_middle
      have movedDifferent : (keys (field :: fields ++ added)).Nodup :=
        (moved.map Prod.fst).nodup_iff.mp different
      have notTogether : field.1 ∉ keys (fields ++ added) :=
        (List.nodup_cons.mp movedDifferent).1
      have absent : field.1 ∉ fields.keys := by
        intro member
        refine notTogether ?_
        rw [keys, List.map_append]
        exact List.mem_append_left _ member
      have inserted : (insert field.1 field.2 fields).Perm (field :: fields) :=
        insert_perm absent field.2
      have insertedDifferent :
          (keys (insert field.1 field.2 fields ++ added)).Nodup :=
        ((inserted.append_right added).map Prod.fst).nodup_iff.mpr movedDifferent
      exact (inductionHypothesis insertedDifferent).trans
        ((inserted.append_right added).trans moved.symm)

theorem sorted_perm
    (different : fields.keys.Nodup) :
    fields.sorted.Perm fields :=
  foldl_insert_perm different

theorem sorted_eq_of_perm
    (ascending : Ascending fields)
    (sameFields : other.Perm fields) :
    other.sorted = fields := by
  have different : other.keys.Nodup :=
    (sameFields.map Prod.fst).nodup_iff.mpr ascending.nodup_keys
  exact (sorted_ascending other).eq_of_perm ascending ((sorted_perm different).trans sameFields)

theorem sorted_of_ascending
    (ascending : Ascending fields) :
    fields.sorted = fields :=
  sorted_eq_of_perm ascending (.refl _)

/-! ## Looking up and leaving out -/

theorem get?_cons
    (other key : String)
    (value : Value)
    (fields : Fields) :
    get? ((other, value) :: fields) key = if key = other then some value else fields.get? key := by
  rw [get?, List.lookup_cons]
  by_cases same : key = other
  · simp [same]
  · have differs : (key == other) = false := by simpa using same
    rw [differs, if_neg same, get?]

theorem erase_cons
    (other key : String)
    (value : Value)
    (fields : Fields) :
    erase ((other, value) :: fields) key =
      if other = key then fields.erase key else (other, value) :: fields.erase key := by
  by_cases same : other = key
  · simp [erase, same]
  · simp [erase, same]

/-- Among fields with different keys, a value is found just where it stands. -/
theorem get?_eq_some_iff
    (different : fields.keys.Nodup) :
    fields.get? key = some value ↔ (key, value) ∈ fields := by
  induction fields with
  | nil =>
      simp [get?]
  | cons head rest inductionHypothesis =>
      obtain ⟨absent, restDifferent⟩ := List.nodup_cons.mp different
      have found := inductionHypothesis restDifferent
      rw [get?, List.lookup_cons]
      by_cases same : key = head.1
      · have notLater : (key, value) ∉ rest := by
          intro member
          exact absent (same ▸ List.mem_map_of_mem member)
        obtain ⟨headKey, headValue⟩ := head
        obtain rfl : key = headKey := same
        simp [notLater, eq_comm]
      · have differs : (key == head.1) = false := by simpa using same
        have notHead : (key, value) ≠ head := fun equal => same (congrArg Prod.fst equal)
        rw [differs, List.mem_cons]
        simpa [notHead, get?] using found

theorem get?_eq_none_iff :
    fields.get? key = none ↔ key ∉ fields.keys := by
  rw [get?, List.lookup_eq_none_iff, keys, List.mem_map]
  constructor
  · rintro absent ⟨field, member, rfl⟩
    simpa using absent field member
  · intro absent field member
    have differs : key ≠ field.1 := fun same => absent ⟨field, member, same.symm⟩
    simpa using differs

theorem Ascending.erase
    (ascending : Ascending fields)
    (key : String) :
    Ascending (Fields.erase fields key) :=
  List.Pairwise.sublist List.filter_sublist ascending

theorem mem_erase
    {field : String × Value} :
    field ∈ fields.erase key ↔ field ∈ fields ∧ field.1 ≠ key := by
  rw [erase, List.mem_filter, bne_iff_ne]

theorem erase_of_not_mem
    (absent : key ∉ fields.keys) :
    fields.erase key = fields := by
  refine List.filter_eq_self.mpr ?_
  intro field member
  have differs : field.1 ≠ key := by
    rintro rfl
    exact absent (List.mem_map_of_mem member)
  simpa using differs

theorem not_mem_keys_erase
    (fields : Fields)
    (key : String) :
    key ∉ (fields.erase key).keys := by
  intro member
  obtain ⟨field, inErased, rfl⟩ := List.mem_map.mp member
  exact (mem_erase.mp inErased).2 rfl

theorem not_mem_keys_erase_erase
    (fields : Fields)
    (key other : String) :
    key ∉ ((fields.erase key).erase other).keys := by
  intro member
  obtain ⟨field, inErased, same⟩ := List.mem_map.mp member
  exact (mem_erase.mp (mem_erase.mp inErased).1).2 same

/-- Leaving out a key changes no lookup of another one. -/
theorem get?_erase_of_ne
    {left : String}
    (differs : key ≠ left)
    (fields : Fields) :
    (fields.erase left).get? key = fields.get? key := by
  induction fields with
  | nil =>
      rfl
  | cons head rest inductionHypothesis =>
      obtain ⟨other, held⟩ := head
      rw [erase_cons, get?_cons]
      by_cases same : other = left
      · rw [if_pos same, inductionHypothesis, if_neg (same ▸ differs)]
      · rw [if_neg same, get?_cons, inductionHypothesis]

/-- Leaving out a field and putting it back rearranges the fields. -/
theorem perm_cons_erase
    (different : fields.keys.Nodup)
    (found : fields.get? key = some value) :
    fields.Perm ((key, value) :: fields.erase key) := by
  induction fields with
  | nil =>
      cases found
  | cons head rest inductionHypothesis =>
      obtain ⟨absent, restDifferent⟩ := List.nodup_cons.mp different
      by_cases same : key = head.1
      · obtain ⟨headKey, headValue⟩ := head
        obtain rfl : key = headKey := same
        obtain rfl : headValue = value := by
          simpa [get?, List.lookup_cons] using found
        rw [erase, List.filter_cons_of_neg (by simp)]
        exact .of_eq (congrArg _ (erase_of_not_mem absent).symm)
      · have differs : (key == head.1) = false := by simpa using same
        have foundLater : Fields.get? rest key = some value := by
          rw [get?, List.lookup_cons, differs] at found
          exact found
        rw [erase, List.filter_cons_of_pos (by simpa using fun equal => same equal.symm)]
        exact ((inductionHypothesis restDifferent foundLater).cons head).trans (.swap _ _ _)

theorem get?_sorted
    (different : fields.keys.Nodup)
    (key : String) :
    fields.sorted.get? key = fields.get? key := by
  have sortedDifferent : fields.sorted.keys.Nodup := (sorted_ascending fields).nodup_keys
  apply Option.ext
  intro value
  rw [get?_eq_some_iff sortedDifferent, get?_eq_some_iff different]
  exact (sorted_perm different).mem_iff

theorem erase_sorted
    (different : fields.keys.Nodup)
    (key : String) :
    fields.sorted.erase key = (fields.erase key).sorted := by
  refine (sorted_eq_of_perm ((sorted_ascending fields).erase key) ?_).symm
  exact (sorted_perm different).symm.filter _

/-- Leaving out two fields and putting them back rearranges the fields. -/
theorem perm_cons_cons_erase_erase
    (different : fields.keys.Nodup)
    (found : fields.get? key = some value)
    {second : String}
    {held : Value}
    (foundToo : fields.get? second = some held)
    (differs : second ≠ key) :
    fields.Perm ((key, value) :: (second, held) :: (fields.erase key).erase second) := by
  have differentLeft : (fields.erase key).keys.Nodup :=
    ((List.filter_sublist (l := fields)).map Prod.fst).nodup different
  have foundLeft : (fields.erase key).get? second = some held := by
    rw [get?_erase_of_ne differs, foundToo]
  exact (perm_cons_erase different found).trans
    ((perm_cons_erase differentLeft foundLeft).cons _)

theorem sorted_congr
    (different : other.keys.Nodup)
    (sameFields : fields.Perm other) :
    fields.sorted = other.sorted :=
  sorted_eq_of_perm (sorted_ascending other) (sameFields.trans (sorted_perm different).symm)

theorem erase_sorted_cons
    (different : (keys ((key, value) :: fields)).Nodup) :
    (sorted ((key, value) :: fields)).erase key = fields.sorted := by
  have absent : key ∉ fields.keys := (List.nodup_cons.mp different).1
  rw [erase_sorted different, erase_cons, if_pos rfl, erase_of_not_mem absent]

theorem erase_erase_sorted_cons_cons
    {second : String}
    {held : Value}
    (different : (keys ((key, value) :: (second, held) :: fields)).Nodup)
    (ascending : Ascending fields) :
    ((sorted ((key, value) :: (second, held) :: fields)).erase key).erase second = fields := by
  rw [erase_sorted_cons different, erase_sorted_cons (List.nodup_cons.mp different).2,
    sorted_of_ascending ascending]

end SourceUpgrade.Json.Fields
