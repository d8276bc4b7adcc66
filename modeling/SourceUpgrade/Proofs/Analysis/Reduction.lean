import SourceUpgrade.Proofs.Analysis.RoundTrip

namespace SourceUpgrade

open Json (Fields Value)

/-!
# Fields of an analysis that say nothing

A named field that is null says as much as one that is missing, and a field without a meaning says
nothing at all, except in references, which keep such fields. A value reduces to another one if some
of these fields are left out, at all levels at once; `Analysis.read_normalizes` says that this changes
neither whether an analysis is read nor which one.
-/

namespace Json

/-! ## Leaving out fields -/

/-- What values may be reduced to: a first value to a second one. -/
abbrev Reduction : Type := Value → Value → Prop

/--
What the fields of an object may be reduced to. Fields with a named key are left out if they are null,
and others if they need not be kept. All other fields stay, named ones with a value that is reduced.
-/
inductive FieldsReduce (named : List (String × Reduction)) (keepsOthers : Bool) :
    Fields → Fields → Prop where
  | nil : FieldsReduce named keepsOthers [] []
  | leaveNull {key : String} {reduction : Reduction} {fields left : Fields}
      (isNamed : named.lookup key = some reduction)
      (later : FieldsReduce named keepsOthers fields left) :
      FieldsReduce named keepsOthers ((key, .null) :: fields) left
  | leaveOther {key : String} {value : Value} {fields left : Fields}
      (unnamed : named.lookup key = none) (mayGo : keepsOthers = false)
      (later : FieldsReduce named keepsOthers fields left) :
      FieldsReduce named keepsOthers ((key, value) :: fields) left
  | stay {key : String} {value : Value} {fields left : Fields}
      (later : FieldsReduce named keepsOthers fields left) :
      FieldsReduce named keepsOthers ((key, value) :: fields) ((key, value) :: left)
  | reduce {key : String} {reduction : Reduction} {value inner : Value} {fields left : Fields}
      (isNamed : named.lookup key = some reduction) (reduces : reduction value inner)
      (later : FieldsReduce named keepsOthers fields left) :
      FieldsReduce named keepsOthers ((key, value) :: fields) ((key, inner) :: left)

/--
What a list that gives two fields by place may be reduced to: the second one may be reduced, and
values that are null are left out at the end.
-/
inductive PairReduce (second : Reduction) : List Value → List Value → Prop where
  | reduce {first value inner : Value} {rest : List Value} (reduces : second value inner) :
      PairReduce second (first :: value :: rest) (first :: inner :: rest)
  | leaveSecond (first : Value) : PairReduce second [first, .null] [first]
  | leaveFirst : PairReduce second [.null] []
  | leaveBoth : PairReduce second [.null, .null] []

/-- A value reduces to itself, and containers reduce if their fields or their items do. -/
inductive Reduces
    (fields : Fields → Fields → Prop) (items : List Value → List Value → Prop) : Reduction where
  | same (value : Value) : Reduces fields items value value
  | object {given left : Fields} (reduce : fields given left) :
      Reduces fields items (.object given) (.object left)
  | array {given left : List Value} (reduce : items given left) :
      Reduces fields items (.array given) (.array left)

/-- A list reduces if its items do, each for itself. -/
def ListReduces (item : Reduction) : Reduction :=
  Reduces Eq (List.Forall₂ item)

/-- Two fields reduce, whether they are given by name or by place. -/
def PairReduces (first second : String) (inFirst inSecond : Reduction) : Reduction :=
  Reduces (FieldsReduce [(first, inFirst), (second, inSecond)] false) (PairReduce inSecond)

end Json

open Json (Reduction Reduces FieldsReduce ListReduces PairReduces)

/-- What prioritized files may be reduced to. -/
def PrioritizedFiles.Reduces : Reduction :=
  PairReduces "risky_first" "all_package_files" Eq Eq

/-- What a reference may be reduced to: all fields besides its named ones are kept. -/
def Reference.Reduces : Reduction :=
  Json.Reduces (FieldsReduce [("url", Eq), ("snippet", Eq)] true) Eq

/-- What an entry may be reduced to. -/
def GuidanceEntry.Reduces : Reduction :=
  PairReduces "topic" "references" Eq (ListReduces Reference.Reduces)

/-- What an analysis may be reduced to. -/
def Analysis.Reduces : Reduction :=
  Json.Reduces
    (FieldsReduce
      [("package", Eq), ("current_version", Eq), ("target_version", Eq),
        ("prioritized_files", PrioritizedFiles.Reduces),
        ("rag_guidance", ListReduces GuidanceEntry.Reduces)]
      false)
    Eq

namespace Analysis

/-! ## What is left means the same -/

section

variable {α β : Type} {reduction : Reduction} {meaning? : Value → Option α} {default : α}
  {value left : Value} {depth : Nat}

/-- A reduction leaves values that have been read their meaning, and null as it is. -/
structure Preserves (reduction : Reduction) (meaning? : Value → Option α) : Prop where
  null : ∀ {value left : Value}, reduction value left → (left = .null ↔ value = .null)
  meaning :
    ∀ {depth : Nat} {value left : Value},
      value.AsRead depth → reduction value left → meaning? left = meaning? value

theorem preserves_eq (meaning? : Value → Option α) : Preserves Eq meaning? where
  null same := by rw [same]
  meaning _ same := by rw [same]

/-- Containers are never null. -/
theorem reduces_null
    {fields : Fields → Fields → Prop}
    {items : List Value → List Value → Prop}
    (reduces : Json.Reduces fields items value left) :
    left = .null ↔ value = .null := by
  cases reduces with
  | same =>
      rfl
  | object | array =>
      exact iff_of_false nofun nofun

theorem Preserves.optional?_some
    (preserves : Preserves reduction meaning?)
    (asRead : value.AsRead depth)
    (reduces : reduction value left) :
    optional? meaning? default (some left) = optional? meaning? default (some value) := by
  by_cases isNull : value = .null
  · rw [isNull, (preserves.null reduces).mpr isNull]
  · have leftNotNull : left ≠ .null := mt (preserves.null reduces).mp isNull
    rw [optional?.eq_3 _ _ _ leftNotNull, optional?.eq_3 _ _ _ isNull,
      preserves.meaning asRead reduces]

/-- Objects and lists that keep their meaning when their parts reduce keep it when they do. -/
theorem preserves_reduces
    {fields : Fields → Fields → Prop}
    {items : List Value → List Value → Prop}
    (ofObject :
      ∀ {depth : Nat} {given left : Fields},
        (Value.object given).AsRead depth →
          fields given left → meaning? (.object left) = meaning? (.object given))
    (ofArray :
      ∀ {depth : Nat} {given left : List Value},
        (Value.array given).AsRead depth →
          items given left → meaning? (.array left) = meaning? (.array given)) :
    Preserves (Json.Reduces fields items) meaning? where
  null := reduces_null
  meaning asRead reduces := by
    cases reduces with
    | same =>
        rfl
    | object reduce =>
        exact ofObject asRead reduce
    | array reduce =>
        exact ofArray asRead reduce

/-! ### Lists -/

theorem mapM_eq_of_forall₂
    {items leftItems : List Value}
    (preserves : Preserves reduction meaning?)
    (asRead : ∀ item ∈ items, item.AsRead depth)
    (reduce : List.Forall₂ reduction items leftItems) :
    leftItems.mapM meaning? = items.mapM meaning? := by
  induction reduce with
  | nil =>
      rfl
  | cons first _ inductionHypothesis =>
      obtain ⟨firstAsRead, laterAsRead⟩ := List.forall_mem_cons.mp asRead
      rw [List.mapM_cons, List.mapM_cons, preserves.meaning firstAsRead first,
        inductionHypothesis laterAsRead]

theorem Preserves.list?
    (preserves : Preserves reduction meaning?) :
    Preserves (ListReduces reduction) (list? meaning?) := by
  refine preserves_reduces ?_ ?_
  · rintro _ given _ - rfl
    rfl
  · intro _ given left asRead reduce
    cases asRead with
    | array _ each =>
        exact mapM_eq_of_forall₂ preserves each reduce

/-! ### Fields -/

section

variable {named : List (String × Reduction)} {keepsOthers : Bool} {fields leftFields : Fields}
  {key : String}

theorem keys_sublist_of_fieldsReduce
    (reduce : FieldsReduce named keepsOthers fields leftFields) :
    leftFields.keys.Sublist fields.keys := by
  induction reduce with
  | nil =>
      exact .refl _
  | leaveNull _ _ inductionHypothesis | leaveOther _ _ _ inductionHypothesis =>
      exact inductionHypothesis.cons _
  | stay _ inductionHypothesis | reduce _ _ _ inductionHypothesis =>
      exact inductionHypothesis.cons_cons _

/-- A named field means the same in what is left. -/
theorem optional?_get?_of_fieldsReduce
    (reduce : FieldsReduce named keepsOthers fields leftFields)
    (different : fields.keys.Nodup)
    (asRead : ∀ field ∈ fields, field.2.AsRead depth)
    (isNamed : named.lookup key = some reduction)
    (preserves : Preserves reduction meaning?) :
    optional? meaning? default (leftFields.get? key) =
      optional? meaning? default (fields.get? key) := by
  induction reduce with
  | nil =>
      rfl
  | @leaveNull other _ fields left _ later inductionHypothesis =>
      obtain ⟨absent, laterDifferent⟩ := List.nodup_cons.mp different
      rw [Fields.get?_cons]
      by_cases same : key = other
      -- null has given way to nothing, since no other field has the key
      · have absentLeft : key ∉ left.keys := fun member =>
          absent (same ▸ (keys_sublist_of_fieldsReduce later).subset member)
        rw [if_pos same, Fields.get?_eq_none_iff.mpr absentLeft]
        rfl
      · rw [if_neg same]
        exact inductionHypothesis laterDifferent (List.forall_mem_cons.mp asRead).2
  | @leaveOther other _ _ _ unnamed _ _ inductionHypothesis =>
      have differs : key ≠ other := by
        rintro rfl
        cases isNamed.symm.trans unnamed
      rw [Fields.get?_cons, if_neg differs]
      exact inductionHypothesis (List.nodup_cons.mp different).2
        (List.forall_mem_cons.mp asRead).2
  | @stay other _ _ _ _ inductionHypothesis =>
      rw [Fields.get?_cons, Fields.get?_cons]
      by_cases same : key = other
      · rw [if_pos same, if_pos same]
      · rw [if_neg same, if_neg same]
        exact inductionHypothesis (List.nodup_cons.mp different).2
          (List.forall_mem_cons.mp asRead).2
  | @reduce other itsReduction _ _ _ _ itsNamed reduces _ inductionHypothesis =>
      rw [Fields.get?_cons, Fields.get?_cons]
      by_cases same : key = other
      · obtain rfl : reduction = itsReduction :=
          Option.some.inj (isNamed.symm.trans (same ▸ itsNamed))
        rw [if_pos same, if_pos same]
        exact preserves.optional?_some (List.forall_mem_cons.mp asRead).1 reduces
      · rw [if_neg same, if_neg same]
        exact inductionHypothesis (List.nodup_cons.mp different).2
          (List.forall_mem_cons.mp asRead).2

/-- Where other fields are kept, they are all left. -/
theorem filter_unnamed_of_fieldsReduce
    (reduce : FieldsReduce named true fields leftFields) :
    (leftFields.filter fun field => (named.lookup field.1).isNone) =
      fields.filter fun field => (named.lookup field.1).isNone := by
  induction reduce with
  | nil =>
      rfl
  | leaveNull isNamed _ inductionHypothesis =>
      rw [List.filter_cons_of_neg (by simp [isNamed]), inductionHypothesis]
  | leaveOther _ mayGo =>
      cases mayGo
  | stay _ inductionHypothesis =>
      rw [List.filter_cons, List.filter_cons, inductionHypothesis]
  | reduce isNamed _ _ inductionHypothesis =>
      rw [List.filter_cons_of_neg (by simp [isNamed]), List.filter_cons_of_neg (by simp [isNamed]),
        inductionHypothesis]

end

/-! ### Two fields by name or by place -/

/-- What the two fields of a value mean, given by name or by place. -/
def pairMeanings?
    (first second : String)
    (inFirst? : Value → Option α)
    (inSecond? : Value → Option β)
    (defaultFirst : α)
    (defaultSecond : β)
    (value : Value) :
    Option (Option α × Option β) :=
  (pairOf? first second value).map fun (held, heldToo) =>
    (optional? inFirst? defaultFirst held, optional? inSecond? defaultSecond heldToo)

variable {first second : String} {inFirst inSecond : Reduction} {inFirst? : Value → Option α}
  {inSecond? : Value → Option β}

theorem preserves_pairReduces
    (differ : first ≠ second)
    (preservesFirst : Preserves inFirst inFirst?)
    (preservesSecond : Preserves inSecond inSecond?)
    (defaultFirst : α)
    (defaultSecond : β) :
    Preserves (PairReduces first second inFirst inSecond)
      (pairMeanings? first second inFirst? inSecond? defaultFirst defaultSecond) := by
  have firstNamed :
      List.lookup first [(first, inFirst), (second, inSecond)] = some inFirst := by
    simp
  have secondNamed :
      List.lookup second [(first, inFirst), (second, inSecond)] = some inSecond := by
    have notFirst : (second == first) = false := beq_false_of_ne differ.symm
    simp [List.lookup_cons, notFirst]
  refine preserves_reduces ?_ ?_
  · intro _ given left asRead reduce
    cases asRead with
    | object _ ascending each =>
        simp only [pairMeanings?, pairOf?, Option.map_some,
          optional?_get?_of_fieldsReduce reduce ascending.nodup_keys each firstNamed
            preservesFirst,
          optional?_get?_of_fieldsReduce reduce ascending.nodup_keys each secondNamed
            preservesSecond]
  · intro _ given left asRead reduce
    cases asRead with
    | array _ each =>
        cases reduce with
        | @reduce held value inner rest reduces =>
            have asRead : value.AsRead _ := each value (by simp)
            have sameSecond :
                optional? inSecond? defaultSecond (some inner) =
                  optional? inSecond? defaultSecond (some value) :=
              preservesSecond.optional?_some asRead reduces
            -- a list with more values than fields is rejected before and after
            by_cases fits : rest.length + 2 ≤ 2
            · simp [pairMeanings?, pairOf?, fits, sameSecond]
            · simp [pairMeanings?, pairOf?, fits]
        | leaveSecond held =>
            rfl
        | leaveFirst =>
            rfl
        | leaveBoth =>
            rfl

/-- What is made of a preserved meaning is preserved. -/
theorem Preserves.of_eq_comp
    {inner? : Value → Option β}
    (preserves : Preserves reduction inner?)
    (use : Option β → Option α)
    (made : ∀ value, meaning? value = use (inner? value)) :
    Preserves reduction meaning? where
  null := preserves.null
  meaning asRead reduces := by
    rw [made, made, preserves.meaning asRead reduces]

end

end Analysis

open Analysis

/-! ## Parts of an analysis -/

/-- Prioritized files stay the same if they reduce. -/
theorem PrioritizedFiles.preserves :
    Preserves PrioritizedFiles.Reduces PrioritizedFiles.ofJson? := by
  have texts := preserves_eq (list? Value.string?)
  refine (preserves_pairReduces (by decide) texts texts [] []).of_eq_comp
    (fun meanings => do
      let (risky, all) ← meanings
      return ⟨← risky, ← all⟩) fun value => ?_
  rw [ofJson?, pairMeanings?]
  cases pairOf? "risky_first" "all_package_files" value with
  | none | some =>
      rfl

/-- References stay the same if they reduce. -/
theorem Reference.preserves : Preserves Reference.Reduces Reference.ofJson? := by
  refine preserves_reduces ?_ ?_
  · intro _ given left asRead reduce
    cases asRead with
    | object _ ascending each =>
        have kept (fields : Fields) :
            (fields.erase "url").erase "snippet" =
              fields.filter fun field =>
                (List.lookup field.1 [("url", (Eq : Reduction)), ("snippet", Eq)]).isNone := by
          rw [Fields.erase, Fields.erase, List.filter_filter]
          refine List.filter_congr fun field _ => ?_
          rw [List.lookup_cons, List.lookup_cons]
          cases isUrl : field.1 == "url" <;> cases isSnippet : field.1 == "snippet" <;>
            simp [bne, isUrl, isSnippet]
        have sameExtra := filter_unnamed_of_fieldsReduce reduce
        rw [← kept, ← kept] at sameExtra
        simp only [ofJson?, sameExtra,
          optional?_get?_of_fieldsReduce reduce ascending.nodup_keys each
            (by rfl : List.lookup "url" _ = some _) (preserves_eq Value.string?),
          optional?_get?_of_fieldsReduce reduce ascending.nodup_keys each
            (by rfl : List.lookup "snippet" _ = some _) (preserves_eq Value.string?)]
  · rintro _ given _ - rfl
    rfl

/-- Entries stay the same if they reduce. -/
theorem GuidanceEntry.preserves : Preserves GuidanceEntry.Reduces GuidanceEntry.ofJson? := by
  have text := preserves_eq Value.string?
  refine (preserves_pairReduces (by decide) text Reference.preserves.list? defaultTopic
    []).of_eq_comp
    (fun meanings => do
      let (topic, references) ← meanings
      return ⟨← topic, ← references⟩) fun value => ?_
  rw [ofJson?, pairMeanings?]
  cases pairOf? "topic" "references" value with
  | none | some =>
      rfl

namespace Analysis

/-- An analysis is read the same if it reduces, and a value that is none stays so. -/
theorem ofJson_of_reduces
    {value left : Value}
    {depth : Nat}
    (asRead : value.AsRead depth)
    (reduces : Analysis.Reduces value left) :
    ofJson left = ofJson value := by
  cases reduces with
  | same =>
      rfl
  | array same =>
      rw [same]
  | object reduce =>
      cases asRead with
      | object _ ascending each =>
          have different := ascending.nodup_keys
          simp only [ofJson, ofFields?,
            optional?_get?_of_fieldsReduce reduce different each
              (by rfl : List.lookup "package" _ = some _) (preserves_eq Value.string?),
            optional?_get?_of_fieldsReduce reduce different each
              (by rfl : List.lookup "current_version" _ = some _) (preserves_eq Value.string?),
            optional?_get?_of_fieldsReduce reduce different each
              (by rfl : List.lookup "target_version" _ = some _) (preserves_eq Value.string?),
            optional?_get?_of_fieldsReduce reduce different each
              (by rfl : List.lookup "prioritized_files" _ = some _) PrioritizedFiles.preserves,
            optional?_get?_of_fieldsReduce reduce different each
              (by rfl : List.lookup "rag_guidance" _ = some _) GuidanceEntry.preserves.list?]

end Analysis

/-! ## Fields that are kept -/

/-- Whether a reference has all fields of an object but for those with a meaning. -/
def Reference.Keeps (reference : Reference) (given : Value) : Prop :=
  ∃ fields : Fields,
    given = .object fields ∧
      ∀ key,
        Fields.get? reference.extra key =
          if key = "url" ∨ key = "snippet" then none else fields.get? key

/-- Whether the references of an entry are those that are given, with the fields that they keep. -/
def GuidanceEntry.Keeps (entry : GuidanceEntry) (given : Value) : Prop :=
  ∀ topic items,
    pairOf? "topic" "references" given = some (topic, some (.array items)) →
      List.Forall₂ (fun item reference => Reference.Keeps reference item) items entry.references

/-- Whether the entries of an analysis are those that are given, with the fields that they keep. -/
def Analysis.Keeps (analysis : Analysis) (given : Value) : Prop :=
  ∀ fields entries,
    given = .object fields →
      Fields.get? fields "rag_guidance" = some (.array entries) →
        List.Forall₂ (fun item entry => GuidanceEntry.Keeps entry item) entries analysis.guidance

/-- A reference that has been read keeps its further fields. -/
theorem Reference.keeps_of_ofJson?
    {value : Value}
    {reference : Reference}
    (described : Reference.ofJson? value = some reference) :
    reference.Keeps value := by
  cases value with
  | null | bool | number | string | array =>
      cases described
  | object fields =>
      obtain ⟨-, -, extra⟩ := ofJson?_eq_some_iff.mp described
      refine ⟨fields, rfl, fun key => ?_⟩
      rw [extra]
      by_cases isSnippet : key = "snippet"
      · rw [isSnippet, if_pos (.inr rfl)]
        exact Fields.get?_eq_none_iff.mpr (Fields.not_mem_keys_erase _ _)
      · rw [Fields.get?_erase_of_ne isSnippet]
        by_cases isUrl : key = "url"
        · rw [isUrl, if_pos (.inl rfl)]
          exact Fields.get?_eq_none_iff.mpr (Fields.not_mem_keys_erase _ _)
        · rw [Fields.get?_erase_of_ne isUrl, if_neg (not_or.mpr ⟨isUrl, isSnippet⟩)]

/-- The references of an entry that has been read keep their further fields. -/
theorem GuidanceEntry.keeps_of_ofJson?
    {value : Value}
    {entry : GuidanceEntry}
    (described : GuidanceEntry.ofJson? value = some entry) :
    entry.Keeps value := by
  intro topic items given
  obtain ⟨_, references, isPair, -, ofReferences⟩ := ofJson?_eq_some_iff.mp described
  obtain ⟨-, rfl⟩ := Prod.mk.inj (Option.some.inj (isPair.symm.trans given))
  exact (forall₂_of_mapM ofReferences).imp fun _ _ => Reference.keeps_of_ofJson?

/-- The references of an analysis that has been read keep their further fields. -/
theorem Analysis.keeps_of_ofJson
    {value : Value}
    {analysis : Analysis}
    (described : Analysis.ofJson value = .ok analysis) :
    analysis.Keeps value := by
  rintro fields entries rfl found
  obtain ⟨-, -, -, -, ofGuidance⟩ := ofFields?_eq_some_iff.mp (ofJson_object_eq_ok_iff.mp described)
  rw [found] at ofGuidance
  exact (forall₂_of_mapM ofGuidance).imp fun _ _ => GuidanceEntry.keeps_of_ofJson?

namespace Analysis

/--
Every analysis that is read without floats is read back as it is from its text. Payloads of which one
is left when named fields that are null and fields without a meaning are left out of the other are
read in the same way: both as the same analysis, or both with the same error. And the references of
an analysis that is read keep all fields of the given ones that have no meaning. The fields of an
object are those that its text gives, of which the last with a key counts.
-/
theorem read_normalizes :
    (∀ payload analysis,
      Analysis.read payload = .ok analysis →
        analysis.IsIntegral → Analysis.read analysis.write = .ok analysis) ∧
      (∀ payload reduced value left,
        Json.read payload = .ok value →
          Json.read reduced = .ok left →
            Analysis.Reduces value left → Analysis.read reduced = Analysis.read payload) ∧
        ∀ payload value analysis,
          Json.read payload = .ok value →
            Analysis.read payload = .ok analysis → analysis.Keeps value := by
  refine ⟨?_, ?_, ?_⟩
  · intro payload analysis accepted integral
    exact (sound_of_read accepted).read_write integral
  · intro payload reduced value left isRead isReduced reduces
    rw [Analysis.read, Analysis.read, isRead, isReduced]
    exact ofJson_of_reduces (Json.asRead_of_read isRead) reduces
  · intro payload value analysis isRead accepted
    rw [Analysis.read, isRead] at accepted
    exact keeps_of_ofJson accepted

/-- A payload with null at every level, and with a field without a meaning. -/
def sparseText : String :=
  "\x7b\"package\":null,\"note\":1,\"prioritized_files\":[[\"a.ts\"],null]," ++
    "\"rag_guidance\":[\x7b\"topic\":null,\"references\":[\x7b\"url\":null,\"score\":3\x7d]\x7d]\x7d"

/-- The value of that payload. -/
def sparseValue : Value :=
  .object
    [("note", .number (.integer 1)), ("package", .null),
      ("prioritized_files", .array [.array [.string "a.ts"], .null]),
      ("rag_guidance",
        .array
          [.object
            [("references",
                .array [.object [("score", .number (.integer 3)), ("url", .null)]]),
              ("topic", .null)]])]

/-- The same payload without these fields. -/
def leftText : String :=
  "\x7b\"prioritized_files\":[[\"a.ts\"]]," ++
    "\"rag_guidance\":[\x7b\"references\":[\x7b\"score\":3\x7d]\x7d]\x7d"

/-- The value of what is left. -/
def leftValue : Value :=
  .object
    [("prioritized_files", .array [.array [.string "a.ts"]]),
      ("rag_guidance",
        .array
          [.object
            [("references", .array [.object [("score", .number (.integer 3))]])]])]

theorem sparseValue_reduces : Analysis.Reduces sparseValue leftValue := by
  have reference :
      Reference.Reduces (.object [("score", .number (.integer 3)), ("url", .null)])
        (.object [("score", .number (.integer 3))]) :=
    .object (.stay (.leaveNull rfl .nil))
  have entry :
      GuidanceEntry.Reduces
        (.object
          [("references", .array [.object [("score", .number (.integer 3)), ("url", .null)]]),
            ("topic", .null)])
        (.object [("references", .array [.object [("score", .number (.integer 3))]])]) :=
    .object (.reduce rfl (.array (.cons reference .nil)) (.leaveNull rfl .nil))
  exact
    .object
      (.leaveOther rfl rfl
        (.leaveNull rfl
          (.reduce rfl (.array (.leaveSecond _)) (.reduce rfl (.array (.cons entry .nil)) .nil))))

/-- Both payloads are read as the same analysis, which keeps a score and is read back. -/
theorem read_normalizes_sparse :
    ∃ analysis : Analysis,
      Analysis.read sparseText = .ok analysis ∧
        analysis.guidance.map GuidanceEntry.topic = ["misc"] ∧
          Analysis.read leftText = .ok analysis ∧
            Analysis.read analysis.write = .ok analysis ∧ analysis.Keeps sparseValue := by
  have isRead : Json.read sparseText = .ok sparseValue := by
    decide +kernel
  have isLeft : Json.read leftText = .ok leftValue := by
    decide +kernel
  let analysis : Analysis :=
    ⟨"", "", "", ⟨["a.ts"], []⟩, [⟨"misc", [⟨"", "", [("score", .number (.integer 3))]⟩]⟩]⟩
  have accepted : Analysis.read sparseText = .ok analysis := by
    rw [Analysis.read, isRead]
    decide +kernel
  have integral : analysis.IsIntegral := by
    simp [analysis, IsIntegral, Integral, Value.numbers, Json.Number.IsInteger]
  obtain ⟨writes, leaves, keeps⟩ := read_normalizes
  refine ⟨analysis, accepted, rfl, ?_, writes _ _ accepted integral, keeps _ _ _ isRead accepted⟩
  rw [leaves _ _ _ _ isRead isLeft sparseValue_reduces, accepted]

end Analysis

end SourceUpgrade
