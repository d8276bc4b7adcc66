import Mathlib.Algebra.Ring.Nat
import SourceUpgrade.Ingest

namespace SourceUpgrade.Ingest

/-!
# Accounts of an ingestion

Which batches are offered depends on the passages and the size of batches alone; the answers of the
store have a say in the counts only. `offerFrom_report` and `offerFrom_events` tell for any batches
what is counted and what happens. `ingest_accounts` puts this together with how passages are cut:
every passage is offered once, and it counts as taken or belongs to a batch that counts as refused.
-/

open Passage (Record)

/-! ## Batches -/

/-- Whether batches are a list cut into pieces of a size, of which only the last may be shorter. -/
structure Cuts (size : Nat) (records : List Record) (batches : List (List Record)) : Prop where
  whole : batches.flatten = records
  number : batches.length = (records.length + size - 1) / size
  full : ∀ batch ∈ batches.dropLast, batch.length = size
  within : ∀ batch ∈ batches, 1 ≤ batch.length ∧ batch.length ≤ size

section

variable {size : Nat} (positive : 1 ≤ size)

include positive

theorem cuts_nil : Cuts size [] [] where
  whole := rfl
  number := by
    refine (Nat.div_eq_of_lt ?_).symm
    rw [List.length_nil]
    omega
  full := nofun
  within := nofun

/-- Another batch goes before those of the passages that it leaves. -/
theorem Cuts.cons
    {records : List Record}
    {batches : List (List Record)}
    (someRecords : records ≠ [])
    (cuts : Cuts size (records.drop size) batches) :
    Cuts size records (records.take size :: batches) where
  whole := by
    rw [List.flatten_cons, cuts.whole, List.take_append_drop]
  number := by
    have someLength : 0 < records.length := List.length_pos_iff.mpr someRecords
    have left := cuts.number
    rw [List.length_drop] at left
    rw [List.length_cons, left]
    rcases Nat.le_total size records.length with more | fewer
    · have rest : records.length + size - 1 = records.length - size + size - 1 + size := by omega
      rw [rest, Nat.add_div_right _ positive]
    · have single : records.length + size - 1 = records.length - 1 + size := by omega
      have none : records.length - size + size - 1 = size - 1 := by omega
      rw [single, none, Nat.add_div_right _ positive, Nat.div_eq_of_lt (by omega),
        Nat.div_eq_of_lt (by omega)]
  full := by
    intro batch member
    cases batches with
    | nil =>
        cases member
    | cons next others =>
        rw [List.dropLast_cons_cons] at member
        rcases List.mem_cons.mp member with rfl | later
        · have nextSize := (cuts.within next List.mem_cons_self).1
          have rest := congrArg List.length cuts.whole
          rw [List.flatten_cons, List.length_append, List.length_drop] at rest
          rw [List.length_take]
          omega
        · exact cuts.full batch later
  within := by
    intro batch member
    rcases List.mem_cons.mp member with rfl | later
    · have someLength : 0 < records.length := List.length_pos_iff.mpr someRecords
      rw [List.length_take]
      omega
    · exact cuts.within batch later

/-- As many batches as there are passages are enough to hold them all. -/
theorem cuts_batchesOf
    {fuel : Nat}
    {records : List Record}
    (enough : records.length ≤ fuel) :
    Cuts size records (batchesOf size fuel records) := by
  induction fuel generalizing records with
  | zero =>
      obtain rfl := List.length_eq_zero_iff.mp (Nat.le_zero.mp enough)
      exact cuts_nil positive
  | succ fuel inductionHypothesis =>
      cases records with
      | nil =>
          exact cuts_nil positive
      | cons record rest =>
          refine Cuts.cons positive (List.cons_ne_nil _ _) (inductionHypothesis ?_)
          rw [List.length_drop]
          omega

end

theorem Style.one_le_size (style : Style) : 1 ≤ style.size :=
  Nat.le_max_left ..

theorem Style.size_le (style : Style) : style.size ≤ largestBatch := by
  rw [size, largestBatch]
  omega

theorem Style.cuts_batches (style : Style) (records : List Record) :
    Cuts style.size records (style.batches records) :=
  cuts_batchesOf style.one_le_size (Nat.le_refl _)

/-! ## Answers of the store -/

namespace Store

variable (store : Store)

/-- The batches, numbered from a number on, that the store answers in a way. -/
def answeredFrom
    (number : Nat)
    (answer : Bool)
    (batches : List (List Record)) :
    List (List Record) :=
  ((batches.zipIdx number).filter fun (batch, place) => store place batch == answer).map Prod.fst

/-- The batches that the store takes. -/
def taken (batches : List (List Record)) : List (List Record) :=
  store.answeredFrom 0 true batches

/-- The batches that the store refuses. -/
def refused (batches : List (List Record)) : List (List Record) :=
  store.answeredFrom 0 false batches

theorem answeredFrom_cons
    (number : Nat)
    (answer : Bool)
    (batch : List Record)
    (rest : List (List Record)) :
    store.answeredFrom number answer (batch :: rest) =
      if store number batch = answer then batch :: store.answeredFrom (number + 1) answer rest
      else store.answeredFrom (number + 1) answer rest := by
  rw [answeredFrom, List.zipIdx_cons, List.filter_cons]
  by_cases same : store number batch = answer <;> simp [same, answeredFrom]

/-- Every batch is taken or refused, with all that is in it. -/
theorem size_answeredFrom (number : Nat) (batches : List (List Record)) :
    ((store.answeredFrom number true batches).map List.length).sum +
        ((store.answeredFrom number false batches).map List.length).sum =
      batches.flatten.length := by
  induction batches generalizing number with
  | nil =>
      rfl
  | cons batch rest inductionHypothesis =>
      have later := inductionHypothesis (number + 1)
      rw [answeredFrom_cons, answeredFrom_cons, List.flatten_cons, List.length_append]
      cases store number batch with
      | false =>
          simp only [Bool.false_eq_true, if_false, if_true, List.map_cons, List.sum_cons]
          omega
      | true =>
          simp only [Bool.true_eq_false, if_false, if_true, List.map_cons, List.sum_cons]
          omega

end Store

/-! ## Offering batches -/

/-- What is taken and what is refused is added to the counts, batch by batch. -/
theorem offerFrom_report
    (store : Store)
    (pause total number : Nat)
    (batches : List (List Record))
    (report : Report) :
    (offerFrom store pause total number batches report).1 =
      { report with
        upserted :=
          report.upserted + ((store.answeredFrom number true batches).map List.length).sum
        failedBatches :=
          report.failedBatches + (store.answeredFrom number false batches).length } := by
  induction batches generalizing number report with
  | nil =>
      rfl
  | cons batch rest inductionHypothesis =>
      rw [offerFrom, inductionHypothesis, Store.answeredFrom_cons, Store.answeredFrom_cons,
        Report.count]
      cases store number batch with
      | false =>
          simp [Nat.add_assoc, Nat.add_comm 1]
      | true =>
          simp [Nat.add_assoc]

/--
Whatever the answers, every batch is offered, and between two there is a pause if any, as long as
the total counts those that have been offered before and those that have not.
-/
theorem offerFrom_events
    (store : Store)
    (pause : Nat)
    {total number : Nat}
    {batches : List (List Record)}
    (counted : total = number + batches.length)
    (report : Report) :
    (offerFrom store pause total number batches report).2 =
      if pause = 0 then batches.map .offer
      else (batches.map .offer).intersperse (.sleep pause) := by
  induction batches generalizing number report with
  | nil =>
      simp [offerFrom]
  | cons batch rest inductionHypothesis =>
      rw [List.length_cons] at counted
      rw [offerFrom, inductionHypothesis (by omega)]
      by_cases immediate : pause = 0
      · simp [immediate]
      · cases rest with
        | nil =>
            have last : ¬ number + 1 < total := by
              rw [counted, List.length_nil]
              omega
            simp [immediate, last]
        | cons next others =>
            have notLast : number + 1 < total := by
              rw [counted, List.length_cons]
              omega
            simp [immediate, notLast]

/-! ## What happens in all -/

theorem offered_map_offer (batches : List (List Record)) :
    offered (batches.map .offer) = batches := by
  rw [offered, List.filterMap_map]
  exact List.filterMap_some

/-- Pauses between batches have no say in which are offered. -/
theorem offered_intersperse (pause : Nat) (batches : List (List Record)) :
    offered ((batches.map .offer).intersperse (.sleep pause)) = batches := by
  induction batches with
  | nil =>
      rfl
  | cons batch rest inductionHypothesis =>
      cases rest with
      | nil =>
          rfl
      | cons next others =>
          exact congrArg (batch :: ·) inductionHypothesis

theorem elapsed_map_offer (batches : List (List Record)) : elapsed (batches.map .offer) = 0 := by
  induction batches with
  | nil =>
      rfl
  | cons batch rest inductionHypothesis =>
      exact inductionHypothesis

/-- There is one pause less than there are batches. -/
theorem elapsed_intersperse (pause : Nat) (batches : List (List Record)) :
    elapsed ((batches.map .offer).intersperse (.sleep pause)) = (batches.length - 1) * pause := by
  induction batches with
  | nil =>
      simp [elapsed]
  | cons batch rest inductionHypothesis =>
      cases rest with
      | nil =>
          simp [elapsed]
      | cons next others =>
          have later : elapsed ((.offer batch :: .offer next :: others.map .offer).intersperse
              (.sleep pause)) =
                pause + elapsed (((next :: others).map .offer).intersperse (.sleep pause)) := rfl
          simp only [List.map_cons] at inductionHypothesis later ⊢
          rw [later, inductionHypothesis]
          simp only [List.length_cons, Nat.add_sub_cancel, Nat.succ_mul]
          omega

/-! ## Ingestions -/

/-- Whether a report and what has happened account for all passages, given the store's answers. -/
structure Accounts
    (store : Store)
    (style : Style)
    (records : List Record)
    (report : Report)
    (events : List Event) :
    Prop where
  /-- Batches have the size that is asked for, brought between one and 96. -/
  cuts : Cuts (max 1 (min style.batchSize 96)) records (offered events)
  within : ∀ batch ∈ offered events, 1 ≤ batch.length ∧ batch.length ≤ 96
  report_eq :
    report =
      { namespaceName := style.namespaceName
        upserted := ((store.taken (offered events)).map List.length).sum
        totalRecords := records.length
        batchSize := max 1 (min style.batchSize 96)
        failedBatches := (store.refused (offered events)).length }
  all_told :
    report.upserted + ((store.refused (offered events)).map List.length).sum = report.totalRecords
  /-- Unless there is no pause, there is one after each batch but the last. -/
  events_eq :
    events =
      if style.pause = 0 then (offered events).map .offer
      else ((offered events).map .offer).intersperse (.sleep style.pause)
  elapsed_eq : elapsed events = ((offered events).length - 1) * style.pause

/-- The batches of a style are offered, with its pause between them, whatever the store answers. -/
theorem events_ingest (store : Store) (style : Style) (records : List Record) :
    (ingest store style records).2 =
      if style.pause = 0 then (style.batches records).map .offer
      else ((style.batches records).map .offer).intersperse (.sleep style.pause) := by
  refine offerFrom_events store style.pause ?_ _
  rw [Nat.zero_add, (style.cuts_batches records).number, totalBatches]

theorem offered_ingest (store : Store) (style : Style) (records : List Record) :
    offered (ingest store style records).2 = style.batches records := by
  rw [events_ingest]
  split
  · exact offered_map_offer _
  · exact offered_intersperse ..

/-- What is counted are the batches of the style by the answers of the store. -/
theorem report_ingest (store : Store) (style : Style) (records : List Record) :
    (ingest store style records).1 =
      { namespaceName := style.namespaceName
        upserted := ((store.taken (style.batches records)).map List.length).sum
        totalRecords := records.length
        batchSize := style.size
        failedBatches := (store.refused (style.batches records)).length } := by
  rw [ingest, offerFrom_report]
  simp only [Style.emptyReport, Nat.zero_add]
  rfl

/--
An ingestion offers every passage once and in order, and its report and its pauses account for them.
The batches and pauses would be the same with any other store.
-/
theorem ingest_accounts (store : Store) (style : Style) (records : List Record) :
    let outcome := ingest store style records
    Accounts store style records outcome.1 outcome.2 ∧
      ∀ other : Store, (ingest other style records).2 = outcome.2 := by
  have cuts := style.cuts_batches records
  refine ⟨⟨?_, ?_, ?_, ?_, ?_, ?_⟩, fun other => ?_⟩
  · rw [offered_ingest]
    exact cuts
  · intro batch member
    rw [offered_ingest] at member
    exact ⟨(cuts.within batch member).1, Nat.le_trans (cuts.within batch member).2 style.size_le⟩
  · rw [offered_ingest]
    exact report_ingest ..
  · rw [offered_ingest, report_ingest]
    exact (Store.size_answeredFrom ..).trans (congrArg List.length cuts.whole)
  · rw [offered_ingest]
    exact events_ingest ..
  · rw [offered_ingest, events_ingest]
    split
    · rename_i immediate
      rw [elapsed_map_offer, immediate, Nat.mul_zero]
    · exact elapsed_intersperse ..
  · rw [events_ingest, events_ingest]

/-- Of five passages in batches of two, the store refuses the second batch. -/
example :
    let record : Record := ⟨"id", "text", "nextjs", "url", "title", "hash", 0, 0⟩
    ingest (fun number _ => number != 1) ⟨"docs", 2, 100⟩ (List.replicate 5 record) =
      (⟨"docs", 3, 5, 2, 1⟩,
        [.offer [record, record], .sleep 100, .offer [record, record], .sleep 100,
          .offer [record]]) := by
  decide

end SourceUpgrade.Ingest
