import SourceUpgrade.Passage.Record

namespace SourceUpgrade.Ingest

/-!
# Ingesting passages

Passages are offered to a store in batches of limited size. The store takes or refuses each batch as
a whole; a refused batch is counted and not offered again. Between batches there may be a pause.
-/

open Passage (Record)

/-- The largest batch that is offered. -/
def largestBatch : Nat := 96

/-- Where passages go, how large batches are meant to be, and the pause between them. -/
structure Style where
  namespaceName : String
  batchSize : Nat
  pause : Nat
deriving Repr, DecidableEq

/-- The largest batches with a tenth of a second between them. -/
def Style.standard : Style where
  namespaceName := "docs"
  batchSize := largestBatch
  pause := 100

/-- The size of batches: at least one passage and at most `largestBatch`. -/
def Style.size (style : Style) : Nat :=
  max 1 (min style.batchSize largestBatch)

/-- Cut a list into batches of a size; fuel bounds the batches. -/
def batchesOf (size : Nat) : Nat → List Record → List (List Record)
  | 0, _ => []
  | _ + 1, [] => []
  | fuel + 1, records => records.take size :: batchesOf size fuel (records.drop size)

/-- The batches in which passages are offered. -/
def Style.batches (style : Style) (records : List Record) : List (List Record) :=
  batchesOf style.size records.length records

/-- How many batches of a size passages make. -/
def totalBatches (size : Nat) (records : List Record) : Nat :=
  (records.length + size - 1) / size

/-- What came of an ingestion. -/
structure Report where
  namespaceName : String
  upserted : Nat
  totalRecords : Nat
  batchSize : Nat
  failedBatches : Nat
deriving Repr, DecidableEq

/-- A store: whether it takes the batch with a number, counted from zero. -/
abbrev Store : Type := Nat → List Record → Bool

/-- The report before any batch has been offered. -/
def Style.emptyReport (style : Style) (records : List Record) : Report where
  namespaceName := style.namespaceName
  upserted := 0
  totalRecords := records.length
  batchSize := style.size
  failedBatches := 0

/-- Count a batch that the store takes or refuses. -/
def Report.count (report : Report) (taken : Bool) (batch : List Record) : Report :=
  if taken then { report with upserted := report.upserted + batch.length }
  else { report with failedBatches := report.failedBatches + 1 }

/-- Something that happens while passages are ingested. -/
inductive Event where
  | offer (batch : List Record)
  | sleep (time : Nat)
deriving Repr, DecidableEq

/-- Offer batches from a number on, of a total that there are, and pause after each that is not the
last: the report and what happened. -/
def offerFrom
    (store : Store)
    (pause total : Nat) :
    Nat → List (List Record) → Report → Report × List Event
  | _, [], report => (report, [])
  | number, batch :: rest, report =>
      let taken := store number batch
      let later := offerFrom store pause total (number + 1) rest (report.count taken batch)
      let between := if number + 1 < total ∧ pause ≠ 0 then [Event.sleep pause] else []
      (later.1, .offer batch :: between ++ later.2)

/-- Ingest passages: the report and what happened in order. -/
def ingest (store : Store) (style : Style) (records : List Record) : Report × List Event :=
  offerFrom store style.pause (totalBatches style.size records) 0 (style.batches records)
    (style.emptyReport records)

/-- How long events take; offering a batch takes no time. -/
def elapsed : List Event → Nat
  | [] => 0
  | .offer _ :: rest => elapsed rest
  | .sleep time :: rest => time + elapsed rest

/-- The batches that were offered, in order. -/
def offered (events : List Event) : List (List Record) :=
  events.filterMap fun
    | .offer batch => some batch
    | .sleep _ => none

end SourceUpgrade.Ingest
