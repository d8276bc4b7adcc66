import SourceUpgrade.Digest.Fingerprint
import SourceUpgrade.Patch.Unified

namespace SourceUpgrade

/-!
# Change records

What the preview of an upgrade says about one file: the fingerprints of its content before and after,
how many changes there are, the notes of the rules and the patch.
-/

/-- The record of a file that changes. -/
structure ChangeRecord where
  file : String
  beforeHash : String
  afterHash : String
  changes : Nat
  notes : List String
  patch : String
deriving Repr, DecidableEq

/-- How records are made: the length of fingerprints and the kept lines around changes. -/
structure RecordStyle where
  fingerprintLength : Nat
  contextRadius : Nat
deriving Repr, DecidableEq

/-- Short fingerprints and three kept lines. -/
def RecordStyle.standard : RecordStyle where
  fingerprintLength := Digest.defaultLength
  contextRadius := 3

/-- The fingerprints of two texts; full hashes if the chosen length does not tell them apart. -/
def RecordStyle.fingerprints (style : RecordStyle) (before after : String) : String × String :=
  let first := Digest.fingerprint style.fingerprintLength before
  let second := Digest.fingerprint style.fingerprintLength after
  if first = second then (Digest.ofText before, Digest.ofText after) else (first, second)

/-- The record of a change; there is none if nothing was counted or the content is the same. -/
def RecordStyle.record?
    (style : RecordStyle)
    (path before after : String)
    (changes : Nat)
    (notes : List String) :
    Option ChangeRecord :=
  if changes = 0 ∨ before = after then
    none
  else
    let hashes := style.fingerprints before after
    some
      { file := path
        beforeHash := hashes.1
        afterHash := hashes.2
        changes := changes
        notes := notes
        patch := Patch.unified path before after style.contextRadius }

end SourceUpgrade
