import SourceUpgrade.Change
import SourceUpgrade.Text.Digit

namespace SourceUpgrade

/-!
# Telling texts apart by fingerprints

A fingerprint keeps the first digits of a hash, so different texts can have the same one. A record
of a change then has the full hashes, and `RecordStyle.fingerprints_eq_iff` says that its two
fingerprints are the same only if the hashes are.
-/

namespace Digest

theorem digitChar_injective :
    ∀ first < 16, ∀ second < 16,
      Nat.digitChar first = Nat.digitChar second → first = second := by
  decide

/-- Different bytes have different hexadecimal digits. -/
theorem hex_injective {first second : List UInt8} (same : hex first = hex second) :
    first = second := by
  induction first generalizing second with
  | nil =>
      cases second with
      | nil =>
          rfl
      | cons byte rest =>
          cases same
  | cons byte rest inductionHypothesis =>
      cases second with
      | nil =>
          cases same
      | cons other later =>
          obtain ⟨high, low, sameRest⟩ :
              Nat.digitChar (byte.toNat / 16) = Nat.digitChar (other.toNat / 16) ∧
                Nat.digitChar (byte.toNat % 16) = Nat.digitChar (other.toNat % 16) ∧
                  hex rest = hex later := by
            simpa [hex] using same
          have below : byte.toNat < 256 := byte.toNat_lt
          have otherBelow : other.toNat < 256 := other.toNat_lt
          have sameHigh : byte.toNat / 16 = other.toNat / 16 :=
            digitChar_injective _ (by omega) _ (by omega) high
          have sameLow : byte.toNat % 16 = other.toNat % 16 :=
            digitChar_injective _ (by omega) _ (by omega) low
          have sameByte : byte = other := UInt8.toNat_inj.mp (by omega)
          rw [sameByte, inductionHypothesis sameRest]

theorem isHexDigit_digitChar : ∀ digit < 16, Text.isHexDigit (Nat.digitChar digit) = true := by
  decide

/-- Bytes are written in hexadecimal digits only. -/
theorem isHexDigit_of_mem_hex
    {bytes : List UInt8}
    {c : Char}
    (member : c ∈ hex bytes) :
    Text.isHexDigit c = true := by
  obtain ⟨byte, -, digits⟩ := List.mem_flatMap.mp member
  have below : byte.toNat < 256 := byte.toNat_lt
  simp only [List.mem_cons, List.not_mem_nil, or_false] at digits
  rcases digits with rfl | rfl
  · exact isHexDigit_digitChar _ (by omega)
  · exact isHexDigit_digitChar _ (by omega)

/-- A fingerprint consists of hexadecimal digits. -/
theorem isHexDigit_of_mem_fingerprint
    {length : Nat}
    {text : String}
    {c : Char}
    (member : c ∈ (fingerprint length text).toList) :
    Text.isHexDigit c = true := by
  rw [fingerprint, String.toList_ofList] at member
  have inHash : c ∈ (ofText text).toList := List.mem_of_mem_take member
  rw [ofText, String.toList_ofList] at inHash
  exact isHexDigit_of_mem_hex inHash

/-- Texts have the same full hash exactly if the hashes of their bytes are the same. -/
theorem ofText_eq_iff {first second : String} :
    ofText first = ofText second ↔
      sha256 first.toUTF8.toList = sha256 second.toUTF8.toList := by
  rw [ofText, ofText, String.ofList_inj]
  exact ⟨hex_injective, congrArg hex⟩

/-- Where full hashes are the same, their first digits are. -/
theorem fingerprint_congr
    {first second : String}
    (same : ofText first = ofText second)
    (length : Nat) :
    fingerprint length first = fingerprint length second := by
  rw [fingerprint, fingerprint, same]

end Digest

/-- The fingerprints of a change are the same only if the full hashes of both texts are. -/
theorem RecordStyle.fingerprints_eq_iff
    {style : RecordStyle}
    {before after : String} :
    (style.fingerprints before after).1 = (style.fingerprints before after).2 ↔
      Digest.sha256 before.toUTF8.toList = Digest.sha256 after.toUTF8.toList := by
  rw [← Digest.ofText_eq_iff, fingerprints]
  split
  · rfl
  · rename_i toldApart
    exact ⟨fun same => absurd same toldApart,
      fun same => Digest.fingerprint_congr same style.fingerprintLength⟩

end SourceUpgrade
