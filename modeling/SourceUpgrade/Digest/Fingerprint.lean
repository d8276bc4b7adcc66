import SourceUpgrade.Digest.Sha256

namespace SourceUpgrade.Digest

/-!
# Fingerprints of texts

A text is identified by the hash of its UTF-8 form, in hexadecimal digits. A fingerprint keeps the
first digits only; how many is chosen by whoever compares texts.
-/

/-- How many digits a full hash has. -/
def fullLength : Nat := 64

/-- How many digits a fingerprint has unless another length is chosen. -/
def defaultLength : Nat := 10

/-- The full hash of a text. -/
def ofText (text : String) : String :=
  String.ofList (hex (sha256 text.toUTF8.toList))

/-- The first digits of the hash of a text, at least one and at most all of them. -/
def fingerprint (length : Nat) (text : String) : String :=
  String.ofList ((ofText text).toList.take (max 1 (min length fullLength)))

end SourceUpgrade.Digest
