import SourceUpgrade.Json.Printer
import SourceUpgrade.Json.Reader

namespace SourceUpgrade.Json

/-!
# Strings that are read as they were written

A string is read back up to its closing quote, whatever characters it has.
-/

theorem hexDigit?_hexDigit
    {value : Nat}
    (small : value < 16) :
    Text.hexDigit? (hexDigit value) = some value := by
  revert value
  decide

/-- A control character is read back from its unit escape. -/
theorem unitEscape?_control
    {c : Char}
    (control : c.toNat < 0x20)
    (rest : List Char) :
    unitEscape? ('0' :: '0' :: hexDigit (c.toNat / 16) :: hexDigit (c.toNat % 16) :: rest) =
      some (c, rest) := by
  have high : Text.hexDigit? (hexDigit (c.toNat / 16)) = some (c.toNat / 16) :=
    hexDigit?_hexDigit (by omega)
  have low : Text.hexDigit? (hexDigit (c.toNat % 16)) = some (c.toNat % 16) :=
    hexDigit?_hexDigit (by omega)
  have zero : Text.hexDigit? '0' = some 0 := by decide
  have unit : ((0 * 16 + 0) * 16 + c.toNat / 16) * 16 + c.toNat % 16 = c.toNat := by omega
  have read :
      hexUnit?
          ('0' :: '0' :: hexDigit (c.toNat / 16) :: hexDigit (c.toNat % 16) :: rest) =
        some (c.toNat, rest) := by
    simp only [hexUnit?, zero, high, low, Option.bind_eq_bind, Option.bind_some]
    rw [unit]
    rfl
  have noHighHalf : ¬ (0xD800 ≤ c.toNat ∧ c.toNat ≤ 0xDBFF) := by omega
  have noLowHalf : ¬ (0xDC00 ≤ c.toNat ∧ c.toNat ≤ 0xDFFF) := by omega
  simp only [unitEscape?, read, Option.bind_eq_bind, Option.bind_some]
  rw [if_neg noHighHalf, if_neg noLowHalf, Char.ofNat_toNat]
  rfl

/-- A character is read back from the way it is written, which never begins with a quote. -/
theorem stringChar?_escapeChar
    (c : Char)
    (rest : List Char) :
    stringChar? (escapeChar c ++ rest) = some (c, rest) ∧
      ∀ after, escapeChar c ++ rest ≠ '"' :: after := by
  unfold escapeChar
  split
  case h_8 notQuote notBackslash _ _ _ _ _ =>
    split
    · rename_i control
      exact ⟨unitEscape?_control control rest, by simp⟩
    · rename_i printable
      refine ⟨?_, by simpa using notQuote⟩
      rw [List.cons_append, List.nil_append]
      unfold stringChar?
      split <;> simp_all
  all_goals exact ⟨rfl, by simp⟩

/-- A string is read back up to its closing quote. -/
theorem readString_escaped
    {fuel : Nat}
    {chars : List Char}
    (enough : chars.length < fuel)
    (rest : List Char) :
    readString fuel (chars.flatMap escapeChar ++ '"' :: rest) = .ok (chars, rest) := by
  induction chars generalizing fuel with
  | nil =>
      obtain ⟨fuel, rfl⟩ := Nat.exists_eq_succ_of_ne_zero (Nat.ne_of_gt enough)
      rfl
  | cons c chars inductionHypothesis =>
      obtain ⟨fuel, rfl⟩ := Nat.exists_eq_succ_of_ne_zero (Nat.ne_of_gt (Nat.zero_lt_of_lt enough))
      obtain ⟨read, noQuote⟩ :=
        stringChar?_escapeChar c (chars.flatMap escapeChar ++ '"' :: rest)
      have readLater :
          readString fuel (chars.flatMap escapeChar ++ '"' :: rest) = .ok (chars, rest) :=
        inductionHypothesis (Nat.lt_of_succ_lt_succ enough)
      rw [List.flatMap_cons, List.append_assoc, readString, read]
      · exact congrArg (Except.map fun later => (c :: later.1, later.2)) readLater
      · exact noQuote

/-- No character is written as nothing. -/
theorem length_le_flatMap_escapeChar
    (chars : List Char) :
    chars.length ≤ (chars.flatMap escapeChar).length := by
  induction chars with
  | nil =>
      exact Nat.le_refl _
  | cons c chars inductionHypothesis =>
      have written : 0 < (escapeChar c).length := by
        unfold escapeChar
        split
        case h_8 => split <;> simp
        all_goals simp
      rw [List.flatMap_cons, List.length_append, List.length_cons]
      omega

end SourceUpgrade.Json
