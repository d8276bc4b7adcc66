import SourceUpgrade.Floating.Rounding

namespace SourceUpgrade.Floating

/-!
# Shortest decimal text

The text of a 64-bit number has the fewest digits that read back as the number, and of those the
digits nearest to it. The number with `count` digits are looked for on the grid of decimals with
that many digits, at the two neighbours of the number.
-/

/-- A decimal number `digits * 10 ^ exponent`. -/
structure DecimalForm where
  digits : Nat
  exponent : Int
deriving Repr, DecidableEq

/-- The numerator of a decimal number as a fraction. -/
def DecimalForm.numerator (form : DecimalForm) : Nat :=
  form.digits * tenTo form.exponent.toNat

/-- The denominator of a decimal number as a fraction. -/
def DecimalForm.denominator (form : DecimalForm) : Nat :=
  tenTo (-form.exponent).toNat

/-- Whether a decimal number rounds to a magnitude. -/
def DecimalForm.readsBack (form : DecimalForm) (magnitude : Magnitude) : Bool :=
  round? .double form.numerator form.denominator == some magnitude

/-- How many decimal digits a positive number has. -/
def digitCount (value : Nat) : Nat :=
  (Nat.toDigits 10 value).length

/-- The exponent of the leading decimal digit of a positive fraction. -/
def leadingDecimal (numerator denominator : Nat) : Int :=
  let estimate : Int := (digitCount numerator : Int) - (digitCount denominator : Int)
  if denominator * tenTo estimate.toNat ≤ numerator * tenTo (-estimate).toNat then estimate
  else estimate - 1

/-- The twofold distance of a decimal number from a fraction, over a common denominator. -/
def gridDistance (numerator denominator : Nat) (form : DecimalForm) : Nat :=
  let left := form.numerator * denominator
  let right := numerator * form.denominator
  (left - right) + (right - left)

/-- The better of the two neighbours of a magnitude with so many digits that read back as it. -/
def onGrid? (magnitude : Magnitude) (leading : Int) (count : Nat) : Option DecimalForm :=
  let exponent := leading - (count : Int) + 1
  let numerator := magnitude.numerator
  let denominator := magnitude.denominator
  let below := (numerator * tenTo (-exponent).toNat) / (denominator * tenTo exponent.toNat)
  let lower : DecimalForm := ⟨below, exponent⟩
  let upper : DecimalForm := ⟨below + 1, exponent⟩
  match lower.readsBack magnitude, upper.readsBack magnitude with
  | false, false => none
  | true, false => some lower
  | false, true => some upper
  | true, true =>
      let down := gridDistance numerator denominator lower
      let up := gridDistance numerator denominator upper
      if down < up then some lower
      else if up < down then some upper
      else if below % 2 = 0 then some lower else some upper

/-- Remove zeros at the end of the digits; fuel bounds the steps. -/
def DecimalForm.trimmed : Nat → DecimalForm → DecimalForm
  | 0, form => form
  | fuel + 1, form =>
      if form.digits ≠ 0 ∧ form.digits % 10 = 0 then
        trimmed fuel ⟨form.digits / 10, form.exponent + 1⟩
      else
        form

/-- The shortest decimal number that reads back as a positive magnitude. -/
def shortest (magnitude : Magnitude) : DecimalForm :=
  let leading := leadingDecimal magnitude.numerator magnitude.denominator
  let found := ((List.range 17).map (· + 1)).findSome? (onGrid? magnitude leading)
  (found.getD ⟨0, 0⟩).trimmed 20

/-- How the digits of a number are laid out. -/
structure Layout where
  /-- The least exponent of a leading digit that is written with a plain decimal point. -/
  leastPlain : Int
  /-- The greatest exponent of a leading digit that is written with a plain decimal point. -/
  greatestPlain : Int
deriving Repr, DecidableEq

/-- Digits with the point after the first one, and none after a single digit. -/
def withPointAfterFirst (digits : List Char) : List Char :=
  match digits with
  | [] => []
  | [only] => [only]
  | first :: rest => first :: '.' :: rest

/-- The text of a positive decimal number whose leading digit has the given exponent. -/
def Layout.place (layout : Layout) (digits : List Char) (leading : Int) : List Char :=
  if layout.leastPlain ≤ leading ∧ leading ≤ layout.greatestPlain then
    if leading < 0 then
      ['0', '.'] ++ List.replicate (-leading - 1).toNat '0' ++ digits
    else
      let whole := leading.toNat + 1
      let padded := digits ++ List.replicate (whole - digits.length) '0'
      let fraction := padded.drop whole
      padded.take whole ++ ['.'] ++ (if fraction.isEmpty then ['0'] else fraction)
  else
    withPointAfterFirst digits ++ ['e', if leading < 0 then '-' else '+'] ++
      Nat.toDigits 10 leading.natAbs

/-- The text of a number in a layout. -/
def Layout.write (layout : Layout) (number : Number) : List Char :=
  let sign := if number.negative then ['-'] else []
  if number.magnitude.significand = 0 then
    sign ++ ['0', '.', '0']
  else
    let form := shortest number.magnitude
    let digits := Nat.toDigits 10 form.digits
    sign ++ layout.place digits (form.exponent + (digits.length : Int) - 1)

end SourceUpgrade.Floating
