namespace ClassRename.Number

structure Binary where
  significand : Nat
  exponent : Int
  closerBelow : Bool
deriving Repr, DecidableEq

structure Decimal where
  digits : Nat
  exponent : Int
deriving Repr, DecidableEq

namespace Binary

-- The number and the ends of the interval that rounds to it, all as multiples of one unit
-- `numerator unit / denominator` chosen so that everything below is a whole number.
structure Interval where
  low : Nat
  value : Nat
  high : Nat
  unit : Nat
  closed : Bool

def interval (number : Binary) : Interval :=
  let scale := if number.exponent < 0 then 1 else Nat.pow 2 number.exponent.toNat
  let unit := if number.exponent < 0 then Nat.pow 2 (-number.exponent).toNat else 1
  let value := 4 * number.significand * scale
  ⟨value - (if number.closerBelow then scale else 2 * scale), value, value + 2 * scale, 4 * unit,
    number.significand % 2 = 0⟩

def Interval.holds (interval : Interval) (decimal : Decimal) : Bool :=
  let up := Nat.pow 10 decimal.exponent.toNat
  let down := Nat.pow 10 (-decimal.exponent).toNat
  let point := decimal.digits * up * interval.unit
  let low := interval.low * down
  let high := interval.high * down
  if interval.closed then low ≤ point && point ≤ high else low < point && point < high

def Interval.onGrid? (interval : Interval) (exponent : Int) : Option Decimal :=
  let up := Nat.pow 10 exponent.toNat
  let down := Nat.pow 10 (-exponent).toNat
  let step := up * interval.unit
  let value := interval.value * down
  let below : Decimal := ⟨value / step, exponent⟩
  let above : Decimal := ⟨value / step + 1, exponent⟩
  match interval.holds below, interval.holds above with
  | true, true => some (if value % step * 2 < step then below else above)
  | true, false => some below
  | false, true => some above
  | false, false => none

def Interval.coarsest (interval : Interval) (exponent : Int) : (count : Nat) → Decimal
  | 0 => ⟨interval.value / interval.unit, 0⟩
  | count + 1 =>
    match interval.onGrid? exponent with
    | some decimal => decimal
    | none => interval.coarsest (exponent - 1) count

-- The first grid is coarser than the number, as log10 2 is about 0.301, and seventeen digits
-- always suffice for 53 bits.
def shortest (number : Binary) : Decimal :=
  let bits := number.significand.log2 + 1
  let top := (number.exponent + bits) * 302 / 1000 + 2
  number.interval.coarsest top 26

end Binary

def Decimal.positional (decimal : Decimal) : String :=
  let digits := Nat.toDigits 10 decimal.digits
  if 0 ≤ decimal.exponent then
    String.ofList (digits ++ List.replicate decimal.exponent.toNat '0')
  else
    let places := (-decimal.exponent).toNat
    let padded := List.replicate (places + 1 - digits.length) '0' ++ digits
    let whole := padded.length - places
    String.ofList (padded.take whole ++ '.' :: padded.drop whole)

structure Format where
  exponentBits : Nat
  fractionBits : Nat

def single : Format := ⟨8, 23⟩
def double : Format := ⟨11, 52⟩

inductive Value where
  | notANumber
  | infinite
  | zero
  | finite (number : Binary)

def Format.sign (format : Format) (bits : Nat) : Bool :=
  bits / Nat.pow 2 (format.exponentBits + format.fractionBits) % 2 = 1

def Format.value (format : Format) (bits : Nat) : Value :=
  let fraction := bits % Nat.pow 2 format.fractionBits
  let exponent := bits / Nat.pow 2 format.fractionBits % Nat.pow 2 format.exponentBits
  let bias : Int := Nat.pow 2 (format.exponentBits - 1) - 1 + format.fractionBits
  if exponent = Nat.pow 2 format.exponentBits - 1 then
    if fraction = 0 then .infinite else .notANumber
  else if exponent = 0 then
    if fraction = 0 then .zero else .finite ⟨fraction, 1 - bias, false⟩
  else
    .finite ⟨Nat.pow 2 format.fractionBits + fraction, exponent - bias, fraction = 0 && 1 < exponent⟩

def Value.text : Value → String
  | .notANumber => "NaN"
  | .infinite => "inf"
  | .zero => "0"
  | .finite number => number.shortest.positional

def Format.text (format : Format) (bits : Nat) : String :=
  match format.value bits with
  | .notANumber => Value.text .notANumber
  | value => (if format.sign bits then "-" else "") ++ value.text

end ClassRename.Number
