/-!
# The shortest decimal of a binary fraction

A double stands for all numbers that round to it. The shortest decimal of a double is the decimal
with the fewest digits among them, and of two with as many digits the one nearer to the double.
Everything is exact: numbers are quotients of natural numbers.
-/

namespace ClassRename.Decimal

/-- A positive number as a quotient. -/
structure Ratio where
  numerator : Nat
  denominator : Nat
  deriving Repr

namespace Ratio

def le (a b : Ratio) : Bool := a.numerator * b.denominator ≤ b.numerator * a.denominator

def lt (a b : Ratio) : Bool := a.numerator * b.denominator < b.numerator * a.denominator

def scale (base : Nat) (exponent : Int) (a : Ratio) : Ratio :=
  match exponent with
  | .ofNat n => { a with numerator := a.numerator * base.pow n }
  | .negSucc n => { a with denominator := a.denominator * base.pow (n + 1) }

end Ratio

/-- A decimal: its digits as a number, and the power of ten of the last of them. -/
structure Scaled where
  digits : Nat
  exponent : Int
  deriving Repr, DecidableEq

/-- The numbers that round to a double; its own ends belong to them when its last bit is even. -/
structure Rounding where
  value : Ratio
  low : Ratio
  high : Ratio
  closed : Bool

namespace Rounding

/-- The numbers that round to `mantissa * 2 ^ exponent`. Below a power of two the doubles lie twice as
dense. -/
def of (mantissa : Nat) (exponent : Int) (denseBelow : Bool) : Rounding :=
  let at4 (quarters : Nat) : Ratio := Ratio.scale 2 (exponent - 2) ⟨quarters, 1⟩
  { value := at4 (4 * mantissa)
    low := at4 (if denseBelow then 4 * mantissa - 1 else 4 * mantissa - 2)
    high := at4 (4 * mantissa + 2)
    closed := mantissa % 2 == 0 }

def holds (rounding : Rounding) (a : Ratio) : Bool :=
  if rounding.closed then rounding.low.le a && a.le rounding.high
  else rounding.low.lt a && a.lt rounding.high

/-- The decimal with its last digit at the power of ten that rounds to the double and is nearest to
it, if there is one; of two equally near the one with an even last digit. -/
def onGrid? (rounding : Rounding) (exponent : Int) : Option Scaled :=
  let unscaled := rounding.value.scale 10 (-exponent)
  let below := unscaled.numerator / unscaled.denominator
  let at10 (digits : Nat) : Ratio := Ratio.scale 10 exponent ⟨digits, 1⟩
  let fitsBelow := rounding.holds (at10 below)
  let fitsAbove := rounding.holds (at10 (below + 1))
  let twice := 2 * (unscaled.numerator % unscaled.denominator)
  let nearerBelow := twice < unscaled.denominator ∨ twice = unscaled.denominator ∧ below % 2 = 0
  if fitsBelow && (nearerBelow || !fitsAbove) then some ⟨below, exponent⟩
  else if fitsAbove then some ⟨below + 1, exponent⟩
  else none

def leading (rounding : Rounding) : Int :=
  let a := rounding.value
  if a.denominator ≤ a.numerator then
    (Nat.toDigits 10 (a.numerator / a.denominator)).length - 1
  else
    let rec go : Nat → Nat → Int
      | 0, shift => -shift
      | budget + 1, shift =>
        if a.denominator ≤ a.numerator * Nat.pow 10 shift then -shift else go budget (shift + 1)
    go 400 1

/-- The shortest decimal, with at most seventeen digits. The search begins one place before the first
digit, since the double may lie right below a power of ten. -/
def shortest (rounding : Rounding) : Scaled :=
  let first := rounding.leading + 1
  let rec go : Nat → Nat → Scaled
    | 0, _ => ⟨0, 0⟩
    | budget + 1, count =>
      match rounding.onGrid? (first - count) with
      | some found => found
      | none => go budget (count + 1)
  go 19 0

end Rounding

def shortest (value : Float) : Scaled :=
  let bits := value.toBits.toNat
  let fraction : Nat := bits % Nat.pow 2 52
  let exponent : Nat := bits / Nat.pow 2 52 % Nat.pow 2 11
  if exponent = 0 then (Rounding.of fraction (-1074) false).shortest
  else
    (Rounding.of (Nat.pow 2 52 + fraction) ((exponent : Int) - 1075)
      (fraction == 0 && exponent > 1)).shortest

end ClassRename.Decimal
