namespace ChatNotify.Text

/-- The number `significand · 2 ^ exponent`. -/
structure Binary where
  significand : Nat
  exponent : Int
  deriving Repr, DecidableEq

/-- The number `digits · 10 ^ exponent`. -/
structure Decimal where
  digits : Nat
  exponent : Int
  deriving Repr, DecidableEq

namespace Binary

/-- The least exponent of a double. -/
def leastExponent : Int := -1074

/-- The significand from which on the distance to the next smaller double is half as long. -/
def leastNormal : Nat := 4503599627370496

/-- Holds if `digits · step` is rounded to the number when `4 · significand · unit` is the number
itself. The ends of the interval belong to it if the significand is even. -/
def covers (number : Binary) (unit step digits : Nat) : Bool :=
  let below :=
    if number.significand = leastNormal && leastExponent < number.exponent then 1 else 2
  let point := digits * step
  let low := (4 * number.significand - below) * unit
  let high := (4 * number.significand + 2) * unit
  low < point && point < high || number.significand % 2 = 0 && (point = low || point = high)

/-- The nearest multiple of a power of ten that is rounded to the number. Of two multiples at the same
distance, it is the larger one. -/
def onGrid? (number : Binary) (exponent : Int) : Option Nat :=
  let unit := Nat.pow 2 (number.exponent - 2).toNat * Nat.pow 10 (-exponent).toNat
  let step := Nat.pow 2 (2 - number.exponent).toNat * Nat.pow 10 exponent.toNat
  let exact := 4 * number.significand * unit
  let below := exact / step
  let nearer := if 2 * (exact - below * step) < step then [below, below + 1] else [below + 1, below]
  nearer.find? (number.covers unit step)

/-- The exponents of the grids that doubles may need, from the coarsest one on. -/
def grids : List Int :=
  (List.range 652).map fun (place : Nat) => 309 - (place : Int)

/-- The decimal with the fewest digits that is rounded to the number: of the coarsest grid of powers
of ten that has a point in the interval of reals rounded to it, the point nearest to the number
itself. -/
def shortest (number : Binary) : Decimal :=
  (grids.findSome? fun exponent => (number.onGrid? exponent).map (⟨·, exponent⟩)).getD ⟨0, 0⟩

end Binary

/-- The digits of a decimal in positional notation. -/
def Decimal.positional (number : Decimal) : String :=
  let digits := Nat.toDigits 10 number.digits
  if 0 ≤ number.exponent then
    String.ofList (digits ++ List.replicate number.exponent.toNat '0')
  else
    let places := number.exponent.natAbs
    let digits := List.replicate (places + 1 - digits.length) '0' ++ digits
    String.ofList (digits.take (digits.length - places) ++ '.' :: digits.drop (digits.length - places))

/-- The text of a double: positional notation with the fewest digits that read back, and without a
fraction if there is none. -/
def ofDouble (value : Float) : String :=
  let bits := value.toBits.toNat
  let fraction := bits % Binary.leastNormal
  let exponent := bits / Binary.leastNormal % 2048
  let sign := if bits / Binary.leastNormal < 2048 then "" else "-"
  if exponent = 2047 then if fraction = 0 then sign ++ "inf" else "NaN"
  else if exponent = 0 && fraction = 0 then sign ++ "0"
  else
    let number : Binary :=
      if exponent = 0 then ⟨fraction, Binary.leastExponent⟩
      else ⟨Binary.leastNormal + fraction, Binary.leastExponent + (exponent - 1 : Nat)⟩
    sign ++ number.shortest.positional

end ChatNotify.Text
