/-!
# Shortest decimals

The text of a floating-point number has as few digits as possible among the decimals that round to
it. The number is taken apart as `m · 2 ^ q`; a decimal rounds to it when it lies between the
midpoints to the two neighbours, the midpoints included when `m` is even. The search goes through
the grids `10 ^ k` from the coarsest to the finest and takes the first grid that has a point there:
one of the two grid points around the number, and of two the nearer, or the even one.

* `Binary.ofFloat`: the number as `m · 2 ^ q`.
* `Binary.shortest`: the digits and the exponent of the decimal.
* `Style.render`: the text of a decimal, positional or with an exponent.
-/

namespace ShaderHandles.Decimal

/-- The number `mantissa · 2 ^ exponent`. At a power of two the next smaller neighbour is nearer
than the next greater one. -/
structure Binary where
  mantissa : Nat
  exponent : Int
  isPowerOfTwo : Bool
  deriving DecidableEq

/-- The number `digits · 10 ^ exponent`. -/
structure Scientific where
  digits : Nat
  exponent : Int
  deriving DecidableEq

namespace Binary

/-- The leading bit of a mantissa, which is not stored. -/
def hiddenBit : Nat := 0x10000000000000

/-- The absolute value of a finite floating-point number. -/
def ofFloat (x : Float) : Binary :=
  let bits := x.toBits.toNat
  let fraction : Nat := bits % hiddenBit
  let biased : Nat := bits / hiddenBit % 0x800
  if biased = 0 then
    { mantissa := fraction, exponent := -1074, isPowerOfTwo := false }
  else
    { mantissa := hiddenBit + fraction, exponent := (biased : Int) - 1075,
      isPowerOfTwo := fraction = 0 && biased ≠ 1 }

/-- A number of quarters of the unit `2 ^ exponent` as a fraction of the unit of the grid
`10 ^ k`. -/
def ratio (x : Binary) (quarters : Nat) (k : Int) : Nat × Nat :=
  let q := x.exponent - 2
  (quarters * Nat.pow 2 q.toNat * Nat.pow 10 (-k).toNat, Nat.pow 2 (-q).toNat * Nat.pow 10 k.toNat)

/-- Whether a point of the grid `10 ^ k` rounds to the number. -/
def admits (x : Binary) (k : Int) (point : Nat) : Bool :=
  let (low, unit) := x.ratio (4 * x.mantissa - if x.isPowerOfTwo then 1 else 2) k
  let (high, _) := x.ratio (4 * x.mantissa + 2) k
  if x.mantissa % 2 = 0 then low ≤ point * unit && point * unit ≤ high
  else low < point * unit && point * unit < high

/-- The point of the grid `10 ^ k` that stands for the number, if one does. -/
def onGrid (x : Binary) (k : Int) : Option Nat :=
  let (value, unit) := x.ratio (4 * x.mantissa) k
  let below := value / unit
  match x.admits k below, x.admits k (below + 1) with
  | false, false => none
  | true, false => some below
  | false, true => some (below + 1)
  | true, true =>
    let rest := value % unit
    if 2 * rest < unit then some below
    else if unit < 2 * rest then some (below + 1)
    else if below % 2 = 0 then some below
    else some (below + 1)

/-- The search from the grid `10 ^ k` on, through `count` grids. -/
def search (x : Binary) (k : Int) : (count : Nat) → Scientific
  | 0 => ⟨0, 0⟩
  | count + 1 =>
    match x.onGrid k with
    | some point => ⟨point, k⟩
    | none => search x (k - 1) count

/-- The shortest decimal that rounds to the number. No finite number reaches the first grid, and the
last one is finer than the least positive number. -/
def shortest (x : Binary) : Scientific :=
  if x.mantissa = 0 then ⟨0, 0⟩ else x.search 309 650

end Binary

/-! ## Text -/

/-- How a decimal is written. -/
structure Style where
  /-- The least exponent of the first digit that is written positionally. -/
  leastPositional : Int
  /-- The greatest such exponent. -/
  greatestPositional : Int

def digitsOf (n : Nat) : List Char := Nat.toDigits 10 n

/-- The text of a decimal: positional with at least one digit on both sides of the point, or one
digit before the point and a signed exponent. -/
def Style.render (style : Style) (x : Scientific) : String :=
  let digits := digitsOf x.digits
  let first := x.exponent + (digits.length : Int) - 1
  if x.digits = 0 then "0.0"
  else if style.leastPositional ≤ first ∧ first ≤ style.greatestPositional then
    let text :=
      if first < 0 then
        '0' :: '.' :: List.replicate (-first - 1).toNat '0' ++ digits
      else
        let whole := (first + 1).toNat
        let fraction := digits.drop whole
        digits.take whole ++ List.replicate (whole - digits.length) '0' ++
          '.' :: (if fraction.isEmpty then ['0'] else fraction)
    String.ofList text
  else
    let mantissa := digits.take 1 ++ if digits.length = 1 then [] else '.' :: digits.drop 1
    String.ofList mantissa ++ "e" ++ (if first < 0 then "-" else "+") ++ toString first.natAbs

end ShaderHandles.Decimal
