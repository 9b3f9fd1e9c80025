import BusCache.Scalar

/-!
# Shortest decimals — the fewest digits that read back

A finite double is a natural number times a power of two. The decimals that are read as it are those
in the interval that reaches halfway to its neighbours on either side; the ends belong to it exactly
if its fraction is even. The shortest decimal is looked for on ever finer decimal grids, from that
of the leading digit on: the first grid with a point in the interval has it, of two points the
nearer one, and the upper one if both are equally near.

All of this is exact arithmetic of natural numbers.
-/

namespace BusCache.Decimal

structure Scaled where
  digits : Nat
  exponent : Int
deriving DecidableEq, Inhabited

/-- The numbers that are read as one double, as fractions with a common denominator. -/
structure Rounding where
  low : Nat
  exact : Nat
  high : Nat
  denominator : Nat
  /-- Whether the ends are read as the double too. -/
  closed : Bool

namespace Rounding

/-- The interval of a finite double other than zero. Below a power of two the neighbour is half as
far away as above it, except at the least exponent. -/
def ofMagnitude (magnitude : UInt64) : Rounding :=
  let biased := (magnitude >>> 52).toNat
  let fraction := (magnitude &&& 0xFFFFFFFFFFFFF).toNat
  let m := if biased = 0 then fraction else Nat.pow 2 52 + fraction
  -- the value is 4 * m quarters of the last place, and a quarter is 2 ^ (place - 1077)
  let place := max biased 1
  let below := if fraction = 0 ∧ biased > 1 then 1 else 2
  let scale := Nat.pow 2 (place - 1077)
  { low := (4 * m - below) * scale
    exact := 4 * m * scale
    high := (4 * m + 2) * scale
    denominator := Nat.pow 2 (1077 - place)
    closed := m % 2 = 0 }

def inUnits (r : Rounding) (exponent : Int) : Rounding :=
  match exponent with
  | .ofNat e => { r with denominator := r.denominator * Nat.pow 10 e }
  | .negSucc e =>
      let f := Nat.pow 10 (e + 1)
      { r with low := r.low * f, exact := r.exact * f, high := r.high * f }

def holds (r : Rounding) (units : Nat) : Bool :=
  let n := units * r.denominator
  if r.closed then r.low ≤ n && n ≤ r.high else r.low < n && n < r.high

/-- The whole number of units next to the exact value that lies in the interval; of two, the
nearer, and of two equally near, the upper. -/
def nearest? (r : Rounding) : Option Nat :=
  let down := r.exact / r.denominator
  let up := down + 1
  match r.holds down, r.holds up with
  | true, true =>
      if 2 * r.exact < (down + up) * r.denominator then some down else some up
  | true, false => some down
  | false, true => some up
  | false, false => none

def leadingExponent (r : Rounding) : Int :=
  -- the largest double is below 10 ^ 309, the least above 10 ^ (-324)
  ((List.range 634).find? fun (i : Nat) =>
      let s := r.inUnits (308 - (i : Int))
      s.denominator ≤ s.exact).elim (-325) fun (i : Nat) => 308 - (i : Int)

/-- The shortest decimal in the interval: one of at most seventeen digits. -/
def shortest (r : Rounding) : Scaled :=
  let lead := r.leadingExponent
  let hit := (List.range 17).findSome? fun (i : Nat) =>
    let exponent := lead - (i : Int)
    ((r.inUnits exponent).nearest?).map fun n => Scaled.mk n exponent
  hit.getD ⟨(r.inUnits (lead - 16)).exact / (r.inUnits (lead - 16)).denominator, lead - 16⟩

end Rounding

/-- The decimal without trailing zeros among its digits, of which there are at most a given
number. -/
def Scaled.strip : (zeros : Nat) → Scaled → Scaled
  | 0, s => s
  | zeros + 1, s =>
      if s.digits % 10 = 0 ∧ s.digits ≠ 0 then
        strip zeros ⟨s.digits / 10, s.exponent + 1⟩
      else s

def shortest (magnitude : UInt64) : Scaled :=
  ((Rounding.ofMagnitude magnitude).shortest).strip 20

/-! ## Layout -/

structure Layout where
  /-- The least exponent of the leading digit that is written with a point alone. -/
  plainFrom : Int
  /-- The least exponent above that which is not. -/
  plainBelow : Int
  nan : String
  infinity : String

namespace Layout

/-- A positive decimal with a point, with at least one digit on either side of it. -/
def plain (digits : List Char) (lead : Int) : List Char :=
  match lead with
  | .negSucc e => '0' :: '.' :: (List.replicate e '0' ++ digits)
  | .ofNat e =>
      let padded := digits ++ List.replicate (e + 1 - digits.length) '0'
      let fraction := padded.drop (e + 1)
      padded.take (e + 1) ++ '.' :: (if fraction.isEmpty then ['0'] else fraction)

/-- A positive decimal with one digit before the point, if there is one, and an exponent. -/
def scientific (digits : List Char) (lead : Int) : List Char :=
  let mantissa := match digits with
    | d :: e :: rest => d :: '.' :: e :: rest
    | ds => ds
  mantissa ++ 'e' :: (toString lead).toList

def write (l : Layout) (d : Double) : String :=
  if d.isNaN then l.nan
  else
    let body :=
      if d.isInfinite then l.infinity.toList
      else if d.isZero then ['0', '.', '0']
      else
        let s := shortest d.magnitude
        let digits := Nat.toDigits 10 s.digits
        let lead := s.exponent + digits.length - 1
        if l.plainFrom ≤ lead ∧ lead < l.plainBelow then plain digits lead
        else scientific digits lead
    String.ofList (if d.isNegative then '-' :: body else body)

end Layout

end BusCache.Decimal
