import Wayfinder.Text.Digits

/-!
# Binary floating point of 64 bits

A finite number is a sign, a significand below 2^53 and an exponent of two of at least -1074; the
significand has all its 53 bits unless the exponent is the least one.  `Binary64.ofRatio` rounds a
quotient to the nearest such number, a tie to the even significand.  `Binary64.shortest` finds the
decimal with the fewest digits that rounds back.
-/

namespace Wayfinder

/-- The number `significand * 2 ^ exponent`, or its negative. -/
structure Binary64 where
  negative : Bool
  significand : Nat
  exponent : Int
deriving DecidableEq, Repr

namespace Binary64

def leastExponent : Int := -1074
def greatestExponent : Int := 971

/-- Zero with a sign. -/
def zero (negative : Bool) : Binary64 := ⟨negative, 0, leastExponent⟩

/-! ## Exact quotients -/

/-- A quotient scaled by a power of two, as numerator and denominator. -/
def scaleTwo (num den : Nat) (e : Int) : Nat × Nat :=
  if 0 ≤ e then (num * Nat.pow 2 e.toNat, den) else (num, den * Nat.pow 2 (-e).toNat)

/-- A quotient scaled by a power of ten, as numerator and denominator. -/
def scaleTen (num den : Nat) (e : Int) : Nat × Nat :=
  if 0 ≤ e then (num * Nat.pow 10 e.toNat, den) else (num, den * Nat.pow 10 (-e).toNat)

/-- A quotient rounded to the nearest natural number, a tie to the even one. -/
def roundEven (num den : Nat) : Nat :=
  let q := num / den
  let r := num % den
  if 2 * r < den then q else if den < 2 * r then q + 1 else if q % 2 = 0 then q else q + 1

/-- The exponent at which a positive quotient has a significand of 53 bits, or the least one. -/
def exponentOf (num den : Nat) : Int :=
  let k : Int := (Nat.log2 num : Int) - Nat.log2 den
  let (n, d) := scaleTwo num den (-k)
  max leastExponent (if n < d then k - 53 else k - 52)

/-- The nearest number to a quotient, unless it is too large. -/
def ofRatio (num den : Nat) : Option Binary64 :=
  if num = 0 then some (zero false)
  else
    let e := exponentOf num den
    let (n, d) := scaleTwo num den (-e)
    let m := roundEven n d
    let (m, e) := if m = 0x20000000000000 then (0x10000000000000, e + 1) else (m, e)
    if greatestExponent < e then none else some ⟨false, m, e⟩

/-- The magnitude as a quotient. -/
def toRatio (x : Binary64) : Nat × Nat := scaleTwo x.significand 1 x.exponent

/-- The rounded product of two magnitudes. -/
def mul (x y : Binary64) : Option Binary64 :=
  ofRatio (x.toRatio.1 * y.toRatio.1) (x.toRatio.2 * y.toRatio.2)

/-- The rounded quotient of two magnitudes. -/
def div (x y : Binary64) : Option Binary64 :=
  ofRatio (x.toRatio.1 * y.toRatio.2) (x.toRatio.2 * y.toRatio.1)

/-! ## Decimals -/

/-- The nearest number to a natural number. -/
def ofNat (n : Nat) : Option Binary64 := ofRatio n 1

/-- The exponents of ten that are powers of ten of this format. -/
def greatestPower : Nat := 308

/-- The number that a decimal `m * 10 ^ e` is read as: `m`, then the power of ten, then their
product or quotient are rounded, each to the nearest.  A power of ten below the smallest is
divided out in two steps, and what is too small for two steps is zero. -/
def ofDecimal (m : Nat) (e : Int) : Option Binary64 := do
  let x ← ofNat m
  if 0 ≤ e then
    if m = 0 then some (zero false)
    else if greatestPower < e then none
    else x.mul (← ofNat (Nat.pow 10 e.toNat))
  else if -greatestPower ≤ e then x.div (← ofNat (Nat.pow 10 (-e).toNat))
  else if -2 * greatestPower ≤ e then
    let y ← x.div (← ofNat (Nat.pow 10 greatestPower))
    y.div (← ofNat (Nat.pow 10 (-e - greatestPower).toNat))
  else some (zero false)

def withSign (negative : Bool) (x : Binary64) : Binary64 := { x with negative }

/-- The reals that round to a magnitude lie between its bounds, in quarters of the last place.
The lower neighbour of a power of two is nearer than the upper one. -/
def bounds (x : Binary64) : Nat × Nat :=
  let m := 4 * x.significand
  let below := if x.significand = 0x10000000000000 ∧ leastExponent < x.exponent then 1 else 2
  (m - below, m + 2)

/-- The multiple of `10 ^ k` that is nearest to a magnitude among those that round to it. -/
def onGrid? (x : Binary64) (k : Int) : Option Nat :=
  let (a, b) := scaleTwo 1 1 (x.exponent - 2)
  let (c, d) := scaleTen 1 1 k
  let grid := c * b
  let unit := a * d
  let (low, high) := x.bounds
  let inside (n : Nat) : Bool :=
    if x.significand % 2 = 0 then low * unit ≤ n * grid && n * grid ≤ high * unit
    else low * unit < n * grid && n * grid < high * unit
  let value := 4 * x.significand * unit
  let n := value / grid
  let nearer := roundEven value grid
  if inside n && inside (n + 1) then some nearer
  else if inside n && n ≠ 0 then some n
  else if inside (n + 1) then some (n + 1)
  else none

/-- The first grid, of `steps + 1` ever finer ones from `10 ^ k` on, that has a multiple which
rounds to the magnitude, with that multiple. -/
def shortestFrom (x : Binary64) (k : Int) : (steps : Nat) → Nat × Int
  | 0 => ((x.onGrid? k).getD 0, k)
  | steps + 1 =>
    match x.onGrid? k with
    | some n => (n, k)
    | none => x.shortestFrom (k - 1) steps

/-- The digits and the power of ten of the shortest decimal that rounds to a magnitude other than
zero; of several the nearest. -/
def shortest (x : Binary64) : Nat × Int := x.shortestFrom 309 633

/-! ## Writing -/

/-- How a decimal is written: without an exponent if its point stands at most `most` places after
the first digit and at most `zeros` zeros come before the first digit. -/
structure DecimalFormat where
  most : Int
  zeros : Int
  plus : Bool

/-- Plain from `0.00001` on up to below `10 ^ 16`, with a sign before every exponent. -/
def format : DecimalFormat := ⟨16, 4, true⟩

/-- The decimal `n * 10 ^ k`, which always has a point or an exponent. -/
def writeDecimal (f : DecimalFormat) (n : Nat) (k : Int) : List Char :=
  let ds := Text.digits n
  let point : Int := ds.length + k
  if 0 ≤ k ∧ point ≤ f.most then ds ++ List.replicate k.toNat '0' ++ ['.', '0']
  else if 0 < point ∧ point ≤ f.most then
    ds.take point.toNat ++ '.' :: ds.drop point.toNat
  else if -f.zeros ≤ point ∧ point ≤ 0 then
    '0' :: '.' :: List.replicate (-point).toNat '0' ++ ds
  else
    let e := point - 1
    let sign := if e < 0 then ['-'] else if f.plus then ['+'] else []
    let fraction := if ds.length = 1 then [] else '.' :: ds.drop 1
    ds.take 1 ++ fraction ++ 'e' :: sign ++ Text.digits e.natAbs

/-- The shortest decimal text that is read as the number. -/
def write (x : Binary64) : List Char :=
  let sign := if x.negative then ['-'] else []
  if x.significand = 0 then sign ++ ['0', '.', '0']
  else
    let (n, k) := x.shortest
    sign ++ writeDecimal format n k

end Binary64

end Wayfinder
