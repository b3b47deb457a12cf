import QueryCatalog.Binary64.Basic

namespace QueryCatalog.Binary64

inductive Tie
  | toEven
  | up
  deriving DecidableEq, Repr

structure Decimal where
  digits : Nat
  exponent : Int
  deriving DecidableEq, Repr

def digitCount (n : Nat) : Nat := (Nat.toDigits 10 n).length

def leadingExponent (num den : Nat) : Int :=
  let guess : Int := (digitCount num : Int) - digitCount den
  if den * Nat.pow 10 guess.toNat ≤ num * Nat.pow 10 (-guess).toNat then guess else guess - 1

/-- The interval of what rounds to a finite number, in quarters of its last place. -/
structure RoundingInterval where
  low : Nat
  high : Nat
  closed : Bool

def roundingInterval (x : Binary64) : RoundingInterval where
  low := if x.fraction = 0 ∧ 1 < x.exponentField then 4 * x.significand - 1
    else 4 * x.significand - 2
  high := 4 * x.significand + 2
  closed := x.significand % 2 == 0

namespace RoundingInterval

def above (i : RoundingInterval) (num den : Nat) : Bool :=
  if i.closed then i.low * den ≤ num else i.low * den < num

def below (i : RoundingInterval) (num den : Nat) : Bool :=
  if i.closed then num ≤ i.high * den else num < i.high * den

end RoundingInterval

/-- The neighbour of `x` on the grid of the multiples of `10 ^ k` that rounds to `x`. -/
def onGrid? (tie : Tie) (x : Binary64) (k : Int) : Option Decimal :=
  -- one quarter of the last place is `2 ^ e`; one step of the grid is `step / unit` of it
  let e := x.exponent - 2
  let step := Nat.pow 10 k.toNat * Nat.pow 2 (-e).toNat
  let unit := Nat.pow 10 (-k).toNat * Nat.pow 2 e.toNat
  let num := 4 * x.significand * unit
  let a := num / step
  let r := num % step
  let i := x.roundingInterval
  let down := a ≠ 0 && i.above (a * step) unit
  let up := i.below ((a + 1) * step) unit
  if down && up then
    let takeUp := step < 2 * r || (2 * r == step && (tie == .up || a % 2 == 1))
    some ⟨if takeUp then a + 1 else a, k⟩
  else if down then some ⟨a, k⟩
  else if up then some ⟨a + 1, k⟩
  else none

def stripZeros : Nat → Decimal → Decimal
  | 0, d => d
  | fuel + 1, d =>
    if d.digits ≠ 0 ∧ d.digits % 10 = 0 then stripZeros fuel ⟨d.digits / 10, d.exponent + 1⟩
    else d

/-- Tries the grids of `n`, `n + 1`, … digits; seventeen digits tell all numbers apart. -/
def searchGrids (tie : Tie) (x : Binary64) (lead : Int) : Nat → Nat → Decimal
  | 0, _ => ⟨x.significand, x.exponent⟩
  | fuel + 1, n =>
    match onGrid? tie x (lead - n + 1) with
    | some d => d
    | none => searchGrids tie x lead fuel (n + 1)

def shortest (tie : Tie) (x : Binary64) : Decimal :=
  if x.isZero then ⟨0, 0⟩
  else
    let lead := leadingExponent x.ratio.1 x.ratio.2
    stripZeros 20 (searchGrids tie x lead 17 1)

structure Layout where
  tie : Tie
  /-- Whether the number whose point stands behind so many digits is written without exponent. -/
  positional : Int → Bool
  wholeEnd : String

def zeros (n : Nat) : String := String.ofList (List.replicate n '0')

/-- The digits with a point behind the first `place` of them, and zeros where digits lack. -/
def writePositional (wholeEnd digits : String) (place : Int) : String :=
  if place ≤ 0 then "0." ++ zeros (-place).toNat ++ digits
  else if (digits.length : Int) ≤ place then
    digits ++ zeros (place - digits.length).toNat ++ wholeEnd
  else
    let n := place.toNat
    String.ofList (digits.toList.take n) ++ "." ++ String.ofList (digits.toList.drop n)

def writeScientific (digits : String) (exponent : Int) : String :=
  let rest := String.ofList (digits.toList.drop 1)
  let sign := if exponent < 0 then "-" else "+"
  String.ofList (digits.toList.take 1) ++ (if rest.isEmpty then "" else "." ++ rest) ++ "e" ++
    sign ++ Nat.repr exponent.natAbs

def write (layout : Layout) (x : Binary64) : String :=
  let sign := if x.isNegative then "-" else ""
  let d := x.shortest layout.tie
  let digits := Nat.repr d.digits
  let place := d.exponent + digits.length
  if x.isZero then sign ++ "0" ++ layout.wholeEnd
  else if layout.positional place then sign ++ writePositional layout.wholeEnd digits place
  else sign ++ writeScientific digits (place - 1)

end QueryCatalog.Binary64
