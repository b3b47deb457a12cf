namespace QueryCatalog

structure Binary64 where
  bits : UInt64
  deriving DecidableEq, Repr, Inhabited

namespace Binary64

def isNegative (x : Binary64) : Bool := x.bits.toNat / Nat.pow 2 63 == 1

def exponentField (x : Binary64) : Nat := x.bits.toNat / Nat.pow 2 52 % Nat.pow 2 11

def fraction (x : Binary64) : Nat := x.bits.toNat % Nat.pow 2 52

def isNaN (x : Binary64) : Bool := x.exponentField == 2047 && x.fraction != 0

def isInfinite (x : Binary64) : Bool := x.exponentField == 2047 && x.fraction == 0

def isFinite (x : Binary64) : Bool := x.exponentField != 2047

def isZero (x : Binary64) : Bool := x.exponentField == 0 && x.fraction == 0

/-- The whole number `m` of a finite number of size `m * 2 ^ e`. -/
def significand (x : Binary64) : Nat :=
  if x.exponentField = 0 then x.fraction else Nat.pow 2 52 + x.fraction

def exponent (x : Binary64) : Int :=
  if x.exponentField = 0 then -1074 else x.exponentField - 1075

def ratio (x : Binary64) : Nat × Nat :=
  (x.significand * Nat.pow 2 x.exponent.toNat, Nat.pow 2 (-x.exponent).toNat)

def nan : Binary64 := ⟨0x7ff8000000000000⟩

def infinity : Binary64 := ⟨0x7ff0000000000000⟩

def neg (x : Binary64) : Binary64 := ⟨x.bits ^^^ 0x8000000000000000⟩

/-- Equality of numbers: zero equals its negative, and what is not a number equals nothing. -/
def numEq (x y : Binary64) : Bool :=
  !x.isNaN && !y.isNaN && (x.bits == y.bits || (x.isZero && y.isZero))

def roundDiv (num den : Nat) : Nat :=
  let q := num / den
  let r := num % den
  if 2 * r < den then q
  else if den < 2 * r then q + 1
  else if q % 2 = 0 then q else q + 1

/-- The number nearest to the ratio `num / den`. Sizes beyond the largest number are infinite. -/
def ofRatio (num den : Nat) : Binary64 :=
  if num = 0 then ⟨0⟩
  else
    let guess : Int := (num.log2 : Int) - den.log2 - 52
    let e := max guess (-1074)
    let n := num * Nat.pow 2 (-e).toNat
    let d := den * Nat.pow 2 e.toNat
    -- one step down where the quotient has too few digits
    let (e, n) := if n / d < Nat.pow 2 52 ∧ -1074 < e then (e - 1, 2 * n) else (e, n)
    let bits := (e + 1074).toNat * Nat.pow 2 52 + roundDiv n d
    if bits < 0x7ff0000000000000 then ⟨bits.toUInt64⟩ else infinity

def ofNat (n : Nat) : Binary64 := ofRatio n 1

def tenPow (n : Nat) : Binary64 := ofNat (Nat.pow 10 n)

def mul (x y : Binary64) : Binary64 :=
  ofRatio (x.ratio.1 * y.ratio.1) (x.ratio.2 * y.ratio.2)

def div (x y : Binary64) : Binary64 :=
  ofRatio (x.ratio.1 * y.ratio.2) (x.ratio.2 * y.ratio.1)

end Binary64

end QueryCatalog
