namespace QueryCatalog.Pattern

/-- Ranges of numbers, with both ends. In their plain form they are in order and do not touch. -/
abbrev Ranges := List (Nat × Nat)

def lastChar : Nat := 0x10FFFF

namespace Ranges

def contains (l : Ranges) (n : Nat) : Bool := l.any fun r ↦ r.1 ≤ n && n ≤ r.2

/-- Adds a range to ranges in plain form, from the last to the first, none of which begins behind
it. -/
def push (l : Ranges) (r : Nat × Nat) : Ranges :=
  match l with
  | [] => [r]
  | s :: rest => if r.1 ≤ s.2 + 1 then (s.1, max s.2 r.2) :: rest else r :: s :: rest

def plain (l : Ranges) : Ranges := ((l.mergeSort fun a b ↦ a.1 ≤ b.1).foldl push []).reverse

def union (a b : Ranges) : Ranges := plain (a ++ b)

/-- What lies from `start` on between ranges in plain form, and behind them. -/
def gaps (start : Nat) : Ranges → Ranges
  | [] => if start ≤ lastChar then [(start, lastChar)] else []
  | r :: rest =>
    let behind := gaps (r.2 + 1) rest
    if start < r.1 then (start, r.1 - 1) :: behind else behind

def complement (a : Ranges) : Ranges := gaps 0 a

def inter (a b : Ranges) : Ranges := complement (union (complement a) (complement b))

def diff (a b : Ranges) : Ranges := complement (union (complement a) b)

def symmDiff (a b : Ranges) : Ranges := union (diff a b) (diff b a)

end Ranges

/-- The characters `first`, `first + step`, … up to `last`. -/
structure CharRun where
  first : Nat
  last : Nat
  step : Nat
  deriving DecidableEq, Repr

inductive CharSet
  | runs (l : List CharRun)
  | ranges (l : Ranges)
  | union (a b : CharSet)
  | diff (a b : CharSet)

namespace CharRun

def contains (r : CharRun) (n : Nat) : Bool :=
  r.first ≤ n && n ≤ r.last && (n - r.first) % r.step == 0

def toRanges (r : CharRun) : Ranges :=
  if r.step = 1 then [(r.first, r.last)]
  else (List.range ((r.last - r.first) / r.step + 1)).map fun i ↦
    (r.first + i * r.step, r.first + i * r.step)

end CharRun

namespace CharSet

def contains : CharSet → Nat → Bool
  | runs l, n => l.any (·.contains n)
  | ranges l, n => l.contains n
  | union a b, n => a.contains n || b.contains n
  | diff a b, n => !b.contains n && a.contains n

def toRanges : CharSet → Ranges
  | runs l => .plain (l.flatMap CharRun.toRanges)
  | ranges l => l.plain
  | union a b => a.toRanges.union b.toRanges
  | diff a b => a.toRanges.diff b.toRanges

def empty : CharSet := ranges []

def all : CharSet := ranges [(0, lastChar)]

def ascii : CharSet := ranges [(0, 127)]

def ofNumbers (l : List Nat) : CharSet := ranges (l.map fun n ↦ (n, n))

def single (c : Char) : CharSet := ofNumbers [c.toNat]

def unions (l : List CharSet) : CharSet :=
  match l with
  | [] => empty
  | a :: rest => rest.foldl union a

end CharSet

def decidedBy {α : Type} [DecidableEq α] (rules : List (α × CharSet)) (a : α) : CharSet :=
  rules.foldr (fun rule behind ↦
    if rule.1 = a then .union rule.2 behind else .diff behind rule.2) .empty

end QueryCatalog.Pattern
