import QueryCatalog.Pattern.CharSet
import QueryCatalog.Pattern.FoldTable

namespace QueryCatalog.Pattern

structure CharClass where
  ranges : Ranges
  deriving DecidableEq, Hashable, Repr

def FoldRun.pairs (r : FoldRun) : List (Nat × Nat) :=
  (List.range ((r.last - r.first) / r.step + 1)).map fun i ↦
    let n := r.first + i * r.step
    (n, ((n : Int) + r.shift).toNat)

def foldPairs : List (Nat × Nat) := foldRuns.flatMap FoldRun.pairs

def asciiFoldPairs : List (Nat × Nat) := (List.range 26).map fun i ↦ (65 + i, 97 + i)

namespace CharClass

def contains (a : CharClass) (c : Char) : Bool := a.ranges.contains c.toNat

def ofSet (s : CharSet) : CharClass := ⟨s.toRanges⟩

def range (low high : Nat) : CharClass := ⟨[(low, high)]⟩

def single (c : Char) : CharClass := range c.toNat c.toNat

def all : CharClass := range 0 lastChar

def ascii : CharClass := range 0 127

def unions (l : List CharClass) : CharClass := ⟨.plain (l.flatMap ranges)⟩

def union (a b : CharClass) : CharClass := ⟨a.ranges.union b.ranges⟩

def inter (a b : CharClass) : CharClass := ⟨a.ranges.inter b.ranges⟩

def diff (a b : CharClass) : CharClass := ⟨a.ranges.diff b.ranges⟩

def symmDiff (a b : CharClass) : CharClass := ⟨a.ranges.symmDiff b.ranges⟩

def complement (a : CharClass) : CharClass := ⟨a.ranges.complement⟩

/-- Adds what characters of the set fold to, and then all that folds to one of the set. -/
def foldBy (pairs : List (Nat × Nat)) (a : CharClass) : CharClass :=
  let images := pairs.filter fun p ↦ a.ranges.contains p.1
  let b := a.ranges.union (images.map fun p ↦ (p.2, p.2))
  let preimages := pairs.filter fun p ↦ b.contains p.2
  ⟨b.union (preimages.map fun p ↦ (p.1, p.1))⟩

/-- The set and all characters that fold to the same character as one of it. -/
def fold (a : CharClass) : CharClass := a.foldBy foldPairs

def foldAscii (a : CharClass) : CharClass := a.foldBy asciiFoldPairs

end CharClass

end QueryCatalog.Pattern
