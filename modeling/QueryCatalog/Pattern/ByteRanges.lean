import QueryCatalog.Pattern.CharSet
import QueryCatalog.Counting

namespace QueryCatalog.Pattern

abbrev ByteRanges := List (Nat × Nat)

namespace ByteRanges

def following : Nat × Nat := (0x80, 0xBF)

/-- The sequences for the numbers from `low` to `high`, written as a first byte above `lead` and
`count` bytes of six bits behind it. -/
def ofNumbers (lead low high : Nat) : Nat → List ByteRanges
  | 0 => [[(lead + low, lead + high)]]
  | count + 1 =>
    let m := Nat.pow 64 (count + 1)
    let (a, b) := (low / m, high / m)
    let behind (digit low high : Nat) : List ByteRanges :=
      (ofNumbers 0x80 low high count).map ((lead + digit, lead + digit) :: ·)
    if a = b then behind a (low % m) (high % m)
    else
      let (first, a) := if low % m = 0 then ([], a) else (behind a (low % m) (m - 1), a + 1)
      let (last, b) := if high % m = m - 1 then ([], b + 1) else (behind b 0 (high % m), b)
      let middle :=
        if a < b then [(lead + a, lead + b - 1) :: List.replicate (count + 1) following] else []
      first ++ middle ++ last

structure Block where
  first : Nat
  last : Nat
  lead : Nat
  count : Nat

/-- All characters; between the third and the fourth block are halves of characters. -/
def blocks : List Block :=
  [⟨0, 0x7F, 0, 0⟩, ⟨0x80, 0x7FF, 0xC0, 1⟩, ⟨0x800, 0xD7FF, 0xE0, 2⟩, ⟨0xE000, 0xFFFF, 0xE0, 2⟩,
    ⟨0x10000, lastChar, 0xF0, 3⟩]

def ofRange (r : Nat × Nat) : List ByteRanges :=
  blocks.flatMap fun b ↦
    let low := max b.first r.1
    let high := min b.last r.2
    if low ≤ high then ofNumbers b.lead low high b.count else []

def behindFirst : List ByteRanges → List ((Nat × Nat) × List ByteRanges)
  | [] => []
  | [] :: rest => behindFirst rest
  | (r :: s) :: rest =>
    match behindFirst rest with
    | (r', l) :: more => if r = r' then (r, s :: l) :: more else (r, [s]) :: (r', l) :: more
    | [] => [(r, [s])]

def beginnings : Nat → List ByteRanges → Nat
  | 0, _ => 0
  | n + 1, l => total ((behindFirst l).map fun e ↦ 1 + beginnings n e.2)

/-- What may be left of sequences of at most so many ranges while they are read. -/
def rests : Nat → List ByteRanges → List (List ByteRanges)
  | 0, _ => []
  | n + 1, l =>
    match behindFirst l with
    | [] => []
    | next => l :: next.flatMap fun e ↦ rests n e.2

end ByteRanges

end QueryCatalog.Pattern
