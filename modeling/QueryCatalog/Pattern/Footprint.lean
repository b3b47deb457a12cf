import QueryCatalog.Pattern.ByteRanges
import QueryCatalog.Pattern.Regex

namespace QueryCatalog.Pattern

/-- The memory of both automata, in bytes. -/
structure Footprint where
  forward : Nat
  backward : Nat
  deriving DecidableEq, Repr

namespace Footprint

instance : Add Footprint := ⟨fun a b ↦ ⟨a.forward + b.forward, a.backward + b.backward⟩⟩

def both (n : Nat) : Footprint := ⟨n, n⟩

def state : Nat := 32

def fork (count : Nat) : Nat := state + 4 * count

def step (count : Nat) : Nat := state + 8 * count

def times (n : Nat) (a : Footprint) : Footprint := ⟨n * a.forward, n * a.backward⟩

/-- Sequences of ranges of bytes. Forward what is left of them alike is shared, backward the
beginnings are. -/
def ofSequences (l : List ByteRanges) : Footprint :=
  let nodes := (ByteRanges.rests 4 l).eraseDups
  ⟨state + total (nodes.map fun n ↦ step (ByteRanges.behindFirst n).length),
    fork l.length + state + state * ByteRanges.beginnings 4 l⟩

def ofClass (c : CharClass) : Footprint :=
  let sequences := c.ranges.flatMap ByteRanges.ofRange
  match c.ranges with
  | [(low, high)] =>
    if low = high then both (state * total (sequences.map List.length)) else ofRanges sequences
  | _ => ofRanges sequences
where
  ofRanges (l : List ByteRanges) : Footprint :=
    if c.ranges.all fun r ↦ r.2 < 128 then both (state + step c.ranges.length) else ofSequences l

def segments : List (List Nat) → List (List (List Nat))
  | [] => [[]]
  | t :: rest =>
    match segments rest with
    | [] => [[t]]
    | s :: more => if t.isEmpty then [] :: s :: more else (t :: s) :: more

def children (l : List (List Nat)) : List (List (List Nat)) :=
  let heads := (l.filterMap List.head?).eraseDups
  heads.map fun h ↦ (l.filter fun t ↦ t.head? = some h).map List.tail

/-- A tree of texts of at most so many bytes that share their beginnings. A text that ends inside of
the tree is preferred to the longer ones after it. -/
def tree : Nat → List (List Nat) → Nat
  | 0, _ => 0
  | n + 1, l =>
    let all := segments l
    let parts := (all.filter (!·.isEmpty)).map children
    if parts.isEmpty then 0
    else
      total (parts.map fun p ↦ if p.length = 1 then state else step p.length) +
        fork (parts.length + (all.length - 1)) + total (parts.flatten.map (tree n))

def ofTexts (l : List (List Nat)) : Footprint :=
  let most := (l.map List.length).foldl max 0
  both state + ⟨tree (most + 1) l, tree (most + 1) (l.map List.reverse)⟩

end Footprint

namespace Regex

def matchesOnlyEmpty : Regex → Bool
  | empty => true
  | chars _ => false
  | anchor _ => true
  | seq r s => r.matchesOnlyEmpty && s.matchesOnlyEmpty
  | alt r s => r.matchesOnlyEmpty && s.matchesOnlyEmpty
  | repeated r _ _ => r.matchesOnlyEmpty
  | group r => r.matchesOnlyEmpty

def consumes : Regex → Bool
  | empty => false
  | chars c => !c.ranges.isEmpty
  | anchor _ => false
  | seq r s => r.consumes || s.consumes
  | alt r s => r.consumes && s.consumes
  | repeated r least _ => 0 < least && r.consumes
  | group r => r.consumes

def charsOnly? : Regex → Option CharClass
  | chars c => some c
  | alt r s => do return (← r.charsOnly?).union (← s.charsOnly?)
  | _ => none

def text? : Regex → Option (List Nat)
  | chars c =>
    match c.ranges with
    | [(low, high)] =>
      if low = high then
        some ((ByteRanges.ofRange (low, low)).flatMap fun s ↦ s.map Prod.fst)
      else none
    | _ => none
  | seq r s => do return (← r.text?) ++ (← s.text?)
  | _ => none

def texts? : Regex → Option (List (List Nat))
  | alt r s => do return (← r.texts?) ++ (← s.texts?)
  | r => r.text?.map ([·])

def branches : Regex → Nat
  | alt r s => r.branches + s.branches
  | _ => 1

/-- The bounds of a repetition. An expression without characters need not be repeated. -/
def bounds (r : Regex) (least : Nat) (most? : Option Nat) : Nat × Option Nat :=
  if r.matchesOnlyEmpty then (min least 1, some (min 1 (most?.getD 1))) else (least, most?)

open Footprint in
def repetitionFootprint (r : Regex) (f : Footprint) : Nat → Option Nat → Footprint
  | 0, some 1 => f + both (fork 2 + state)
  | 0, none => if r.consumes then f + both (fork 2) else f + both (2 * fork 2 + state)
  | least, none => f.times least + both (fork 2)
  | least, some most =>
    let due := if least = 0 then both state else f.times least
    if least = most then due else due + both state + (f + both (fork 2)).times (most - least)

open Footprint in
/-- The footprint of an expression. What joins the branches of a choice comes last, since a choice
inside of a choice only adds branches to it. -/
def footprint (r : Regex) : Footprint := whole r (go r)
where
  whole (r : Regex) (f : Footprint) : Footprint :=
    if r.branches = 1 ∨ r.charsOnly?.isSome then f
    else
      match r.texts? with
      | some l => ofTexts l
      | none => f + both (fork r.branches + state)
  go : Regex → Footprint
    | empty => both state
    | chars c => ofClass c
    | anchor _ => both state
    | seq r s => whole r (go r) + whole s (go s)
    | alt r s =>
      match (alt r s).charsOnly? with
      | some c => ofClass c
      | none => go r + go s
    | repeated r least most? =>
      let (least, most?) := r.bounds least most?
      repetitionFootprint r (whole r (go r)) least most?
    | group r => whole r (go r) + ⟨2 * state, 0⟩

open Footprint in
def searchFootprint (r : Regex) : Footprint :=
  (group r).footprint + both (fork 2 + state + step 1 + state)

def memoryLimit : Nat := 10 * Nat.pow 2 20

def fits (r : Regex) : Bool :=
  r.searchFootprint.forward ≤ memoryLimit && r.searchFootprint.backward ≤ memoryLimit

end Regex

end QueryCatalog.Pattern
