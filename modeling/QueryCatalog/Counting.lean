namespace QueryCatalog

def total (counts : List Nat) : Nat := counts.foldr (· + ·) 0

@[simp] theorem total_nil : total [] = 0 := rfl

@[simp] theorem total_cons (n : Nat) (counts : List Nat) :
    total (n :: counts) = n + total counts := rfl

theorem total_append (counts counts' : List Nat) :
    total (counts ++ counts') = total counts + total counts' := by
  induction counts with
  | nil => simp
  | cons n counts ih => rw [List.cons_append, total_cons, total_cons, ih, Nat.add_assoc]

/-- The positions from `start` up to, and without, `stop`. -/
structure Span where
  start : Nat
  stop : Nat
  deriving DecidableEq, Repr, Inhabited

namespace Span

def length (s : Span) : Nat := s.stop - s.start

def slice {α : Type} (s : Span) (l : List α) : List α := (l.drop s.start).take s.length

end Span

end QueryCatalog

namespace QueryCatalog.Batch

/-- The size of a chunk; zero acts as one. -/
def chunkSize (batchSize : Nat) : Nat := max batchSize 1

def chunkCount (length size : Nat) : Nat := (length + size - 1) / size

def chunk (length size i : Nat) : Span := ⟨i * size, min (i * size + size) length⟩

def chunkRanges (length batchSize : Nat) : List Span :=
  let size := chunkSize batchSize
  (List.range (chunkCount length size)).map (chunk length size)

end QueryCatalog.Batch
