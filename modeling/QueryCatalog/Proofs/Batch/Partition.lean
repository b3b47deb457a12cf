import Mathlib.Algebra.Order.Floor.Div
import QueryCatalog.Proofs.Batch.Report

namespace QueryCatalog

def Span.positions (s : Span) : List Nat := List.range' s.start s.length

/-- Spans that are not empty and lead from one position to another without gap or overlap. -/
inductive Span.Consecutive : Nat → List Span → Nat → Prop
  | nil (a : Nat) : Consecutive a [] a
  | cons {a b : Nat} {s : Span} {spans : List Span} (hstart : s.start = a) (hne : s.start < s.stop)
      (h : Consecutive s.stop spans b) : Consecutive a (s :: spans) b

namespace Span.Consecutive

variable {a b : Nat} {spans : List Span}

theorem le (h : Consecutive a spans b) : a ≤ b := by
  induction h with
  | nil => exact le_rfl
  | cons hstart hne _ ih => exact hstart ▸ hne.le.trans ih

theorem positions_eq (h : Consecutive a spans b) :
    spans.flatMap positions = List.range' a (b - a) := by
  induction h with
  | nil a => rw [Nat.sub_self]; rfl
  | @cons a b s spans hstart hne h ih =>
    have hsplit : a + 1 * s.length = s.stop := by
      rw [Span.length, ← hstart]
      omega
    have hlength : s.length + (b - s.stop) = b - a := by
      have hle := h.le
      rw [Span.length, ← hstart]
      omega
    rw [List.flatMap_cons, ih, positions, hstart, ← hlength, ← List.range'_append, hsplit]

end Span.Consecutive

namespace Batch

section Words

variable {a b c : UInt64}

theorem toNat_max (a b : UInt64) : (max a b).toNat = max a.toNat b.toNat := by
  show (if a ≤ b then b else a).toNat = max a.toNat b.toNat
  split
  · rename_i hle
    exact (max_eq_right (UInt64.le_iff_toNat_le.mp hle)).symm
  · rename_i hle
    exact (max_eq_left (Nat.le_of_not_le (mt UInt64.le_iff_toNat_le.mpr hle))).symm

theorem toNat_min (a b : UInt64) : (min a b).toNat = min a.toNat b.toNat := by
  show (if a ≤ b then a else b).toNat = min a.toNat b.toNat
  split
  · rename_i hle
    exact (min_eq_left (UInt64.le_iff_toNat_le.mp hle)).symm
  · rename_i hle
    exact (min_eq_right (Nat.le_of_not_le (mt UInt64.le_iff_toNat_le.mpr hle))).symm

def addWords? (a b : UInt64) : Option UInt64 :=
  if a.toNat + b.toNat < 2 ^ 64 then some (a + b) else none

theorem toNat_of_addWords? (h : addWords? a b = some c) : c.toNat = a.toNat + b.toNat := by
  unfold addWords? at h
  split at h
  · rename_i hlt
    cases h
    rw [UInt64.toNat_add, Nat.mod_eq_of_lt hlt]
  · cases h

end Words

/-- The chunks from a position on, with words for all numbers. The end of a chunk and the start of
the next come from one sum; there is no answer if it is not a word. -/
def wordChunksFrom (length size : UInt64) (hsize : 0 < size) (start : UInt64) :
    Option (List Span) :=
  if start < length then
    match _hnext : addWords? start size with
    | none => none
    | some next =>
      (wordChunksFrom length size hsize next).map (⟨start.toNat, (min next length).toNat⟩ :: ·)
  else some []
termination_by length.toNat - start.toNat
decreasing_by
  rename_i hlt
  have hnext := toNat_of_addWords? _hnext
  rw [UInt64.lt_iff_toNat_lt] at hlt hsize
  have hzero : (0 : UInt64).toNat = 0 := rfl
  omega

section Words

variable {length size start next : UInt64} {hsize : 0 < size}

theorem wordChunksFrom_of_le (h : length.toNat ≤ start.toNat) :
    wordChunksFrom length size hsize start = some [] := by
  rw [wordChunksFrom, if_neg fun hlt ↦ h.not_gt (UInt64.lt_iff_toNat_lt.mp hlt)]

theorem wordChunksFrom_of_lt (h : start.toNat < length.toNat)
    (hnext : addWords? start size = some next) :
    wordChunksFrom length size hsize start = (wordChunksFrom length size hsize next).map
      (⟨start.toNat, min next.toNat length.toNat⟩ :: ·) := by
  rw [wordChunksFrom, if_pos (UInt64.lt_iff_toNat_lt.mpr h)]
  split
  · rename_i hnone
    cases hnext.symm.trans hnone
  · rename_i hsome
    cases hnext.symm.trans hsome
    rw [toNat_min]

end Words

theorem toNat_chunkSize (batchSize : UInt64) :
    (max batchSize 1).toNat = chunkSize batchSize.toNat := toNat_max batchSize 1

theorem chunkSize_pos (batchSize : Nat) : 0 < chunkSize batchSize := Nat.le_max_right batchSize 1

theorem max_one_pos (batchSize : UInt64) : 0 < max batchSize 1 := by
  rw [UInt64.lt_iff_toNat_lt, toNat_chunkSize]
  exact chunkSize_pos batchSize.toNat

def wordChunks (length batchSize : UInt64) : Option (List Span) :=
  wordChunksFrom length (max batchSize 1) (max_one_pos batchSize) 0

/-- The spans cut `n` units into parts of one size, of which only the last may be shorter. -/
structure Partition (n size : Nat) (spans : List Span) : Prop where
  consecutive : Span.Consecutive 0 spans n
  cover : spans.flatMap Span.positions = List.range n
  start : ∀ i s, spans[i]? = some s → s.start = i * size
  full : ∀ i s, spans[i]? = some s → i + 1 < spans.length → s.length = size
  le : ∀ s ∈ spans, s.length ≤ size
  count : spans.length = n ⌈/⌉ size

section Chunks

variable {n size k m : Nat}

theorem chunkRanges_eq (n batchSize : Nat) : chunkRanges n batchSize =
    (List.range' 0 (chunkCount n (chunkSize batchSize))).map (chunk n (chunkSize batchSize)) := by
  rw [chunkRanges, List.range_eq_range']

/-- A chunk behind the first starts where a whole chunk ends, so that its size is at most its
start. -/
theorem chunk_end_lt (hn : n < 2 ^ 63) (hsize : size < 2 ^ 64) (hk : k * size < n) :
    k * size + size < 2 ^ 64 := by
  cases k with
  | zero => omega
  | succ k =>
    have hle : size ≤ (k + 1) * size := Nat.le_mul_of_pos_left size (Nat.succ_pos k)
    omega

theorem wordChunksFrom_eq {length size start : UInt64} {hsize : 0 < size}
    (hlength : length.toNat < 2 ^ 63) (hcount : k + m = chunkCount length.toNat size.toNat)
    (hstart : start.toNat = k * size.toNat) :
    wordChunksFrom length size hsize start =
      some ((List.range' k m).map (chunk length.toNat size.toNat)) := by
  have hpos : 0 < size.toNat := UInt64.lt_iff_toNat_lt.mp hsize
  induction m generalizing k start with
  | zero =>
    have hall := le_chunkCount_mul hpos length.toNat
    rw [← hcount, Nat.add_zero, ← hstart] at hall
    rw [wordChunksFrom_of_le hall]
    rfl
  | succ m ih =>
    have hk := mul_lt_of_lt_chunkCount (n := length.toNat) hpos (k := k) (by omega)
    have hsum : addWords? start size = some (start + size) := by
      rw [addWords?, hstart, if_pos (chunk_end_lt hlength size.toNat_lt hk)]
    have hnext : (start + size).toNat = (k + 1) * size.toNat := by
      rw [toNat_of_addWords? hsum, hstart, Nat.succ_mul]
    rw [wordChunksFrom_of_lt (hstart ▸ hk) hsum, ih (by omega) hnext, Option.map_some,
      List.range'_succ, List.map_cons, chunk_eq, hstart, hnext]

theorem consecutive_chunks (hsize : 0 < size) (hcount : k + m = chunkCount n size) :
    Span.Consecutive (min (k * size) n) ((List.range' k m).map (chunk n size)) n := by
  induction m generalizing k with
  | zero =>
    have hall := le_chunkCount_mul hsize n
    rw [← hcount, Nat.add_zero] at hall
    rw [min_eq_right hall]
    exact .nil n
  | succ m ih =>
    have hk := mul_lt_of_lt_chunkCount (n := n) hsize (k := k) (by omega)
    rw [min_eq_left hk.le, List.range'_succ, List.map_cons, chunk_eq]
    refine .cons rfl (lt_min ?_ hk) (ih (by omega))
    exact Nat.mul_lt_mul_of_pos_right k.lt_succ_self hsize

theorem length_chunk (hsize : 0 < size) (hk : k + 1 < chunkCount n size) :
    (chunk n size k).length = size := by
  have hnext := mul_lt_of_lt_chunkCount hsize hk
  rw [Nat.succ_mul] at hnext
  rw [Span.length, chunk]
  dsimp only
  omega

theorem length_chunk_le (n size k : Nat) : (chunk n size k).length ≤ size := by
  rw [Span.length, chunk]
  dsimp only
  omega

theorem length_chunkRanges (n batchSize : Nat) :
    (chunkRanges n batchSize).length = chunkCount n (chunkSize batchSize) := by
  rw [chunkRanges, List.length_map, List.length_range]

theorem eq_chunk_of_getElem? {i batchSize : Nat} {s : Span}
    (h : (chunkRanges n batchSize)[i]? = some s) : s = chunk n (chunkSize batchSize) i := by
  rw [chunkRanges, List.getElem?_map] at h
  obtain ⟨j, hj, rfl⟩ := Option.map_eq_some_iff.mp h
  obtain ⟨-, rfl⟩ := List.getElem?_eq_some_iff.mp hj
  rw [List.getElem_range]

theorem partition_chunkRanges (n batchSize : Nat) :
    Partition n (chunkSize batchSize) (chunkRanges n batchSize) := by
  have hsize := chunkSize_pos batchSize
  have hconsecutive := consecutive_chunks hsize (Nat.zero_add (chunkCount n (chunkSize batchSize)))
  rw [Nat.zero_mul, Nat.zero_min, ← chunkRanges_eq] at hconsecutive
  refine ⟨hconsecutive, ?_, ?_, ?_, ?_, ?_⟩
  · rw [hconsecutive.positions_eq, Nat.sub_zero, List.range_eq_range']
  · intro i s hs
    rw [eq_chunk_of_getElem? hs, chunk]
  · intro i s hs hi
    rw [length_chunkRanges] at hi
    rw [eq_chunk_of_getElem? hs, length_chunk hsize hi]
  · intro s hs
    obtain ⟨k, -, rfl⟩ := List.mem_map.mp hs
    exact length_chunk_le ..
  · rw [length_chunkRanges, chunkCount, Nat.ceilDiv_eq_add_pred_div]

end Chunks

/-- On words of 64 bits no end of a chunk overflows, and the chunks are a partition. -/
theorem chunks_partition (length batchSize : UInt64) (hlength : length.toNat < 2 ^ 63) :
    wordChunks length batchSize = some (chunkRanges length.toNat batchSize.toNat) ∧
      Partition length.toNat (max batchSize.toNat 1)
        (chunkRanges length.toNat batchSize.toNat) := by
  refine ⟨?_, partition_chunkRanges ..⟩
  rw [wordChunks, chunkRanges_eq, ← toNat_chunkSize]
  exact wordChunksFrom_eq hlength (Nat.zero_add _) (Nat.zero_mul _).symm

theorem longest_list_in_two_chunks :
    (9223372036854775807 : UInt64).toNat < 2 ^ 63 ∧
      wordChunks 9223372036854775807 9223372036854775806 =
        some [⟨0, 9223372036854775806⟩, ⟨9223372036854775806, 9223372036854775807⟩] := by
  have hlength : (9223372036854775807 : UInt64).toNat < 2 ^ 63 := by decide
  refine ⟨hlength, (chunks_partition _ _ hlength).1.trans ?_⟩
  decide

/-- A list longer than that can have a chunk whose end is no word. -/
example : wordChunks 18446744073709551615 9223372036854775809 = none := by cbv

end Batch

end QueryCatalog
