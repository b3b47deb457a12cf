namespace QueryCatalog

/-- At most `capacity` entries with different keys, the one used last in front. -/
structure RecencyMap (κ α : Type) (capacity : Nat) where
  entries : List (κ × α)
  nodup : (entries.map Prod.fst).Nodup
  bounded : entries.length ≤ capacity

namespace RecencyMap

variable {κ α : Type} {capacity : Nat}

def empty : RecencyMap κ α capacity := ⟨[], .nil, Nat.zero_le _⟩

instance : Inhabited (RecencyMap κ α capacity) := ⟨empty⟩

def size (m : RecencyMap κ α capacity) : Nat := m.entries.length

def keys (m : RecencyMap κ α capacity) : List κ := m.entries.map Prod.fst

variable [DecidableEq κ]

def others (k : κ) (l : List (κ × α)) : List (κ × α) := l.filter fun e ↦ e.1 ≠ k

theorem nodup_cons_others (k : κ) (a : α) {l : List (κ × α)} (h : (l.map Prod.fst).Nodup) :
    (((k, a) :: others k l).map Prod.fst).Nodup := by
  simp only [List.map_cons, List.nodup_cons, List.mem_map, others, List.mem_filter]
  refine ⟨?_, h.sublist (List.filter_sublist.map _)⟩
  rintro ⟨e, ⟨_, he⟩, rfl⟩
  simp at he

theorem length_cons_others_le {k : κ} {a : α} {l : List (κ × α)} (h : (k, a) ∈ l) :
    ((k, a) :: others k l).length ≤ l.length := by
  have : (others k l).length < l.length := by
    apply List.length_filter_lt_length_iff_exists.2
    exact ⟨(k, a), h, by simp⟩
  exact this

def peek? (m : RecencyMap κ α capacity) (k : κ) : Option α :=
  (m.entries.find? fun e ↦ e.1 = k).map Prod.snd

def touch (m : RecencyMap κ α capacity) (k : κ) : RecencyMap κ α capacity :=
  match h : m.entries.find? fun e ↦ e.1 = k with
  | none => m
  | some e =>
    ⟨(k, e.2) :: others k m.entries, nodup_cons_others k e.2 m.nodup, by
      have hk : e.1 = k := by simpa using List.find?_some h
      have he : (k, e.2) ∈ m.entries := by
        rw [← hk]; exact List.mem_of_find?_eq_some h
      exact Nat.le_trans (length_cons_others_le he) m.bounded⟩

def get? (m : RecencyMap κ α capacity) (k : κ) : Option α × RecencyMap κ α capacity :=
  (m.peek? k, m.touch k)

/-- All entries after an insertion, one of them possibly too many. -/
def inserted (m : RecencyMap κ α capacity) (k : κ) (a : α) : List (κ × α) :=
  (k, a) :: others k m.entries

def insert (m : RecencyMap κ α capacity) (k : κ) (a : α) : RecencyMap κ α capacity where
  entries := (m.inserted k a).take capacity
  nodup := (nodup_cons_others k a m.nodup).sublist ((List.take_sublist _ _).map _)
  bounded := by simp only [List.length_take]; omega

def evicted? (m : RecencyMap κ α capacity) (k : κ) (a : α) : Option (κ × α) :=
  ((m.inserted k a).drop capacity).head?

def erase (m : RecencyMap κ α capacity) (k : κ) : RecencyMap κ α capacity where
  entries := others k m.entries
  nodup := m.nodup.sublist (List.filter_sublist.map _)
  bounded := Nat.le_trans (List.length_filter_le _ _) m.bounded

end RecencyMap

end QueryCatalog
