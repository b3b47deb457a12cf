namespace QueryCatalog

/-- A finite map whose entries stand in strictly increasing key order. -/
structure KeyMap (α : Type) where
  entries : List (String × α)
  sorted : (entries.map Prod.fst).Pairwise (· < ·)

namespace KeyMap

variable {α β : Type}

def lookup (k : String) : List (String × α) → Option α
  | [] => none
  | (k', a) :: rest => if k = k' then some a else lookup k rest

def place (k : String) (a : α) : List (String × α) → List (String × α)
  | [] => [(k, a)]
  | (k', a') :: rest =>
    if k < k' then (k, a) :: (k', a') :: rest
    else if k = k' then (k, a) :: rest
    else (k', a') :: place k a rest

theorem lookup_place_self (k : String) (a : α) (l : List (String × α)) :
    lookup k (place k a l) = some a := by
  induction l with
  | nil => simp [place, lookup]
  | cons e rest ih =>
    obtain ⟨k', a'⟩ := e
    simp only [place]
    split
    · simp [lookup]
    · split
      · simp [lookup]
      · rename_i _ hne
        simp [lookup, hne, ih]

theorem lookup_place_of_ne {k k' : String} (h : k' ≠ k) (a : α) (l : List (String × α)) :
    lookup k' (place k a l) = lookup k' l := by
  induction l with
  | nil => simp [place, lookup, h]
  | cons e rest ih =>
    obtain ⟨k₁, a₁⟩ := e
    simp only [place]
    split
    · simp [lookup, h]
    · split
      · rename_i _ he
        subst he
        simp [lookup, h]
      · simp only [lookup, ih]

theorem mem_keys_place {k x : String} {a : α} {l : List (String × α)}
    (h : x ∈ (place k a l).map Prod.fst) : x = k ∨ x ∈ l.map Prod.fst := by
  induction l with
  | nil => simpa [place] using h
  | cons e rest ih =>
    obtain ⟨k₁, a₁⟩ := e
    simp only [place] at h
    split at h
    · simpa using h
    · split at h
      · rename_i _ he
        subst he
        simp only [List.map_cons, List.mem_cons] at h ⊢
        exact h.imp id Or.inr
      · simp only [List.map_cons, List.mem_cons] at h ⊢
        rcases h with h | h
        · exact Or.inr (Or.inl h)
        · exact (ih h).imp id Or.inr

theorem pairwise_place (k : String) (a : α) {l : List (String × α)}
    (hl : (l.map Prod.fst).Pairwise (· < ·)) :
    ((place k a l).map Prod.fst).Pairwise (· < ·) := by
  induction l with
  | nil => simp [place]
  | cons e rest ih =>
    obtain ⟨k₁, a₁⟩ := e
    simp only [List.map_cons, List.pairwise_cons] at hl
    simp only [place]
    split
    · rename_i hlt
      simp only [List.map_cons, List.pairwise_cons, List.mem_cons]
      refine ⟨fun x hx ↦ ?_, hl.1, hl.2⟩
      rcases hx with rfl | hx
      · exact hlt
      · exact String.lt_trans hlt (hl.1 x hx)
    · split
      · rename_i _ he
        subst he
        simpa only [List.map_cons, List.pairwise_cons] using hl
      · rename_i hlt hne
        simp only [List.map_cons, List.pairwise_cons]
        refine ⟨fun x hx ↦ ?_, ih hl.2⟩
        rcases mem_keys_place hx with rfl | hx
        · exact Std.lt_of_le_of_ne (String.not_lt.1 hlt) (Ne.symm hne)
        · exact hl.1 x hx

def empty : KeyMap α := ⟨[], .nil⟩

instance : EmptyCollection (KeyMap α) := ⟨empty⟩

instance : Inhabited (KeyMap α) := ⟨empty⟩

def get? (m : KeyMap α) (k : String) : Option α := lookup k m.entries

def contains (m : KeyMap α) (k : String) : Bool := (m.get? k).isSome

def insert (m : KeyMap α) (k : String) (a : α) : KeyMap α :=
  ⟨place k a m.entries, pairwise_place k a m.sorted⟩

/-- Adds entries from left to right, so that the last value of a key stays. -/
def insertAll (m : KeyMap α) (l : List (String × α)) : KeyMap α :=
  l.foldl (fun m e ↦ m.insert e.1 e.2) m

def ofList (l : List (String × α)) : KeyMap α := insertAll empty l

def keys (m : KeyMap α) : List String := m.entries.map Prod.fst

def size (m : KeyMap α) : Nat := m.entries.length

def map (f : String → α → β) (m : KeyMap α) : KeyMap β where
  entries := m.entries.map fun e ↦ (e.1, f e.1 e.2)
  sorted := by simpa [List.map_map, Function.comp_def] using m.sorted

def filterKeys (p : String → Bool) (m : KeyMap α) : KeyMap α where
  entries := m.entries.filter fun e ↦ p e.1
  sorted := m.sorted.sublist (List.filter_sublist.map _)

@[ext]
theorem ext {m m' : KeyMap α} (h : m.entries = m'.entries) : m = m' := by
  cases m; cases m'; simp_all

@[simp]
theorem get?_empty (k : String) : (∅ : KeyMap α).get? k = none := rfl

@[simp]
theorem get?_insert_self (m : KeyMap α) (k : String) (a : α) : (m.insert k a).get? k = some a :=
  lookup_place_self k a m.entries

theorem get?_insert_of_ne (m : KeyMap α) {k k' : String} (h : k' ≠ k) (a : α) :
    (m.insert k a).get? k' = m.get? k' :=
  lookup_place_of_ne h a m.entries

end KeyMap

end QueryCatalog
