import Mathlib.Data.List.Nodup
import QueryCatalog.Recency

namespace QueryCatalog

namespace RecencyMap

variable {κ α : Type} {capacity : Nat}

theorem eq_of_mem_entries {m : RecencyMap κ α capacity} {k : κ} {a b : α}
    (ha : (k, a) ∈ m.entries) (hb : (k, b) ∈ m.entries) : a = b :=
  (Prod.mk.inj (List.inj_on_of_nodup_map m.nodup ha hb rfl)).2

theorem drop_cases {β : Type} {l : List β} {n : Nat} (hlength : l.length ≤ n + 1) :
    (l.drop n = [] ∧ l.take n = l) ∨ ∃ x, l.drop n = [x] ∧ l.take n ++ [x] = l := by
  have hsplit := List.take_append_drop n l
  have hshort : (l.drop n).length ≤ 1 := by
    rw [List.length_drop]
    omega
  cases hdrop : l.drop n with
  | nil =>
    rw [hdrop, List.append_nil] at hsplit
    exact Or.inl ⟨rfl, hsplit⟩
  | cons x rest =>
    rw [hdrop, List.length_cons] at hshort
    obtain rfl : rest = [] := List.length_eq_zero_iff.mp (by omega)
    rw [hdrop] at hsplit
    exact Or.inr ⟨x, rfl, hsplit⟩

theorem head?_drop_eq_some_iff {l : List κ} {n : Nat} (hl : l.Nodup) (hlength : l.length ≤ n + 1)
    {x : κ} : (l.drop n).head? = some x ↔ x ∈ l ∧ x ∉ l.take n := by
  rcases drop_cases hlength with ⟨hdrop, htake⟩ | ⟨y, hdrop, hsplit⟩
  · simp [hdrop, htake]
  · rw [← hsplit] at hl
    have hy : y ∉ l.take n := fun hmem ↦
      List.disjoint_of_nodup_append hl hmem List.mem_cons_self
    have hmem : x ∈ l ↔ x ∈ l.take n ∨ x = y := by
      conv_lhs => rw [← hsplit]
      rw [List.mem_append, List.mem_singleton]
    rw [hdrop, hmem, List.head?_cons, Option.some_inj]
    constructor
    · rintro rfl
      exact ⟨Or.inr rfl, hy⟩
    · rintro ⟨hx, hx'⟩
      exact (hx.resolve_left hx').symm

theorem size_eq_length_keys (m : RecencyMap κ α capacity) : m.size = m.keys.length :=
  (List.length_map _).symm

variable [DecidableEq κ]

theorem peek?_eq_some_iff {m : RecencyMap κ α capacity} {k : κ} {a : α} :
    m.peek? k = some a ↔ (k, a) ∈ m.entries := by
  constructor
  · intro h
    obtain ⟨⟨k', a'⟩, hf, rfl⟩ := Option.map_eq_some_iff.mp h
    have hk : k' = k := by simpa using List.find?_some hf
    exact hk ▸ List.mem_of_find?_eq_some hf
  · intro h
    obtain ⟨⟨k', a'⟩, hf⟩ : ∃ e, m.entries.find? (fun e ↦ e.1 = k) = some e :=
      Option.isSome_iff_exists.mp (List.find?_isSome.mpr ⟨(k, a), h, by simp⟩)
    have hk : k' = k := by simpa using List.find?_some hf
    have he := List.mem_of_find?_eq_some hf
    rw [hk] at he
    rw [peek?, hf, Option.map_some, eq_of_mem_entries he h]

theorem mem_others {k k' : κ} {a : α} {l : List (κ × α)} :
    (k', a) ∈ others k l ↔ (k', a) ∈ l ∧ k' ≠ k := by
  simp [others]

@[simp] theorem peek?_empty (k : κ) : (empty : RecencyMap κ α capacity).peek? k = none := rfl

theorem peek?_touch (m : RecencyMap κ α capacity) (k k' : κ) :
    (m.touch k).peek? k' = m.peek? k' := by
  apply Option.ext
  intro a
  simp only [peek?_eq_some_iff, touch]
  split
  · rfl
  · rename_i e he
    have hk : e.1 = k := by simpa using List.find?_some he
    have hm : (k, e.2) ∈ m.entries := hk ▸ List.mem_of_find?_eq_some he
    rw [List.mem_cons, mem_others, Prod.mk.injEq]
    constructor
    · rintro (⟨rfl, rfl⟩ | h)
      · exact hm
      · exact h.1
    · intro h
      by_cases hkk : k' = k
      · subst hkk
        exact Or.inl ⟨rfl, eq_of_mem_entries h hm⟩
      · exact Or.inr ⟨h, hkk⟩

theorem peek?_insert {m : RecencyMap κ α capacity} {k k' : κ} {a b : α}
    (h : (m.insert k a).peek? k' = some b) :
    (k' = k ∧ b = a) ∨ (k' ≠ k ∧ m.peek? k' = some b) := by
  rw [peek?_eq_some_iff] at h
  have hm : (k', b) ∈ m.inserted k a := List.mem_of_mem_take h
  rw [inserted, List.mem_cons, mem_others, Prod.mk.injEq] at hm
  rcases hm with hm | ⟨hm, hk⟩
  · exact Or.inl hm
  · exact Or.inr ⟨hk, peek?_eq_some_iff.mpr hm⟩

theorem map_fst_others (k : κ) (l : List (κ × α)) :
    (others k l).map Prod.fst = (l.map Prod.fst).filter (· ≠ k) := by
  rw [others, List.filter_map]
  rfl

theorem mem_keys_iff {m : RecencyMap κ α capacity} {k : κ} :
    k ∈ m.keys ↔ (m.peek? k).isSome := by
  rw [Option.isSome_iff_exists, keys, List.mem_map]
  constructor
  · rintro ⟨⟨k', a⟩, h, rfl⟩
    exact ⟨a, peek?_eq_some_iff.mpr h⟩
  · rintro ⟨a, h⟩
    exact ⟨(k, a), peek?_eq_some_iff.mp h, rfl⟩

theorem map_fst_inserted (m : RecencyMap κ α capacity) (k : κ) (a : α) :
    (m.inserted k a).map Prod.fst = k :: m.keys.filter (· ≠ k) := by
  rw [inserted, List.map_cons, map_fst_others]
  rfl

theorem keys_insert (m : RecencyMap κ α capacity) (k : κ) (a : α) :
    (m.insert k a).keys = (k :: m.keys.filter (· ≠ k)).take capacity := by
  rw [← map_fst_inserted m k a, ← List.map_take]
  rfl

theorem keys_touch {m : RecencyMap κ α capacity} {k : κ} (h : k ∈ m.keys) :
    (m.touch k).keys = k :: m.keys.filter (· ≠ k) := by
  obtain ⟨⟨k', a⟩, hmem, rfl⟩ := List.mem_map.mp h
  unfold touch
  split
  · rename_i hnone
    have hne := List.find?_eq_none.mp hnone _ hmem
    simp at hne
  · rw [keys, List.map_cons, map_fst_others]
    rfl

theorem keys_touch_eq_take {m : RecencyMap κ α capacity} {k : κ} (h : k ∈ m.keys) :
    (m.touch k).keys = (k :: m.keys.filter (· ≠ k)).take capacity := by
  have hbounded : (m.touch k).keys.length ≤ capacity := by
    rw [keys, List.length_map]
    exact (m.touch k).bounded
  rw [← keys_touch h, List.take_of_length_le hbounded]

theorem touch_of_notMem {m : RecencyMap κ α capacity} {k : κ} (h : k ∉ m.keys) :
    m.touch k = m := by
  unfold touch
  split
  · rfl
  · rename_i e he
    have hk : e.1 = k := by simpa using List.find?_some he
    have hmem := List.mem_of_find?_eq_some he
    exact absurd (List.mem_map.mpr ⟨e, hmem, hk⟩) h

/-- An insertion pushes out the one key that was there before and is not there afterwards. -/
theorem evicted?_eq_some_iff {m : RecencyMap κ α capacity} (hpos : 0 < capacity) {k k' : κ}
    {a : α} : (m.evicted? k a).map Prod.fst = some k' ↔
      k' ∈ m.keys ∧ k' ∉ (m.insert k a).keys := by
  have hnodup : (k :: m.keys.filter (· ≠ k)).Nodup := by
    rw [← map_fst_inserted m k a]
    exact nodup_cons_others k a m.nodup
  have hlength : (k :: m.keys.filter (· ≠ k)).length ≤ capacity + 1 := by
    have hfilter := List.length_filter_le (· ≠ k) m.keys
    have hbounded : m.keys.length ≤ capacity := by
      rw [keys, List.length_map]
      exact m.bounded
    rw [List.length_cons]
    omega
  have hfront : k ∈ (k :: m.keys.filter (· ≠ k)).take capacity := by
    obtain ⟨n, rfl⟩ : ∃ n, capacity = n + 1 := ⟨capacity - 1, by omega⟩
    exact List.mem_cons_self
  rw [evicted?, ← List.head?_map, List.map_drop, map_fst_inserted,
    head?_drop_eq_some_iff hnodup hlength, keys_insert]
  refine and_congr_left fun hgone ↦ ?_
  have hne : k' ≠ k := fun heq ↦ hgone (heq ▸ hfront)
  simp [hne]

theorem evicted?_of_mem {m : RecencyMap κ α capacity} {k : κ} (h : k ∈ m.keys) (a : α) :
    m.evicted? k a = none := by
  obtain ⟨⟨k', b⟩, hmem, rfl⟩ := List.mem_map.mp h
  have hlength : (m.inserted k' a).length ≤ capacity := by
    have hothers := length_cons_others_le hmem
    have hbounded := m.bounded
    rw [List.length_cons] at hothers
    rw [inserted, List.length_cons]
    omega
  rw [evicted?, List.drop_eq_nil_of_le hlength]
  rfl

theorem peek?_erase {m : RecencyMap κ α capacity} {k k' : κ} {b : α}
    (h : (m.erase k).peek? k' = some b) : m.peek? k' = some b := by
  rw [peek?_eq_some_iff] at h ⊢
  exact (mem_others.mp h).1

theorem peek?_erase_eq (m : RecencyMap κ α capacity) (k k' : κ) :
    (m.erase k).peek? k' = if k' = k then none else m.peek? k' := by
  apply Option.ext
  intro a
  have hmem : (m.erase k).peek? k' = some a ↔ (k', a) ∈ m.entries ∧ k' ≠ k := by
    rw [peek?_eq_some_iff]
    exact mem_others
  rw [hmem, ← peek?_eq_some_iff]
  split
  · rename_i hk
    simp [hk]
  · rename_i hk
    simp [hk]

theorem peek?_insert_eq (hpos : 0 < capacity) (m : RecencyMap κ α capacity) (k k' : κ) (a : α) :
    (m.insert k a).peek? k' = if k' = k then some a
      else if (m.evicted? k a).map Prod.fst = some k' then none else m.peek? k' := by
  split_ifs with hk hevicted
  · subst hk
    obtain ⟨n, rfl⟩ : ∃ n, capacity = n + 1 := ⟨capacity - 1, by omega⟩
    exact peek?_eq_some_iff.mpr List.mem_cons_self
  · have hgone := ((evicted?_eq_some_iff hpos).mp hevicted).2
    rwa [mem_keys_iff, Option.not_isSome_iff_eq_none] at hgone
  · cases hold : m.peek? k' with
    | none =>
      cases hnew : (m.insert k a).peek? k' with
      | none => rfl
      | some b =>
        rcases peek?_insert hnew with ⟨heq, -⟩ | ⟨-, hb⟩
        · exact absurd heq hk
        · rw [hold] at hb
          cases hb
    | some b =>
      have hbefore : k' ∈ m.keys := mem_keys_iff.mpr (Option.isSome_of_eq_some hold)
      have hafter : k' ∈ (m.insert k a).keys := by
        by_contra hgone
        exact hevicted ((evicted?_eq_some_iff hpos).mpr ⟨hbefore, hgone⟩)
      obtain ⟨b', hb'⟩ := Option.isSome_iff_exists.mp (mem_keys_iff.mp hafter)
      rcases peek?_insert hb' with ⟨heq, -⟩ | ⟨-, hb⟩
      · exact absurd heq hk
      · rw [hb', ← hold, hb]

theorem mem_keys_of_insert {m : RecencyMap κ α capacity} {k k' : κ} {a : α}
    (h : k' ∈ (m.insert k a).keys) : k' = k ∨ k' ∈ m.keys := by
  rw [keys_insert] at h
  rcases List.mem_cons.mp (List.mem_of_mem_take h) with hk | hk
  · exact Or.inl hk
  · exact Or.inr (List.mem_filter.mp hk).1

theorem mem_keys_of_touch {m : RecencyMap κ α capacity} {k k' : κ} (h : k' ∈ (m.touch k).keys) :
    k' ∈ m.keys := by
  rwa [mem_keys_iff, peek?_touch, ← mem_keys_iff] at h

theorem mem_keys_of_erase {m : RecencyMap κ α capacity} {k k' : κ} (h : k' ∈ (m.erase k).keys) :
    k' ∈ m.keys := by
  rw [mem_keys_iff, peek?_erase_eq] at h
  split at h
  · cases h
  · exact mem_keys_iff.mpr h

section Sizes

theorem others_eq_self {k : κ} {l : List (κ × α)} (h : k ∉ l.map Prod.fst) : others k l = l := by
  refine List.filter_eq_self.mpr fun e he ↦ ?_
  have hne : e.1 ≠ k := fun hk ↦ h (List.mem_map.mpr ⟨e, he, hk⟩)
  simpa using hne

theorem others_others (k : κ) (l : List (κ × α)) : others k (others k l) = others k l := by
  simp [others, List.filter_filter]

theorem others_cons_self (k : κ) (a : α) (l : List (κ × α)) :
    others k ((k, a) :: l) = others k l := by
  simp [others]

theorem others_cons_of_ne {k k' : κ} (h : k' ≠ k) (a : α) (l : List (κ × α)) :
    others k ((k', a) :: l) = (k', a) :: others k l := by
  simp [others, h]

theorem length_others {k : κ} {l : List (κ × α)} (h : (l.map Prod.fst).Nodup) :
    (others k l).length + (if k ∈ l.map Prod.fst then 1 else 0) = l.length := by
  induction l with
  | nil => rfl
  | cons e l ih =>
    obtain ⟨k', a⟩ := e
    obtain ⟨hnew, hl⟩ := List.nodup_cons.mp h
    by_cases hk : k' = k
    · subst hk
      have hmem : k' ∈ ((k', a) :: l).map Prod.fst := List.mem_cons_self
      rw [others_cons_self, others_eq_self hnew, if_pos hmem, List.length_cons]
    · have hmem : k ∈ ((k', a) :: l).map Prod.fst ↔ k ∈ l.map Prod.fst := by
        simp [Ne.symm hk]
      have ih := ih hl
      rw [others_cons_of_ne hk, List.length_cons, List.length_cons, if_congr hmem rfl rfl]
      omega

theorem others_touch (m : RecencyMap κ α capacity) (k : κ) :
    others k (m.touch k).entries = others k m.entries := by
  unfold touch
  split
  · rfl
  · rw [others_cons_self, others_others]

theorem others_erase (m : RecencyMap κ α capacity) (k : κ) :
    others k (m.erase k).entries = others k m.entries :=
  others_others k m.entries

theorem filter_ne_head?_drop {l : List (κ × α)} {n : Nat} (hnodup : (l.map Prod.fst).Nodup)
    (hlength : l.length ≤ n + 1) :
    l.filter (fun e ↦ (l.drop n).head?.map Prod.fst ≠ some e.1) = l.take n := by
  rcases drop_cases hlength with ⟨hdrop, htake⟩ | ⟨x, hdrop, hsplit⟩
  · simp [hdrop, htake]
  · have hfront : ∀ e ∈ l.take n, x.1 ≠ e.1 := by
      rw [← hsplit, List.map_append, List.nodup_append'] at hnodup
      intro e he hx
      exact hnodup.2.2 (List.mem_map.mpr ⟨e, he, hx.symm⟩) (List.mem_singleton.mpr rfl)
    have hkept : (l.take n).filter (fun e ↦ some x.1 ≠ some e.1) = l.take n := by
      refine List.filter_eq_self.mpr fun e he ↦ ?_
      simpa using hfront e he
    have hlast : [x].filter (fun e ↦ some x.1 ≠ some e.1) = [] := by simp
    rw [hdrop, List.head?_cons, Option.map_some]
    conv_lhs => rw [← hsplit]
    rw [List.filter_append, hkept, hlast, List.append_nil]

/-- An insertion leaves the other entries in their order, but for the one that it pushes out. -/
theorem others_insert (hpos : 0 < capacity) (m : RecencyMap κ α capacity) (k : κ) (a : α) :
    others k (m.insert k a).entries =
      (others k m.entries).filter fun e ↦ (m.evicted? k a).map Prod.fst ≠ some e.1 := by
  obtain ⟨n, rfl⟩ : ∃ n, capacity = n + 1 := ⟨capacity - 1, by omega⟩
  have hnodup : ((others k m.entries).map Prod.fst).Nodup :=
    m.nodup.sublist (List.filter_sublist.map _)
  have hlength : (others k m.entries).length ≤ n + 1 :=
    Nat.le_trans (List.length_filter_le _ _) m.bounded
  have hevicted : m.evicted? k a = ((others k m.entries).drop n).head? := rfl
  have hentries : (m.insert k a).entries = (k, a) :: (others k m.entries).take n := rfl
  have hnotin : k ∉ ((others k m.entries).take n).map Prod.fst := by
    intro hmem
    obtain ⟨⟨k', b⟩, he, rfl⟩ := List.mem_map.mp hmem
    exact (mem_others.mp (List.mem_of_mem_take he)).2 rfl
  rw [hevicted, filter_ne_head?_drop hnodup hlength, hentries, others_cons_self,
    others_eq_self hnotin]

theorem size_touch (m : RecencyMap κ α capacity) (k : κ) : (m.touch k).size = m.size := by
  by_cases h : k ∈ m.keys
  · have hothers : (others k m.entries).length + 1 = m.size := by
      have hlength := length_others (k := k) m.nodup
      rwa [if_pos (show k ∈ m.entries.map Prod.fst from h)] at hlength
    rw [size_eq_length_keys, keys_touch h, List.length_cons, keys, ← map_fst_others,
      List.length_map, hothers]
  · rw [touch_of_notMem h]

theorem size_erase (m : RecencyMap κ α capacity) (k : κ) :
    (m.erase k).size + (if k ∈ m.keys then 1 else 0) = m.size :=
  length_others m.nodup

theorem size_insert (m : RecencyMap κ α capacity) (k : κ) (a : α) :
    (m.insert k a).size + (if (m.evicted? k a).isSome then 1 else 0) +
      (if k ∈ m.keys then 1 else 0) = m.size + 1 := by
  have hothers := length_others (k := k) m.nodup
  have hbounded := m.bounded
  have hinserted : (m.inserted k a).length = (others k m.entries).length + 1 := rfl
  have hsize : (m.insert k a).size = min capacity (m.inserted k a).length := List.length_take
  have hevicted : (m.evicted? k a).isSome ↔ capacity < (m.inserted k a).length := by
    simp [evicted?]
  have hmem : k ∈ m.keys ↔ k ∈ m.entries.map Prod.fst := Iff.rfl
  rw [hsize, if_congr hevicted rfl rfl, if_congr hmem rfl rfl]
  unfold size
  split_ifs at hothers ⊢ <;> omega

end Sizes

end RecencyMap

end QueryCatalog
