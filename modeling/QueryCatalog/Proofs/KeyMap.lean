import QueryCatalog.KeyMap
import Mathlib.Data.List.Sort

namespace QueryCatalog.KeyMap

variable {α : Type} {m m' : KeyMap α} {k : String} {l : List (String × α)}

theorem mem_of_lookup {a : α} (h : lookup k l = some a) : (k, a) ∈ l := by
  induction l with
  | nil => cases h
  | cons e l ih =>
    rw [lookup] at h
    split at h
    · rename_i hk
      cases h
      rw [hk]
      exact List.mem_cons_self ..
    · exact List.mem_cons_of_mem _ (ih h)

theorem lookup_of_mem (hl : (l.map Prod.fst).Pairwise (· < ·)) {a : α} (h : (k, a) ∈ l) :
    lookup k l = some a := by
  induction l with
  | nil => cases h
  | cons e l ih =>
    rw [List.map_cons, List.pairwise_cons] at hl
    rw [lookup]
    rcases List.mem_cons.mp h with rfl | h
    · exact if_pos rfl
    · have hlt := hl.1 k (List.mem_map.mpr ⟨_, h, rfl⟩)
      rw [if_neg (String.ne_of_lt hlt).symm]
      exact ih hl.2 h

theorem get?_eq_some_iff {a : α} : m.get? k = some a ↔ (k, a) ∈ m.entries :=
  ⟨mem_of_lookup, lookup_of_mem m.sorted⟩

theorem nodup_keys (m : KeyMap α) : m.keys.Nodup := m.sorted.imp String.ne_of_lt

theorem mem_keys_iff : k ∈ m.keys ↔ (m.get? k).isSome := by
  rw [Option.isSome_iff_exists, keys, List.mem_map]
  constructor
  · rintro ⟨⟨_, a⟩, hmem, rfl⟩
    exact ⟨a, get?_eq_some_iff.mpr hmem⟩
  · rintro ⟨a, h⟩
    exact ⟨(k, a), get?_eq_some_iff.mp h, rfl⟩

theorem ext_get? (h : ∀ k, m.get? k = m'.get? k) : m = m' := by
  let before (e e' : String × α) : Prop := e.1 < e'.1
  have hirrefl : Std.Irrefl before := ⟨fun e ↦ String.lt_irrefl e.1⟩
  have hantisymm : Std.Antisymm before :=
    ⟨fun e e' h h' ↦ absurd h' (String.lt_asymm h)⟩
  have hsorted : ∀ n : KeyMap α, n.entries.Pairwise before := fun n ↦
    List.pairwise_map.mp n.sorted
  refine ext ((hsorted m).eq_of_mem_iff (hsorted m') fun e ↦ ?_)
  rw [← get?_eq_some_iff, ← get?_eq_some_iff, h]

theorem get?_filterKeys_of_pos {p : String → Bool} (h : p k = true) :
    (m.filterKeys p).get? k = m.get? k := by
  apply Option.ext
  intro a
  rw [get?_eq_some_iff, get?_eq_some_iff, filterKeys, List.mem_filter]
  simp [h]

theorem insertAll_append (m : KeyMap α) (l l' : List (String × α)) :
    m.insertAll (l ++ l') = (m.insertAll l).insertAll l' := List.foldl_append

theorem get?_insertAll_of_forall_ne (m : KeyMap α) (h : ∀ e ∈ l, e.1 ≠ k) :
    (m.insertAll l).get? k = m.get? k := by
  induction l generalizing m with
  | nil => rfl
  | cons e l ih =>
    obtain ⟨he, hl⟩ := List.forall_mem_cons.mp h
    rw [insertAll, List.foldl_cons, ← insertAll, ih _ hl, get?_insert_of_ne m he.symm]

theorem get?_insertAll_of_mem (m : KeyMap α) {a : α} (hmem : (k, a) ∈ l)
    (h : ∀ e ∈ l, e.1 = k → e.2 = a) : (m.insertAll l).get? k = some a := by
  induction l generalizing m with
  | nil => cases hmem
  | cons e l ih =>
    obtain ⟨he, hl⟩ := List.forall_mem_cons.mp h
    rw [insertAll, List.foldl_cons, ← insertAll]
    by_cases hk : (k, a) ∈ l
    · exact ih _ hk hl
    · have hne : ∀ e' ∈ l, e'.1 ≠ k := by
        intro e' he' hkey
        refine hk ?_
        rw [← hkey, ← hl e' he' hkey]
        exact he'
      obtain rfl : (k, a) = e := (List.mem_cons.mp hmem).resolve_right hk
      rw [get?_insertAll_of_forall_ne _ hne, get?_insert_self]

theorem ofList_entries (m : KeyMap α) : ofList m.entries = m := by
  refine ext_get? fun k ↦ ?_
  cases h : m.get? k with
  | some a =>
    have hmem := get?_eq_some_iff.mp h
    refine get?_insertAll_of_mem _ hmem ?_
    rintro ⟨_, b⟩ hb rfl
    exact Option.some.inj ((get?_eq_some_iff.mpr hb).symm.trans h)
  | none =>
    refine get?_insertAll_of_forall_ne _ ?_
    rintro ⟨_, b⟩ hb rfl
    rw [get?_eq_some_iff.mpr hb] at h
    cases h

theorem entries_ofList (h : (l.map Prod.fst).Pairwise (· < ·)) : (ofList l).entries = l :=
  congrArg entries (ofList_entries ⟨l, h⟩)

end QueryCatalog.KeyMap
