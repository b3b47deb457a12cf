import QueryCatalog.Proofs.Cache.Entries

namespace QueryCatalog

theorem total_modify {β : Type} (size : β → Nat) (f : β → β) {l : List β} {i : Nat} {b : β}
    (h : l[i]? = some b) :
    total ((l.modify i f).map size) + size b = total (l.map size) + size (f b) := by
  induction l generalizing i with
  | nil => cases h
  | cons c l ih =>
    cases i with
    | zero =>
      obtain rfl : c = b := by simpa using h
      simp only [List.modify_zero_cons, List.map_cons, total_cons]
      omega
    | succ i =>
      have ih := ih (i := i) (by simpa using h)
      simp only [List.modify_succ_cons, List.map_cons, total_cons]
      omega

theorem total_le_mul {β : Type} {size : β → Nat} {n : Nat} {l : List β} (h : ∀ b ∈ l, size b ≤ n) :
    total (l.map size) ≤ n * l.length := by
  induction l with
  | nil => exact Nat.zero_le _
  | cons b l ih =>
    obtain ⟨hb, hl⟩ := List.forall_mem_cons.mp h
    have ih := ih hl
    rw [List.map_cons, total_cons, List.length_cons, Nat.mul_succ]
    omega

namespace Store

variable {α : Type} {s : Store α} {k k' : CacheKey} {e : CacheEntry α} {stamp : Nat}

def Filed (s : Store α) : Prop := ∀ i m, s.shards[i]? = some m → ∀ k ∈ m.keys, s.shardIndex k = i

/-- The entries of each shard but that of a key, the one used last in front. -/
def besides (s : Store α) (k : CacheKey) : List (List (CacheKey × CacheEntry α)) :=
  s.shards.map fun m ↦ RecencyMap.others k m.entries

theorem getElem?_shardIndex (hpos : 0 < s.shards.length) (k : CacheKey) :
    s.shards[s.shardIndex k]? = some (s.shard k) := by
  have hlt : s.shardIndex k < s.shards.length := Nat.mod_lt _ hpos
  rw [shard, List.getElem?_eq_getElem hlt]
  rfl

section Modify

variable {f : RecencyMap CacheKey (CacheEntry α) s.shardCapacity →
  RecencyMap CacheKey (CacheEntry α) s.shardCapacity}

theorem capacity_modifyShard : (s.modifyShard k f).capacity = s.capacity := by
  simp [modifyShard, capacity]

theorem size_modifyShard (hpos : 0 < s.shards.length) :
    (s.modifyShard k f).size + (s.shard k).size = s.size + (f (s.shard k)).size :=
  total_modify RecencyMap.size f (getElem?_shardIndex hpos k)

theorem Filed.modifyShard (h : s.Filed) (hpos : 0 < s.shards.length)
    (hf : ∀ k' ∈ (f (s.shard k)).keys, k' = k ∨ k' ∈ (s.shard k).keys) :
    (s.modifyShard k f).Filed := by
  intro i (m : RecencyMap CacheKey (CacheEntry α) s.shardCapacity) hm k' hk'
  have hindex : (s.modifyShard k f).shardIndex k' = s.shardIndex k' := by
    simp [Store.modifyShard, shardIndex]
  have hshards : (s.shards.modify (s.shardIndex k) f)[i]? = some m := hm
  rw [hindex]
  rw [List.getElem?_modify] at hshards
  by_cases hi : s.shardIndex k = i
  · subst hi
    rw [getElem?_shardIndex hpos] at hshards
    obtain rfl : f (s.shard k) = m := by simpa using hshards
    rcases hf k' hk' with rfl | hold
    · rfl
    · exact h _ _ (getElem?_shardIndex hpos k) k' hold
  · obtain ⟨m', hm', rfl⟩ := Option.map_eq_some_iff.mp hshards
    simp only [hi, if_false] at hk'
    exact h i m' hm' k' hk'

theorem besides_modifyShard (hpos : 0 < s.shards.length) {p : CacheKey × CacheEntry α → Bool}
    (hf : RecencyMap.others k (f (s.shard k)).entries =
      (RecencyMap.others k (s.shard k).entries).filter p)
    (hother : ∀ i m, s.shards[i]? = some m → s.shardIndex k ≠ i → ∀ x ∈ m.entries, p x) :
    (s.modifyShard k f).besides k = (s.besides k).map (List.filter p) := by
  apply List.ext_getElem?
  intro i
  simp only [besides, Store.modifyShard, List.getElem?_map, List.getElem?_modify]
  by_cases hi : s.shardIndex k = i
  · subst hi
    simp [getElem?_shardIndex hpos, hf]
  · cases hm : s.shards[i]? with
    | none => rfl
    | some m =>
      have hall : (RecencyMap.others k m.entries).filter p = RecencyMap.others k m.entries :=
        List.filter_eq_self.mpr fun x hx ↦ hother i m hm hi x (List.mem_of_mem_filter hx)
      simp [hi, hall]

theorem besides_modifyShard_of_eq (hpos : 0 < s.shards.length)
    (hf : RecencyMap.others k (f (s.shard k)).entries = RecencyMap.others k (s.shard k).entries) :
    (s.modifyShard k f).besides k = s.besides k := by
  have hall : List.filter (fun _ : CacheKey × CacheEntry α ↦ true) = id :=
    funext fun _ ↦ List.filter_true _
  rw [besides_modifyShard hpos (p := fun _ ↦ true) (hf.trans (List.filter_true _).symm)
    fun _ _ _ _ _ _ ↦ rfl, hall, List.map_id]

end Modify

section Operations

theorem size_insert (hpos : 0 < s.shards.length) (k : CacheKey) (e : CacheEntry α) :
    (s.insert k e).2.size + (if (s.insert k e).1.isSome then 1 else 0) +
      (if (s.peek? k).isSome then 1 else 0) = s.size + 1 := by
  have hsize : (s.insert k e).2.size + (s.shard k).size =
      s.size + ((s.shard k).insert k e).size := size_modifyShard hpos
  have hshard := (s.shard k).size_insert k e
  have hevicted : (s.insert k e).1.isSome = ((s.shard k).evicted? k e).isSome := Option.isSome_map
  have hheld : (s.peek? k).isSome ↔ k ∈ (s.shard k).keys := RecencyMap.mem_keys_iff.symm
  rw [hevicted, if_congr hheld rfl rfl]
  omega

theorem size_get (hpos : 0 < s.shards.length) (k : CacheKey) : (s.get k).2.size = s.size := by
  have hsize : (s.get k).2.size + (s.shard k).size = s.size + ((s.shard k).touch k).size :=
    size_modifyShard hpos
  rw [RecencyMap.size_touch] at hsize
  omega

theorem removeEntry_cases (s : Store α) (k : CacheKey) (stamp : Nat) :
    (∃ e, s.peek? k = some e ∧ e.stamp = stamp ∧
      s.removeEntry k stamp = (true, s.modifyShard k (·.erase k))) ∨
    ((∀ e, s.peek? k = some e → e.stamp ≠ stamp) ∧ s.removeEntry k stamp = (false, s)) := by
  unfold removeEntry
  cases s.peek? k with
  | none => exact Or.inr ⟨fun e he ↦ (by cases he), rfl⟩
  | some e =>
    by_cases hstamp : e.stamp = stamp
    · refine Or.inl ⟨e, rfl, hstamp, if_pos ?_⟩
      rw [Option.any_some, hstamp, beq_self_eq_true]
    · refine Or.inr ⟨?_, if_neg ?_⟩
      · rintro e' ⟨⟩
        exact hstamp
      · rw [Option.any_some, beq_iff_eq]
        exact hstamp

theorem removeEntry_induction {P : Store α → Prop} (hkept : P s)
    (herased : P (s.modifyShard k (·.erase k))) : P (s.removeEntry k stamp).2 := by
  rcases s.removeEntry_cases k stamp with ⟨e, -, -, hremoved⟩ | ⟨-, hrefused⟩
  · rwa [hremoved]
  · rwa [hrefused]

theorem removeEntry_fst_iff : (s.removeEntry k stamp).1 = true ↔
    ∃ e, s.peek? k = some e ∧ e.stamp = stamp := by
  rcases s.removeEntry_cases k stamp with ⟨e, he, hstamp, hremoved⟩ | ⟨hother, hrefused⟩
  · simp only [hremoved, true_iff]
    exact ⟨e, he, hstamp⟩
  · simp only [hrefused, Bool.false_eq_true, false_iff]
    rintro ⟨e, he, hstamp⟩
    exact hother e he hstamp

theorem size_removeEntry (hpos : 0 < s.shards.length) (k : CacheKey) (stamp : Nat) :
    (s.removeEntry k stamp).2.size + (if (s.removeEntry k stamp).1 then 1 else 0) = s.size := by
  rcases s.removeEntry_cases k stamp with ⟨e, he, -, hremoved⟩ | ⟨-, hrefused⟩
  · have hsize : (s.modifyShard k (·.erase k)).size + (s.shard k).size =
        s.size + ((s.shard k).erase k).size := size_modifyShard hpos
    have hshard := (s.shard k).size_erase k
    have hheld : k ∈ (s.shard k).keys :=
      RecencyMap.mem_keys_iff.mpr (Option.isSome_of_eq_some he)
    rw [if_pos hheld] at hshard
    rw [hremoved, if_pos rfl]
    dsimp only
    omega
  · rw [hrefused, if_neg Bool.false_ne_true]
    rfl

theorem size_of_empty (hempty : ∀ m ∈ s.shards, m = .empty) : s.size = 0 := by
  have hle : s.size ≤ 0 * s.shards.length := total_le_mul fun m hm ↦ by
    rw [hempty m hm]
    exact Nat.le_refl 0
  omega

theorem size_create {capacity shards : Nat} {memory : Memory}
    (h : create capacity shards memory = .ok s) : s.size = 0 ∧ s.capacity ≤ capacity := by
  obtain ⟨-, -, rfl⟩ := create_eq_ok_iff.mp h
  refine ⟨size_of_empty fun _ hm ↦ List.eq_of_mem_replicate hm, ?_⟩
  rw [Store.capacity, List.length_replicate]
  exact Nat.div_mul_le_self _ _

theorem Filed.insert (h : s.Filed) (hpos : 0 < s.shards.length) (k : CacheKey)
    (e : CacheEntry α) : (s.insert k e).2.Filed :=
  h.modifyShard hpos fun _ ↦ RecencyMap.mem_keys_of_insert

theorem Filed.get (h : s.Filed) (hpos : 0 < s.shards.length) (k : CacheKey) :
    (s.get k).2.Filed :=
  h.modifyShard hpos fun _ hk' ↦ Or.inr (RecencyMap.mem_keys_of_touch hk')

theorem Filed.removeEntry (h : s.Filed) (hpos : 0 < s.shards.length) (k : CacheKey)
    (stamp : Nat) : (s.removeEntry k stamp).2.Filed :=
  removeEntry_induction h
    (h.modifyShard hpos fun _ hk' ↦ Or.inr (RecencyMap.mem_keys_of_erase hk'))

theorem Filed.of_empty (hempty : ∀ m ∈ s.shards, m = .empty) : s.Filed := by
  intro i m hm k hk
  rw [hempty m (List.mem_of_getElem? hm)] at hk
  cases hk

theorem Filed.nodup_keys (h : s.Filed) : (s.shards.flatMap RecencyMap.keys).Nodup := by
  refine List.nodup_flatMap.mpr ⟨fun m _ ↦ m.nodup, List.pairwise_iff_getElem.mpr ?_⟩
  intro i j hi hj hij k hk hk'
  have hindex := h i _ (List.getElem?_eq_getElem hi) k hk
  have hindex' := h j _ (List.getElem?_eq_getElem hj) k hk'
  omega

theorem size_le_capacity (s : Store α) : s.size ≤ s.capacity :=
  total_le_mul fun m _ ↦ m.bounded

theorem Sound.removed (h : s.Sound) (k : CacheKey) (stamp : Nat) :
    (s.removeEntry k stamp).2.Sound :=
  removeEntry_induction h
    (h.modifyShard fun _ hk' ↦ Or.inr (RecencyMap.mem_keys_of_erase hk'))

theorem capacity_removeEntry (s : Store α) (k : CacheKey) (stamp : Nat) :
    (s.removeEntry k stamp).2.capacity = s.capacity :=
  removeEntry_induction (P := fun s' ↦ s'.capacity = s.capacity) rfl capacity_modifyShard

theorem capacity_clear (s : Store α) : s.clear.2.capacity = s.capacity :=
  congrArg (s.shardCapacity * ·) (List.length_map _)

theorem eq_empty_of_mem_clear {m : RecencyMap CacheKey (CacheEntry α) s.shardCapacity}
    (hm : m ∈ s.clear.2.shards) : m = .empty := by
  obtain ⟨-, -, rfl⟩ := List.mem_map.mp hm
  rfl

end Operations

/-- An operation on one key leaves the entries of the other keys and their order, but for the one
that it reports. -/
structure LeavesOthers (s : Store α) : Prop where
  insert : ∀ k e k', (s.insert k e).2.peek? k' =
    if k' = k then some e else if (s.insert k e).1 = some k' then none else s.peek? k'
  insert_order : ∀ k e, (s.insert k e).2.besides k =
    (s.besides k).map (List.filter fun x ↦ (s.insert k e).1 ≠ some x.1)
  evicted : ∀ k e k', (s.insert k e).1 = some k' → k' ≠ k ∧ (s.peek? k').isSome
  get : ∀ k k', (s.get k).2.peek? k' = s.peek? k'
  get_order : ∀ k, (s.get k).2.besides k = s.besides k
  removed : ∀ k stamp, (s.removeEntry k stamp).1 = true →
    (∀ k', (s.removeEntry k stamp).2.peek? k' = if k' = k then none else s.peek? k') ∧
      (s.removeEntry k stamp).2.besides k = s.besides k
  refused : ∀ k stamp, (s.removeEntry k stamp).1 = false → (s.removeEntry k stamp).2 = s

theorem Sound.evicted (h : s.Sound) {e : CacheEntry α} (hevicted : (s.insert k e).1 = some k') :
    k' ∈ (s.shard k).keys ∧ k' ≠ k := by
  have hmem := (RecencyMap.evicted?_eq_some_iff h.room).mp hevicted
  refine ⟨hmem.1, ?_⟩
  rintro rfl
  rw [Store.insert, RecencyMap.evicted?_of_mem hmem.1] at hevicted
  cases hevicted

theorem Sound.leavesOthers (h : s.Sound) (hfiled : s.Filed) : s.LeavesOthers where
  insert k e := (h.insert k e).2
  insert_order k e := by
    refine besides_modifyShard h.shards_pos ?_ ?_
    · exact RecencyMap.others_insert h.room (s.shard k) k e
    · intro i m hm hi x hx
      -- The key that is pushed out is in the shard of the new key.
      have hne : (s.insert k e).1 ≠ some x.1 := by
        intro hevicted
        have hheld := hfiled _ _ (getElem?_shardIndex h.shards_pos k) x.1 (h.evicted hevicted).1
        have hindex := hfiled i m hm x.1 (List.mem_map_of_mem hx)
        exact hi (hheld.symm.trans hindex)
      simpa using hne
  evicted k e k' hevicted := by
    obtain ⟨hmem, hne⟩ := h.evicted hevicted
    have hsame := h.placed k k' hmem
    rw [sameShard_comm] at hsame
    refine ⟨hne, ?_⟩
    rw [peek?, shard_of_same hsame]
    exact RecencyMap.mem_keys_iff.mp hmem
  get k := (h.get k).2
  get_order k := besides_modifyShard_of_eq h.shards_pos (RecencyMap.others_touch _ k)
  removed k stamp htrue := by
    obtain ⟨e, he, rfl⟩ := removeEntry_fst_iff.mp htrue
    obtain ⟨s', hremoved, -, hpeek⟩ := h.removeEntry he
    have herased := removeEntry_of_peek? he
    obtain rfl : s.modifyShard k (·.erase k) = s' :=
      congrArg Prod.snd (herased.symm.trans hremoved)
    rw [herased]
    exact ⟨hpeek, besides_modifyShard_of_eq h.shards_pos (RecencyMap.others_erase _ k)⟩
  refused k stamp hfalse := by
    rcases s.removeEntry_cases k stamp with ⟨e, -, -, hremoved⟩ | ⟨-, hrefused⟩
    · rw [hremoved] at hfalse
      cases hfalse
    · rw [hrefused]

end Store

inductive StoreOp (α : Type)
  | insert (key : CacheKey) (entry : CacheEntry α)
  | get (key : CacheKey)
  | remove (key : CacheKey) (entry : CacheEntry α)
  | clear

structure StoreTally where
  inserted : Nat := 0
  replaced : Nat := 0
  evicted : Nat := 0
  removed : Nat := 0
  cleared : Nat := 0
  deriving DecidableEq

structure TalliedStore (α : Type) where
  store : Store α
  tally : StoreTally := {}

namespace TalliedStore

variable {α : Type}

/-- Insertions under a present key count as replacements, those that return a key as evictions. -/
def apply (s : TalliedStore α) : StoreOp α → TalliedStore α
  | .insert k e =>
    ⟨(s.store.insert k e).2, { s.tally with
      inserted := s.tally.inserted + 1
      replaced := s.tally.replaced + if (s.store.peek? k).isSome then 1 else 0
      evicted := s.tally.evicted + if (s.store.insert k e).1.isSome then 1 else 0 }⟩
  | .get k => ⟨(s.store.get k).2, s.tally⟩
  | .remove k e =>
    ⟨(s.store.removeEntry k e.stamp).2, { s.tally with
      removed := s.tally.removed + if (s.store.removeEntry k e.stamp).1 then 1 else 0 }⟩
  | .clear =>
    ⟨s.store.clear.2, { s.tally with cleared := s.tally.cleared + s.store.clear.1 }⟩

def run (s : TalliedStore α) (ops : List (StoreOp α)) : TalliedStore α := ops.foldl apply s

/-- Every entry that was inserted is held or was seen to leave. -/
structure Accounted (capacity : Nat) (ops : List (StoreOp α)) (s : TalliedStore α) : Prop where
  sound : s.store.Sound
  filed : s.store.Filed
  capacity_le : s.store.capacity ≤ capacity
  balanced : s.tally.inserted = s.store.size + s.tally.evicted + s.tally.removed +
    s.tally.cleared + s.tally.replaced
  inserted : ∀ k e, s.store.peek? k = some e → .insert k e ∈ ops

variable {capacity : Nat} {ops : List (StoreOp α)} {s : TalliedStore α}

theorem Accounted.insert (h : Accounted capacity ops s) (k : CacheKey) (e : CacheEntry α) :
    Accounted capacity (ops ++ [.insert k e]) (s.apply (.insert k e)) where
  sound := (h.sound.insert k e).1
  filed := h.filed.insert h.sound.shards_pos k e
  capacity_le := Store.capacity_modifyShard.trans_le h.capacity_le
  balanced := by
    have hsize := s.store.size_insert h.sound.shards_pos k e
    have hbefore := h.balanced
    dsimp only [apply]
    omega
  inserted := by
    intro k' e' he'
    rcases Store.peek?_insert he' with ⟨rfl, rfl⟩ | hold
    · simp
    · exact List.mem_append_left _ (h.inserted k' e' hold)

theorem Accounted.get (h : Accounted capacity ops s) (k : CacheKey) :
    Accounted capacity (ops ++ [.get k]) (s.apply (.get k)) where
  sound := (h.sound.get k).1
  filed := h.filed.get h.sound.shards_pos k
  capacity_le := Store.capacity_modifyShard.trans_le h.capacity_le
  balanced := by
    have hsize := s.store.size_get h.sound.shards_pos k
    have hbefore := h.balanced
    dsimp only [apply]
    omega
  inserted k' e' he' := List.mem_append_left _ (h.inserted k' e' (Store.peek?_get he'))

theorem Accounted.remove (h : Accounted capacity ops s) (k : CacheKey) (e : CacheEntry α) :
    Accounted capacity (ops ++ [.remove k e]) (s.apply (.remove k e)) where
  sound := h.sound.removed k e.stamp
  filed := h.filed.removeEntry h.sound.shards_pos k e.stamp
  capacity_le := (s.store.capacity_removeEntry k e.stamp).trans_le h.capacity_le
  balanced := by
    have hsize := s.store.size_removeEntry h.sound.shards_pos k e.stamp
    have hbefore := h.balanced
    dsimp only [apply]
    omega
  inserted k' e' he' := List.mem_append_left _ (h.inserted k' e' (Store.peek?_removeEntry he'))

theorem Accounted.clear (h : Accounted capacity ops s) :
    Accounted capacity (ops ++ [.clear]) (s.apply .clear) where
  sound := h.sound.clear
  filed := .of_empty fun _ ↦ Store.eq_empty_of_mem_clear
  capacity_le := s.store.capacity_clear.trans_le h.capacity_le
  balanced := by
    have hcount : s.store.clear.1 = s.store.size := rfl
    have hsize := Store.size_of_empty (s := s.store.clear.2) fun _ ↦ Store.eq_empty_of_mem_clear
    have hbefore := h.balanced
    dsimp only [apply]
    omega
  inserted k e he := by
    rw [apply, Store.peek?_clear] at he
    cases he

theorem Accounted.apply (h : Accounted capacity ops s) (op : StoreOp α) :
    Accounted capacity (ops ++ [op]) (s.apply op) := by
  cases op with
  | insert k e => exact h.insert k e
  | get k => exact h.get k
  | remove k e => exact h.remove k e
  | clear => exact h.clear

theorem Accounted.run (h : Accounted capacity [] s) (ops : List (StoreOp α)) :
    Accounted capacity ops (s.run ops) := by
  induction ops using List.reverseRecOn with
  | nil => exact h
  | append_singleton ops op ih =>
    rw [TalliedStore.run, List.foldl_append]
    exact ih.apply op

/-- No other entry among the inserted ones has the stamp of this one. -/
def OwnStamp (ops : List (StoreOp α)) (e : CacheEntry α) : Prop :=
  ∀ k' e', .insert k' e' ∈ ops → e'.stamp = e.stamp → e' = e

theorem Accounted.removeEntry_iff (h : Accounted capacity ops s) {k : CacheKey}
    {e : CacheEntry α} (hown : OwnStamp ops e) :
    (s.store.removeEntry k e.stamp).1 = true ↔ s.store.peek? k = some e := by
  rw [Store.removeEntry_fst_iff]
  constructor
  · rintro ⟨e', he', hstamp⟩
    rwa [← hown k e' (h.inserted k e' he') hstamp]
  · intro he
    exact ⟨e, he, rfl⟩

end TalliedStore

theorem create_accounted {α : Type} {capacity : Nat} (hpos : 0 < capacity) (shards : Nat) :
    ∃ store : Store α, Store.create capacity shards = .ok store ∧
      TalliedStore.Accounted capacity [] ⟨store, {}⟩ := by
  have hcreate := Store.create_unlimited (α := α) hpos shards
  have hempty : ∀ m ∈ List.replicate (Store.shardCount capacity shards)
      (.empty : RecencyMap CacheKey (CacheEntry α) (capacity / Store.shardCount capacity shards)),
      m = .empty := fun _ hm ↦ List.eq_of_mem_replicate hm
  obtain ⟨hsize, hcapacity⟩ := Store.size_create hcreate
  refine ⟨_, hcreate, .create hcreate, .of_empty hempty, hcapacity, hsize.symm, ?_⟩
  intro k e he
  rw [Store.peek?_create hcreate] at he
  cases he

/-- The sizes, the account of the entries, and what operations do to other keys. -/
theorem store_conserves {α : Type} {capacity : Nat} (hpos : 0 < capacity) (shards : Nat) :
    ∃ store : Store α, Store.create capacity shards = .ok store ∧
      ∀ ops : List (StoreOp α),
        let s := TalliedStore.run ⟨store, {}⟩ ops
        s.store.capacity ≤ capacity ∧ s.store.size ≤ s.store.capacity ∧
        (s.store.shards.flatMap RecencyMap.keys).Nodup ∧
        s.tally.inserted = s.store.size + s.tally.evicted + s.tally.removed +
          s.tally.cleared + s.tally.replaced ∧
        (∀ k stamp, (s.store.removeEntry k stamp).1 = true ↔
          ∃ e, s.store.peek? k = some e ∧ e.stamp = stamp) ∧
        (∀ k e, TalliedStore.OwnStamp ops e →
          ((s.store.removeEntry k e.stamp).1 = true ↔ s.store.peek? k = some e)) ∧
        s.store.LeavesOthers := by
  obtain ⟨store, hcreate, hnew⟩ := create_accounted (α := α) hpos shards
  refine ⟨store, hcreate, fun ops ↦ ?_⟩
  have h := hnew.run ops
  exact ⟨h.capacity_le, Store.size_le_capacity _, h.filed.nodup_keys, h.balanced,
    fun _ _ ↦ Store.removeEntry_fst_iff, fun k e hown ↦ h.removeEntry_iff hown,
    h.sound.leavesOthers h.filed⟩

/-- Two shards share a capacity of three, so that there is room for two entries: one is replaced,
one is evicted, one is removed, one is cleared away and one is left. -/
theorem store_of_three_conserves :
    ∃ store : Store Nat, Store.create 3 2 = .ok store ∧
      let s := TalliedStore.run ⟨store, {}⟩
        [.insert (keyNamed "a") ⟨0, 5, 0, 0⟩, .insert (keyNamed "a") ⟨1, 6, 0, 0⟩,
          .remove (keyNamed "a") ⟨0, 5, 0, 0⟩, .insert (keyNamed "f") ⟨2, 7, 0, 0⟩,
          .insert (keyNamed "b") ⟨3, 8, 0, 0⟩, .get (keyNamed "f"),
          .remove (keyNamed "f") ⟨2, 7, 0, 0⟩, .clear, .insert (keyNamed "a") ⟨4, 9, 0, 0⟩]
      s.store.LeavesOthers ∧ s.tally.inserted = s.store.size + s.tally.evicted +
        s.tally.removed + s.tally.cleared + s.tally.replaced ∧
      s.tally = ⟨5, 1, 1, 1, 1⟩ ∧ s.store.size = 1 ∧ s.store.capacity = 2 := by
  obtain ⟨store, hcreate, hstore⟩ := store_conserves (α := Nat) (show 0 < 3 by decide) 2
  obtain ⟨-, -, -, hbalanced, -, -, hothers⟩ := hstore _
  refine ⟨store, hcreate, hothers, hbalanced, ?_⟩
  cases hcreate
  exact ⟨by decide +kernel, by decide +kernel, by decide +kernel⟩

end QueryCatalog
