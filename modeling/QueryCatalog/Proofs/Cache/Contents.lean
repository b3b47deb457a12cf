import QueryCatalog.Cache.ResultCache
import QueryCatalog.Proofs.Recency

namespace QueryCatalog

namespace Store

variable {α : Type}

theorem shard_modifyShard_eq (s : Store α) (k k' : CacheKey)
    (f : RecencyMap CacheKey (CacheEntry α) s.shardCapacity →
      RecencyMap CacheKey (CacheEntry α) s.shardCapacity) :
    (s.modifyShard k f).shard k' =
      ((s.shards.modify (s.shardIndex k) f)[s.shardIndex k']?).getD .empty := by
  simp only [shard, shardIndex, modifyShard, List.length_modify]
  rfl

theorem shard_modifyShard (s : Store α) (k k' : CacheKey)
    (f : RecencyMap CacheKey (CacheEntry α) s.shardCapacity →
      RecencyMap CacheKey (CacheEntry α) s.shardCapacity) :
    (s.modifyShard k f).shard k' = s.shard k' ∨
      (s.shard k' = s.shard k ∧ (s.modifyShard k f).shard k' = f (s.shard k)) := by
  rw [shard_modifyShard_eq, List.getElem?_modify]
  by_cases hk : s.shardIndex k = s.shardIndex k'
  · simp only [shard, hk, if_true]
    cases s.shards[s.shardIndex k']? with
    | none => exact Or.inl rfl
    | some m => exact Or.inr ⟨trivial, rfl⟩
  · left
    simp only [shard, hk, if_false]
    cases s.shards[s.shardIndex k']? <;> rfl

theorem peek?_modifyShard {s : Store α} {k k' : CacheKey} {e : CacheEntry α}
    {f : RecencyMap CacheKey (CacheEntry α) s.shardCapacity →
      RecencyMap CacheKey (CacheEntry α) s.shardCapacity}
    (h : (s.modifyShard k f).peek? k' = some e) :
    s.peek? k' = some e ∨ (s.shard k' = s.shard k ∧ (f (s.shard k)).peek? k' = some e) := by
  unfold peek? at h
  rcases s.shard_modifyShard k k' f with hs | ⟨hk, hs⟩
  · exact Or.inl (by rwa [hs] at h)
  · exact Or.inr ⟨hk, by rwa [hs] at h⟩

theorem peek?_get {s : Store α} {k k' : CacheKey} {e : CacheEntry α}
    (h : (s.get k).2.peek? k' = some e) : s.peek? k' = some e := by
  rcases peek?_modifyShard h with h | ⟨hs, h⟩
  · exact h
  · rw [RecencyMap.peek?_touch] at h
    rwa [peek?, hs]

theorem peek?_insert {s : Store α} {k k' : CacheKey} {e e' : CacheEntry α}
    (h : (s.insert k e).2.peek? k' = some e') :
    (k' = k ∧ e' = e) ∨ s.peek? k' = some e' := by
  rcases peek?_modifyShard h with h | ⟨hs, h⟩
  · exact Or.inr h
  · rcases RecencyMap.peek?_insert h with h | ⟨_, h⟩
    · exact Or.inl h
    · exact Or.inr (by rwa [peek?, hs])

theorem peek?_removeEntry {s : Store α} {k k' : CacheKey} {stamp : Nat} {e : CacheEntry α}
    (h : (s.removeEntry k stamp).2.peek? k' = some e) : s.peek? k' = some e := by
  unfold removeEntry at h
  split at h
  · rcases peek?_modifyShard h with h | ⟨hs, h⟩
    · exact h
    · rw [peek?, hs]
      exact RecencyMap.peek?_erase h
  · exact h

theorem peek?_clear (s : Store α) (k : CacheKey) : s.clear.2.peek? k = none := by
  have hs : s.clear.2.shard k =
      ((s.shards.map fun _ ↦ (.empty : RecencyMap CacheKey (CacheEntry α) s.shardCapacity))[
        s.clear.2.shardIndex k]?).getD .empty := rfl
  rw [peek?, hs, List.getElem?_map]
  cases s.shards[s.clear.2.shardIndex k]? <;> rfl

section Create

variable {capacity shards : Nat} {memory : Memory} {s : Store α}

theorem shardCount_pos (hpos : 0 < capacity) (shards : Nat) : 0 < shardCount capacity shards := by
  unfold shardCount
  omega

theorem shardCapacity_pos (hpos : 0 < capacity) (shards : Nat) :
    0 < capacity / shardCount capacity shards :=
  Nat.div_pos (Nat.min_le_right _ _) (shardCount_pos hpos shards)

/-- No shard is without room, so that only memory can keep a store from being created. -/
theorem create_eq (hpos : 0 < capacity) (shards : Nat) (memory : Memory) :
    create (α := α) capacity shards memory =
      if memory.holds (shardCount capacity shards) (capacity / shardCount capacity shards) then
        .ok ⟨capacity / shardCount capacity shards,
          List.replicate (shardCount capacity shards) .empty⟩
      else .error .outOfMemory := by
  rw [create, if_neg (Nat.ne_of_gt hpos)]
  exact if_neg (Nat.ne_of_gt (shardCapacity_pos hpos shards))

theorem create_unlimited (hpos : 0 < capacity) (shards : Nat) :
    create (α := α) capacity shards =
      .ok ⟨capacity / shardCount capacity shards,
        List.replicate (shardCount capacity shards) .empty⟩ :=
  create_eq hpos shards .unlimited

theorem create_eq_ok_iff : create capacity shards memory = .ok s ↔ 0 < capacity ∧
    memory.holds (shardCount capacity shards) (capacity / shardCount capacity shards) ∧
      s = ⟨capacity / shardCount capacity shards,
        List.replicate (shardCount capacity shards) .empty⟩ := by
  rcases Nat.eq_zero_or_pos capacity with rfl | hpos
  · simp [create]
  · rw [create_eq hpos]
    split <;> simp [*, eq_comm]

theorem shard_create (h : create capacity shards memory = .ok s) (k : CacheKey) :
    s.shard k = .empty := by
  obtain ⟨-, -, rfl⟩ := create_eq_ok_iff.mp h
  simp only [shard, List.getElem?_replicate]
  split <;> rfl

theorem peek?_create (h : create capacity shards memory = .ok s) (k : CacheKey) :
    s.peek? k = none := by
  rw [peek?, shard_create h]
  rfl

end Create

end Store

namespace ResultCache

variable {α : Type}

def Holds (c : ResultCache α) (k : CacheKey) (a : α) : Prop :=
  ∃ e, c.store.peek? k = some e ∧ e.value = a

theorem not_holds_create {config : CacheConfig} {filters : List RefreshFilter} {memory : Memory}
    {c : ResultCache α} (h : create config filters memory = .ok c) (k : CacheKey) (a : α) :
    ¬ c.Holds k a := by
  simp only [create, bind, Except.bind, pure, Except.pure] at h
  split at h
  · cases h
  · split at h
    · cases h
    · rename_i s hs
      cases h
      rintro ⟨e, he, -⟩
      rw [Store.peek?_create hs] at he
      cases he

theorem create_limits {config : CacheConfig} {filters : List RefreshFilter} {memory : Memory}
    {c : ResultCache α} (h : create config filters memory = .ok c) :
    c.config = config ∧ c.filters = filters := by
  simp only [create, bind, Except.bind, pure, Except.pure] at h
  split at h
  · cases h
  · split at h
    · cases h
    · cases h
      exact ⟨rfl, rfl⟩

/-- A lookup answers with a value that is held, and leaves no more than was held. -/
theorem lookup_cases (c : ResultCache α) (k : CacheKey) (now : Nat) :
    (∀ a, (c.lookup k now).1 = some a → c.Holds k a) ∧
    (∀ k' a, (c.lookup k now).2.Holds k' a → c.Holds k' a) ∧
    (c.lookup k now).2.generation = c.generation ∧
    (c.lookup k now).2.config = c.config ∧ (c.lookup k now).2.filters = c.filters := by
  unfold lookup
  split
  · rename_i store hg
    refine ⟨fun a h ↦ (by cases h), ?_, rfl, rfl, rfl⟩
    rintro k' a ⟨e, he, rfl⟩
    exact ⟨e, Store.peek?_get (k := k) (by rwa [hg]), rfl⟩
  · rename_i e store hg
    have hget : c.store.peek? k = some e := congrArg Prod.fst hg
    have hsub : ∀ k' e', store.peek? k' = some e' → c.store.peek? k' = some e' :=
      fun k' e' h ↦ Store.peek?_get (k := k) (by rwa [hg])
    split
    · have hrem : ∀ k' e', (store.removeEntry k e.stamp).2.peek? k' = some e' →
          c.store.peek? k' = some e' := fun k' e' h ↦ hsub k' e' (Store.peek?_removeEntry h)
      split
      all_goals
        rename_i hr
        rw [hr] at hrem
        refine ⟨fun a h ↦ (by cases h), ?_, rfl, rfl, rfl⟩
        rintro k' a ⟨e', he, rfl⟩
        exact ⟨e', hrem k' e' he, rfl⟩
    · refine ⟨fun a h ↦ ⟨e, hget, Option.some.inj h⟩, ?_, rfl, rfl, rfl⟩
      rintro k' a ⟨e', he, rfl⟩
      rcases Store.peek?_modifyShard he with he | ⟨hs, he⟩
      · exact ⟨e', hsub k' e' he, rfl⟩
      · rcases RecencyMap.peek?_insert he with ⟨rfl, rfl⟩ | ⟨-, he⟩
        · exact ⟨e, hget, rfl⟩
        · exact ⟨e', hsub k' e' (by rwa [Store.peek?, hs]), rfl⟩

/-- Keeping a result stores it only if the cache was not emptied meanwhile and its size is
within the limits. -/
theorem keep_cases [Sized α] (c : ResultCache α) (k : CacheKey) (a : α) (startedAt now : Nat) :
    (∀ k' a', (c.keep k a startedAt now).Holds k' a' → c.Holds k' a' ∨
      (k' = k ∧ a' = a ∧ c.generation = startedAt ∧ c.isBypassed a = false)) ∧
    (c.keep k a startedAt now).generation = c.generation ∧
    (c.keep k a startedAt now).config = c.config ∧
    (c.keep k a startedAt now).filters = c.filters := by
  unfold keep
  split
  · exact ⟨fun k' a' h ↦ Or.inl h, rfl, rfl, rfl⟩
  · rename_i hb
    split
    · exact ⟨fun k' a' h ↦ Or.inl h, rfl, rfl, rfl⟩
    · rename_i hg
      refine ⟨?_, rfl, rfl, rfl⟩
      rintro k' a' ⟨e, he, rfl⟩
      rcases Store.peek?_insert he with ⟨rfl, rfl⟩ | he
      · exact Or.inr ⟨rfl, rfl, not_not.mp hg, by simpa using hb⟩
      · exact Or.inl ⟨e, he, rfl⟩

theorem not_holds_invalidate (c : ResultCache α) (k : CacheKey) (a : α) :
    ¬ c.invalidate.Holds k a := by
  rintro ⟨e, he, -⟩
  rw [invalidate, Store.peek?_clear] at he
  cases he

theorem isBypassed_eq_false_iff [Sized α] (c : ResultCache α) (a : α) :
    c.isBypassed a = false ↔ ∀ n, Sized.size? a = some n →
      c.config.minSize ≤ n ∧ ∀ most, c.config.maxSize? = some most → n ≤ most := by
  unfold isBypassed CacheConfig.admits
  cases Sized.size? a with
  | none => simp
  | some n => cases c.config.maxSize? <;> simp

end ResultCache

end QueryCatalog
