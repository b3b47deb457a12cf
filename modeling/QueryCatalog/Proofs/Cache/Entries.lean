import QueryCatalog.Proofs.Cache.UseOrder

namespace QueryCatalog

namespace Store

variable {α : Type} {s : Store α} {k k' : CacheKey} {e : CacheEntry α}

/-- There is room in every shard, and every key is in the shard that its fingerprint names. -/
structure Sound (s : Store α) : Prop where
  shards_pos : 0 < s.shards.length
  room : 0 < s.shardCapacity
  placed : ∀ k, ∀ k' ∈ (s.shard k).keys, sameShard s.shards.length k k' = true

theorem shard_of_same (h : sameShard s.shards.length k' k = true) : s.shard k' = s.shard k := by
  have hindex : s.shardIndex k = s.shardIndex k' := beq_iff_eq.mp h
  rw [shard, shard, hindex]

section Modify

variable {f : RecencyMap CacheKey (CacheEntry α) s.shardCapacity →
  RecencyMap CacheKey (CacheEntry α) s.shardCapacity}

theorem Sound.modifyShard (h : s.Sound)
    (hf : ∀ k' ∈ (f (s.shard k)).keys, k' = k ∨ k' ∈ (s.shard k).keys) :
    (s.modifyShard k f).Sound where
  shards_pos := by
    rw [Store.modifyShard, List.length_modify]
    exact h.shards_pos
  room := h.room
  placed := by
    intro l k' hk'
    have hlength : (s.modifyShard k f).shards.length = s.shards.length := List.length_modify ..
    rw [hlength]
    cases hsame : sameShard s.shards.length l k with
    | true =>
      have hkeys : k' ∈ (f (s.shard k)).keys := by
        rw [← shard_modifyShard_of_same (f := f) h.shards_pos hsame]
        exact hk'
      rw [sameShard_eq_of_same hsame]
      rcases hf k' hkeys with rfl | hold
      · exact beq_self_eq_true _
      · exact h.placed k k' hold
    | false =>
      refine h.placed l k' ?_
      rw [← shard_modifyShard_of_not_same (f := f) hsame]
      exact hk'

theorem Sound.peek?_modifyShard (h : s.Sound)
    {g : CacheKey → Option (CacheEntry α) → Option (CacheEntry α)}
    (hf : ∀ k', (f (s.shard k)).peek? k' = g k' ((s.shard k).peek? k'))
    (hother : ∀ k' x, sameShard s.shards.length k' k = false → g k' x = x) (k' : CacheKey) :
    (s.modifyShard k f).peek? k' = g k' (s.peek? k') := by
  cases hsame : sameShard s.shards.length k' k with
  | true =>
    have hshard : (s.modifyShard k f).peek? k' = (f (s.shard k)).peek? k' :=
      congrArg (RecencyMap.peek? · k') (shard_modifyShard_of_same h.shards_pos hsame)
    rw [hshard, hf, peek?, shard_of_same hsame]
  | false =>
    have hshard : (s.modifyShard k f).peek? k' = (s.shard k').peek? k' :=
      congrArg (RecencyMap.peek? · k') (shard_modifyShard_of_not_same hsame)
    rw [hshard, hother k' _ hsame, peek?]

theorem ne_of_not_same {count : Nat} (h : sameShard count k' k = false) : k' ≠ k := by
  rintro rfl
  rw [sameShard, beq_self_eq_true] at h
  cases h

end Modify

theorem Sound.of_empty (hpos : 0 < s.shards.length) (hroom : 0 < s.shardCapacity)
    (hempty : ∀ k, s.shard k = .empty) : s.Sound where
  shards_pos := hpos
  room := hroom
  placed := by
    intro k k' hk'
    rw [hempty k] at hk'
    cases hk'

theorem Sound.create {capacity shards : Nat} {memory : Memory}
    (h : create capacity shards memory = .ok s) : s.Sound := by
  have hempty := shard_create h
  obtain ⟨hpos, -, rfl⟩ := create_eq_ok_iff.mp h
  refine .of_empty ?_ (shardCapacity_pos hpos shards) hempty
  rw [List.length_replicate]
  exact shardCount_pos hpos shards

theorem Sound.clear (h : s.Sound) : s.clear.2.Sound := by
  refine .of_empty ?_ h.room fun k ↦ ?_
  · rw [Store.clear, List.length_map]
    exact h.shards_pos
  · have hshard : s.clear.2.shard k =
        ((s.shards.map fun _ ↦ (.empty : RecencyMap CacheKey (CacheEntry α) s.shardCapacity))[
          s.clear.2.shardIndex k]?).getD .empty := rfl
    rw [hshard, List.getElem?_map]
    cases s.shards[s.clear.2.shardIndex k]? <;> rfl

theorem Sound.get (h : s.Sound) (k : CacheKey) :
    (s.get k).2.Sound ∧ ∀ k', (s.get k).2.peek? k' = s.peek? k' :=
  ⟨h.modifyShard fun _ hk' ↦ Or.inr (RecencyMap.mem_keys_of_touch hk'),
    h.peek?_modifyShard (g := fun _ x ↦ x) (RecencyMap.peek?_touch _ k) fun _ _ _ ↦ rfl⟩

theorem Sound.insert (h : s.Sound) (k : CacheKey) (e : CacheEntry α) :
    (s.insert k e).2.Sound ∧ ∀ k', (s.insert k e).2.peek? k' =
      if k' = k then some e else if (s.insert k e).1 = some k' then none else s.peek? k' := by
  refine ⟨h.modifyShard fun _ ↦ RecencyMap.mem_keys_of_insert, ?_⟩
  refine h.peek?_modifyShard
    (g := fun k' x ↦ if k' = k then some e else if (s.insert k e).1 = some k' then none else x)
    (fun k' ↦ RecencyMap.peek?_insert_eq h.room (s.shard k) k k' e) ?_
  intro k' x hother
  -- Room is made in the shard of the new key only.
  have hevicted : (s.insert k e).1 ≠ some k' := by
    intro hevicted
    have hmem := ((RecencyMap.evicted?_eq_some_iff h.room).mp hevicted).1
    rw [sameShard_comm, h.placed k k' hmem] at hother
    cases hother
  rw [if_neg (ne_of_not_same hother), if_neg hevicted]

/-- Nothing makes room for a new entry over an old one. -/
theorem insert_fst_of_held (hk : (s.peek? k).isSome) (e : CacheEntry α) :
    (s.insert k e).1 = none := by
  rw [Store.insert, RecencyMap.evicted?_of_mem (RecencyMap.mem_keys_iff.mpr hk)]
  rfl

theorem Sound.replace (h : s.Sound) (hk : (s.peek? k).isSome) (e : CacheEntry α) :
    (s.modifyShard k (·.insert k e)).Sound ∧ ∀ k', (s.modifyShard k (·.insert k e)).peek? k' =
      if k' = k then some e else s.peek? k' := by
  obtain ⟨hsound, hpeek⟩ := h.insert k e
  refine ⟨hsound, fun k' ↦ (hpeek k').trans ?_⟩
  rw [insert_fst_of_held hk, if_neg (Option.some_ne_none k').symm]

theorem removeEntry_of_peek? (hk : s.peek? k = some e) :
    s.removeEntry k e.stamp = (true, s.modifyShard k (·.erase k)) := by
  rw [removeEntry, hk, Option.any_some, beq_self_eq_true, if_pos rfl]

theorem Sound.removeEntry (h : s.Sound) (hk : s.peek? k = some e) :
    ∃ s' : Store α, s.removeEntry k e.stamp = (true, s') ∧ s'.Sound ∧
      ∀ k', s'.peek? k' = if k' = k then none else s.peek? k' := by
  refine ⟨s.modifyShard k (·.erase k), removeEntry_of_peek? hk, ?_, ?_⟩
  · exact h.modifyShard fun _ hk' ↦ Or.inr (RecencyMap.mem_keys_of_erase hk')
  · exact h.peek?_modifyShard (g := fun k' x ↦ if k' = k then none else x)
      (RecencyMap.peek?_erase_eq _ k) fun _ _ hother ↦ if_neg (ne_of_not_same hother)

end Store

namespace ResultCache

variable {α : Type} {c : ResultCache α}

/-- The ways a lookup can end, with its answer and the cache that it leaves. -/
inductive Looked (c : ResultCache α) (k : CacheKey) (now : Nat) :
    Option α → ResultCache α → Prop
  | absent {store : Store α} (habsent : c.store.peek? k = none)
      (hstore : ∀ k', store.peek? k' = c.store.peek? k') :
      Looked c k now none { c with store := store }
  | expired {e : CacheEntry α} {store : Store α} (hentry : c.store.peek? k = some e)
      (hexpired : isExpired c.config e now = true)
      (hstore : ∀ k', store.peek? k' = if k' = k then none else c.store.peek? k') :
      Looked c k now none { c with
        store := store
        counters := { c.counters with expirations := c.counters.expirations + 1 } }
  | answered {e : CacheEntry α} {store : Store α} (hentry : c.store.peek? k = some e)
      (hfresh : isExpired c.config e now = false)
      (hstore : ∀ k', store.peek? k' =
        if k' = k then some { e with lastUsed := max e.lastUsed now } else c.store.peek? k') :
      Looked c k now (some e.value) { c with
        store := store
        counters := { c.counters with hits := c.counters.hits + 1 } }

theorem lookup_looked (h : c.store.Sound) (k : CacheKey) (now : Nat) :
    (c.lookup k now).2.store.Sound ∧ Looked c k now (c.lookup k now).1 (c.lookup k now).2 := by
  obtain ⟨hsound, hget⟩ := h.get k
  have hfst : (c.store.get k).1 = c.store.peek? k := rfl
  unfold lookup
  revert hsound hget hfst
  generalize c.store.get k = found
  obtain ⟨e?, store⟩ := found
  intro hsound hget hfst
  cases e? with
  | none => exact ⟨hsound, .absent hfst.symm hget⟩
  | some e =>
    have hentry : store.peek? k = some e := (hget k).trans hfst.symm
    dsimp only
    cases hexpired : isExpired c.config e now with
    | true =>
      obtain ⟨store', hremove, hsound', hstore⟩ := hsound.removeEntry hentry
      rw [if_pos rfl, hremove]
      refine ⟨hsound', .expired hfst.symm hexpired fun k' ↦ ?_⟩
      rw [hstore, hget]
    | false =>
      obtain ⟨hsound', hstore⟩ := hsound.replace (Option.isSome_of_eq_some hentry)
        { e with lastUsed := max e.lastUsed now }
      refine ⟨hsound', .answered hfst.symm hexpired fun k' ↦ ?_⟩
      exact (hstore k').trans (by rw [hget])

end ResultCache

end QueryCatalog
