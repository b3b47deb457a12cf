import QueryCatalog.Proofs.Cache.Contents
import QueryCatalog.Proofs.LastUses

namespace QueryCatalog

inductive StoreCall (α : Type)
  | insert (key : CacheKey) (entry : CacheEntry α)
  | get (key : CacheKey)

inductive StoreSight (α : Type)
  | inserted (key : CacheKey) (entry : CacheEntry α)
  | found (key : CacheKey)
  | missed (key : CacheKey)

namespace StoreSight

variable {α : Type}

/-- An insertion uses its key, and so does a lookup that finds it. -/
def used? : StoreSight α → Option CacheKey
  | inserted key _ | found key => some key
  | missed _ => none

def uses (log : List (StoreSight α)) : List CacheKey := log.filterMap used?

def latest? (k : CacheKey) : List (StoreSight α) → Option (CacheEntry α)
  | [] => none
  | inserted key entry :: log => if key = k then some entry else latest? k log
  | _ :: log => latest? k log

theorem exists_inserted_of_latest? {k : CacheKey} {log : List (StoreSight α)} {e : CacheEntry α}
    (h : latest? k log = some e) : inserted k e ∈ log := by
  induction log with
  | nil => cases h
  | cons sight log ih =>
    cases sight with
    | inserted key entry =>
      rw [latest?] at h
      split at h
      · rename_i hkey
        cases h
        rw [hkey]
        exact List.mem_cons_self
      · exact List.mem_cons_of_mem _ (ih h)
    | found | missed => exact List.mem_cons_of_mem _ (ih h)

theorem mem_uses_of_inserted {k : CacheKey} {log : List (StoreSight α)} {e : CacheEntry α}
    (h : inserted k e ∈ log) : k ∈ uses log := List.mem_filterMap.mpr ⟨_, h, rfl⟩

end StoreSight

structure LoggedStore (α : Type) where
  store : Store α
  log : List (StoreSight α) := []

namespace LoggedStore

variable {α : Type}

def call (s : LoggedStore α) : StoreCall α → LoggedStore α
  | .insert key entry => ⟨(s.store.insert key entry).2, .inserted key entry :: s.log⟩
  | .get key =>
    match s.store.get key with
    | (some _, store) => ⟨store, .found key :: s.log⟩
    | (none, store) => ⟨store, .missed key :: s.log⟩

def run (s : LoggedStore α) (calls : List (StoreCall α)) : LoggedStore α := calls.foldl call s

end LoggedStore

def sameShard (count : Nat) (k k' : CacheKey) : Bool :=
  k'.fingerprint.toNat % count == k.fingerprint.toNat % count

/-- The other keys of its shard that were used since a key was used last. -/
def usedSince {α : Type} (count : Nat) (k : CacheKey) (log : List (StoreSight α)) :
    Finset CacheKey :=
  (((StoreSight.uses log).takeWhile (· ≠ k)).filter (sameShard count k)).toFinset

def shardUses {α : Type} (count : Nat) (k : CacheKey) (log : List (StoreSight α)) :
    List CacheKey := (StoreSight.uses log).filter (sameShard count k)

section Shards

variable {α : Type} {s : Store α} {k k' : CacheKey}
  {f : RecencyMap CacheKey (CacheEntry α) s.shardCapacity →
    RecencyMap CacheKey (CacheEntry α) s.shardCapacity}

theorem Store.shard_modifyShard_of_same (hpos : 0 < s.shards.length)
    (h : sameShard s.shards.length k' k = true) : (s.modifyShard k f).shard k' = f (s.shard k) := by
  have hindex : s.shardIndex k = s.shardIndex k' := beq_iff_eq.mp h
  have hlt : s.shardIndex k' < s.shards.length := Nat.mod_lt _ hpos
  rw [shard_modifyShard_eq, List.getElem?_modify]
  simp only [shard, hindex, if_true, List.getElem?_eq_getElem hlt]
  rfl

theorem Store.shard_modifyShard_of_not_same (h : sameShard s.shards.length k' k = false) :
    (s.modifyShard k f).shard k' = s.shard k' := by
  have hindex : s.shardIndex k ≠ s.shardIndex k' := beq_eq_false_iff_ne.mp h
  rw [shard_modifyShard_eq, List.getElem?_modify]
  simp only [shard, hindex, if_false]
  cases s.shards[s.shardIndex k']? <;> rfl

end Shards

theorem sameShard_comm (count : Nat) (k k' : CacheKey) :
    sameShard count k k' = sameShard count k' k := BEq.comm

theorem sameShard_eq_of_same {count : Nat} {k k' : CacheKey} (h : sameShard count k k' = true) :
    sameShard count k = sameShard count k' := by
  have hmod : k'.fingerprint.toNat % count = k.fingerprint.toNat % count := beq_iff_eq.mp h
  funext x
  rw [sameShard, sameShard, hmod]

section Uses

variable {α : Type} {count : Nat} {k k' : CacheKey} {log : List (StoreSight α)}

theorem shardUses_of_same (h : sameShard count k k' = true) :
    shardUses count k log = shardUses count k' log := by
  rw [shardUses, shardUses, sameShard_eq_of_same h]

theorem shardUses_cons_of_same {sight : StoreSight α} (hused : sight.used? = some k)
    (h : sameShard count k' k = true) :
    shardUses count k' (sight :: log) = k :: shardUses count k' log := by
  rw [shardUses, StoreSight.uses, List.filterMap_cons_some hused, List.filter_cons_of_pos h]
  rfl

theorem shardUses_cons_of_not_same {sight : StoreSight α} (hused : sight.used? = some k)
    (h : sameShard count k' k = false) :
    shardUses count k' (sight :: log) = shardUses count k' log := by
  rw [shardUses, StoreSight.uses, List.filterMap_cons_some hused,
    List.filter_cons_of_neg (by rw [h]; exact Bool.false_ne_true)]
  rfl

theorem length_takeWhile_shardUses (count : Nat) (k : CacheKey) (log : List (StoreSight α)) :
    ((lastUses (shardUses count k log)).takeWhile (· ≠ k)).length =
      (usedSince count k log).card := by
  rw [length_takeWhile_lastUses, usedSince, shardUses, takeWhile_filter]
  intro x hx
  have hk : x = k := by simpa using hx
  rw [hk]
  exact beq_self_eq_true _

end Uses

namespace LoggedStore

variable {α : Type} {count capacity : Nat} {s : LoggedStore α}

/-- Every shard holds the keys it used last, and under each of them the entry inserted last. -/
structure Tracks (count capacity : Nat) (s : LoggedStore α) : Prop where
  length_shards : s.store.shards.length = count
  shardCapacity_eq : s.store.shardCapacity = capacity
  keys : ∀ k, (s.store.shard k).keys = (lastUses (shardUses count k s.log)).take capacity
  latest : ∀ k e, s.store.peek? k = some e → StoreSight.latest? k s.log = some e

theorem Tracks.keys_use (h : Tracks count capacity s) (hcount : 0 < count) {k : CacheKey}
    (sight : StoreSight α) (hused : sight.used? = some k)
    {f : RecencyMap CacheKey (CacheEntry α) s.store.shardCapacity →
      RecencyMap CacheKey (CacheEntry α) s.store.shardCapacity}
    (hf : (f (s.store.shard k)).keys =
      (k :: (s.store.shard k).keys.filter (· ≠ k)).take capacity) (k' : CacheKey) :
    ((s.store.modifyShard k f).shard k').keys =
      (lastUses (shardUses count k' (sight :: s.log))).take capacity := by
  have hlength := h.length_shards
  cases hsame : sameShard count k' k with
  | true =>
    have hshard : ((s.store.modifyShard k f).shard k').keys = (f (s.store.shard k)).keys :=
      congrArg RecencyMap.keys
        (Store.shard_modifyShard_of_same (by omega) (by rwa [hlength]))
    rw [hshard, hf, h.keys k, shardUses_cons_of_same hused hsame, shardUses_of_same hsame]
    exact take_cons_filter_take (nodup_lastUses _) k capacity
  | false =>
    have hshard : ((s.store.modifyShard k f).shard k').keys = (s.store.shard k').keys :=
      congrArg RecencyMap.keys (Store.shard_modifyShard_of_not_same (by rwa [hlength]))
    rw [hshard, h.keys k', shardUses_cons_of_not_same hused hsame]

theorem Tracks.insert (h : Tracks count capacity s) (hcount : 0 < count) (k : CacheKey)
    (e : CacheEntry α) : Tracks count capacity (s.call (.insert k e)) where
  length_shards := (List.length_modify ..).trans h.length_shards
  shardCapacity_eq := h.shardCapacity_eq
  keys := by
    refine h.keys_use hcount (.inserted k e) rfl ?_
    exact (RecencyMap.keys_insert ..).trans (congrArg (List.take · _) h.shardCapacity_eq)
  latest := by
    intro k' e' he'
    have hlength := h.length_shards
    rw [call, StoreSight.latest?]
    by_cases hk : k = k'
    · subst hk
      rw [if_pos rfl]
      have hshard : (s.store.insert k e).2.peek? k = ((s.store.shard k).insert k e).peek? k :=
        congrArg (RecencyMap.peek? · k)
          (Store.shard_modifyShard_of_same (by omega) (beq_self_eq_true _))
      have hpeek := hshard.symm.trans he'
      rcases RecencyMap.peek?_insert hpeek with ⟨-, rfl⟩ | ⟨hne, -⟩
      · rfl
      · exact absurd rfl hne
    · rw [if_neg hk]
      rcases Store.peek?_insert he' with ⟨heq, -⟩ | hold
      · exact absurd heq.symm hk
      · exact h.latest k' e' hold

theorem Tracks.get (h : Tracks count capacity s) (hcount : 0 < count) (k : CacheKey) :
    Tracks count capacity (s.call (.get k)) := by
  have hlatest : ∀ k' e, (s.store.get k).2.peek? k' = some e →
      StoreSight.latest? k' s.log = some e := fun k' e he ↦ h.latest k' e (Store.peek?_get he)
  rw [call]
  split
  · rename_i e store hget
    obtain rfl : (s.store.get k).2 = store := congrArg Prod.snd hget
    have hmem : k ∈ (s.store.shard k).keys :=
      RecencyMap.mem_keys_iff.mpr (Option.isSome_of_eq_some (congrArg Prod.fst hget))
    refine ⟨(List.length_modify ..).trans h.length_shards, h.shardCapacity_eq, ?_, hlatest⟩
    refine h.keys_use hcount (.found k) rfl ?_
    exact (RecencyMap.keys_touch_eq_take hmem).trans
      (congrArg (List.take · _) h.shardCapacity_eq)
  · rename_i store hget
    obtain rfl : (s.store.get k).2 = store := congrArg Prod.snd hget
    have hnone : k ∉ (s.store.shard k).keys := by
      rw [RecencyMap.mem_keys_iff]
      have hpeek : (s.store.shard k).peek? k = none := congrArg Prod.fst hget
      simp [hpeek]
    refine ⟨(List.length_modify ..).trans h.length_shards, h.shardCapacity_eq, ?_, hlatest⟩
    intro k'
    have hsame : (s.store.get k).2.shard k' = s.store.shard k' := by
      rcases s.store.shard_modifyShard k k' (·.touch k) with hshard | ⟨hk, hshard⟩
      · exact hshard
      · rw [RecencyMap.touch_of_notMem hnone, ← hk] at hshard
        exact hshard
    rw [hsame]
    exact h.keys k'

theorem Tracks.run (h : Tracks count capacity s) (hcount : 0 < count)
    (calls : List (StoreCall α)) : Tracks count capacity (s.run calls) := by
  induction calls generalizing s with
  | nil => exact h
  | cons c calls ih =>
    cases c with
    | insert k e => exact ih (h.insert hcount k e)
    | get k => exact ih (h.get hcount k)

theorem Tracks.isSome_peek?_iff (h : Tracks count capacity s) (k : CacheKey) :
    (s.store.peek? k).isSome ↔
      (∃ e, .inserted k e ∈ s.log) ∧ (usedSince count k s.log).card < capacity := by
  have hkeys : k ∈ (s.store.shard k).keys ↔
      k ∈ StoreSight.uses s.log ∧ (usedSince count k s.log).card < capacity := by
    rw [h.keys k, mem_take_iff, mem_lastUses, length_takeWhile_shardUses, shardUses,
      List.mem_filter, sameShard, beq_self_eq_true, eq_self_iff_true, and_true]
  rw [Store.peek?, ← RecencyMap.mem_keys_iff]
  constructor
  · intro hk
    obtain ⟨e, he⟩ := Option.isSome_iff_exists.mp (RecencyMap.mem_keys_iff.mp hk)
    exact ⟨⟨e, StoreSight.exists_inserted_of_latest? (h.latest k e he)⟩, (hkeys.mp hk).2⟩
  · rintro ⟨⟨e, he⟩, hcard⟩
    exact hkeys.mpr ⟨StoreSight.mem_uses_of_inserted he, hcard⟩

theorem Tracks.same_of_mem (h : Tracks count capacity s) {k k' : CacheKey}
    (hmem : k' ∈ (s.store.shard k).keys) : sameShard count k k' = true := by
  rw [h.keys k] at hmem
  have huse := mem_lastUses.mp (List.mem_of_mem_take hmem)
  exact (List.mem_filter.mp huse).2

/-- An insertion returns the key that it makes absent. -/
theorem Tracks.evicted_iff (h : Tracks count capacity s) (hcount : 0 < count)
    (hcapacity : 0 < capacity) (k k' : CacheKey) (e : CacheEntry α) :
    (s.store.insert k e).1 = some k' ↔
      (s.store.peek? k').isSome ∧ (s.store.insert k e).2.peek? k' = none := by
  have hlength := h.length_shards
  have hpos : 0 < s.store.shardCapacity := h.shardCapacity_eq ▸ hcapacity
  have hevicted : (s.store.insert k e).1 = some k' ↔ k' ∈ (s.store.shard k).keys ∧
      k' ∉ ((s.store.shard k).insert k e).keys := RecencyMap.evicted?_eq_some_iff hpos
  rw [hevicted, ← Option.not_isSome_iff_eq_none, Store.peek?, ← RecencyMap.mem_keys_iff,
    Store.peek?, ← RecencyMap.mem_keys_iff]
  cases hsame : sameShard count k' k with
  | true =>
    have hbefore : (s.store.shard k').keys = (s.store.shard k).keys := by
      rw [h.keys, h.keys, shardUses_of_same hsame]
    have hafter : ((s.store.insert k e).2.shard k').keys =
        ((s.store.shard k).insert k e).keys :=
      congrArg RecencyMap.keys (Store.shard_modifyShard_of_same (by omega) (by rwa [hlength]))
    rw [hbefore, hafter]
  | false =>
    have hafter : ((s.store.insert k e).2.shard k').keys = (s.store.shard k').keys :=
      congrArg RecencyMap.keys (Store.shard_modifyShard_of_not_same (by rwa [hlength]))
    rw [hafter]
    constructor
    · rintro ⟨hmem, -⟩
      have hsame' := h.same_of_mem hmem
      rw [sameShard_comm, hsame] at hsame'
      cases hsame'
    · rintro ⟨hmem, hgone⟩
      exact absurd hmem hgone

/-- What a caller may rely on: `count` shards with room for `capacity` keys each hold the keys that
were used last. -/
structure HoldsRecent (count capacity : Nat) (s : LoggedStore α) : Prop where
  present : ∀ k, (s.store.peek? k).isSome ↔
    (∃ e, .inserted k e ∈ s.log) ∧ (usedSince count k s.log).card < capacity
  get : ∀ k, (s.store.get k).1 = s.store.peek? k
  latest : ∀ k e, (s.store.get k).1 = some e → StoreSight.latest? k s.log = some e
  evicted : ∀ k e k', (s.store.insert k e).1 = some k' ↔
    (s.store.peek? k').isSome ∧ (s.store.insert k e).2.peek? k' = none
  replaced : ∀ k e, (s.store.peek? k).isSome → (s.store.insert k e).1 = none

theorem Tracks.holdsRecent (h : Tracks count capacity s) (hcount : 0 < count)
    (hcapacity : 0 < capacity) : HoldsRecent count capacity s where
  present := h.isSome_peek?_iff
  get _ := rfl
  latest := h.latest
  evicted k e k' := h.evicted_iff hcount hcapacity k k' e
  replaced k e hk := by
    have hmem : k ∈ (s.store.shard k).keys := RecencyMap.mem_keys_iff.mpr hk
    rw [Store.insert, RecencyMap.evicted?_of_mem hmem]
    rfl

end LoggedStore

theorem create_tracks {α : Type} {capacity : Nat} (hpos : 0 < capacity) (shards : Nat) :
    ∃ store : Store α, Store.create capacity shards = .ok store ∧
      LoggedStore.Tracks (Store.shardCount capacity shards)
        (capacity / Store.shardCount capacity shards) ⟨store, []⟩ := by
  have hcreate := Store.create_unlimited (α := α) hpos shards
  refine ⟨_, hcreate, List.length_replicate, rfl, ?_, ?_⟩
  · intro k
    have hunused : lastUses (shardUses (α := α) (Store.shardCount capacity shards) k []) = [] := rfl
    rw [hunused, List.take_nil]
    simp only [Store.shard, List.getElem?_replicate]
    split <;> rfl
  · intro k e he
    rw [Store.peek?_create hcreate] at he
    cases he

/-- With one shard the recency of the whole store counts. -/
theorem store_holds_recent {α : Type} {capacity : Nat} (hpos : 0 < capacity) (shards : Nat) :
    ∃ store : Store α, Store.create capacity shards = .ok store ∧
      ∀ calls : List (StoreCall α),
        let s := LoggedStore.run ⟨store, []⟩ calls
        s.HoldsRecent (Store.shardCount capacity shards)
          (capacity / Store.shardCount capacity shards) ∧
        (shards ≤ 1 → ∀ k, (s.store.peek? k).isSome ↔ (∃ e, .inserted k e ∈ s.log) ∧
          ((StoreSight.uses s.log).takeWhile (· ≠ k)).toFinset.card < capacity) := by
  have hcount := Store.shardCount_pos hpos shards
  have hcapacity := Store.shardCapacity_pos hpos shards
  obtain ⟨store, hcreate, hnew⟩ := create_tracks (α := α) hpos shards
  refine ⟨store, hcreate, fun calls ↦ ?_⟩
  have htracks := hnew.run hcount calls
  refine ⟨htracks.holdsRecent hcount hcapacity, fun hone k ↦ ?_⟩
  have hshards : Store.shardCount capacity shards = 1 := by
    unfold Store.shardCount
    omega
  have hall : ∀ log : List (StoreSight α),
      usedSince 1 k log = ((StoreSight.uses log).takeWhile (· ≠ k)).toFinset := by
    intro log
    rw [usedSince, List.filter_eq_self.mpr]
    intro x _
    simp [sameShard, Nat.mod_one]
  have hpresent := htracks.isSome_peek?_iff k
  rwa [hshards, Nat.div_one, hall] at hpresent

def keyNamed (args : String) : CacheKey := ⟨"find", args⟩

/-- A store of two entries forgets the one that was not looked up before the third came. -/
theorem store_of_two_holds_recent :
    ∃ store : Store Nat, Store.create 2 1 = .ok store ∧
      let s := LoggedStore.run ⟨store, []⟩
        [.insert (keyNamed "a") ⟨0, 7, 0, 0⟩, .insert (keyNamed "b") ⟨1, 8, 0, 0⟩,
          .get (keyNamed "a"), .get (keyNamed "c")]
      s.HoldsRecent 1 2 ∧ (s.store.insert (keyNamed "c") ⟨2, 9, 0, 0⟩).1 = some (keyNamed "b") ∧
        usedSince 1 (keyNamed "b") s.log = {keyNamed "a"} := by
  obtain ⟨store, hcreate, hstore⟩ := store_holds_recent (α := Nat) (show 0 < 2 by decide) 1
  refine ⟨store, hcreate, (hstore _).1, ?_⟩
  cases hcreate
  exact ⟨by decide +kernel, by decide +kernel⟩

end QueryCatalog
