import QueryCatalog.Proofs.Cache.Entries
import QueryCatalog.Proofs.Cache.Interleaving

namespace QueryCatalog

inductive CacheEvent (α : Type)
  | looked (key : CacheKey) (time : Nat) (answer? : Option α) (before after : ResultCache α)
  /-- A result is stored, and the given key makes room for it. -/
  | stored (key : CacheKey) (value : α) (time : Nat) (evicted? : Option CacheKey)
  | emptied
  | moved (before after : Nat)

def CacheEvent.isForward {α : Type} : CacheEvent α → Bool
  | moved before after => before ≤ after
  | _ => true

/-- An entry as its history tells: its value, and when it was stored and used last. -/
structure Held (α : Type) where
  value : α
  storedAt : Nat
  usedAt : Nat

namespace Held

variable {α : Type} {config : CacheConfig} {k : CacheKey} {log : List (CacheEvent α)}

def ofEntry (e : CacheEntry α) : Held α := ⟨e.value, e.createdAt, e.lastUsed⟩

structure Fresh (config : CacheConfig) (now : Nat) (h : Held α) : Prop where
  live : config.liveTime = 0 ∨ now - h.storedAt < config.liveTime
  idle : config.idleTime = 0 ∨ now - h.usedAt < config.idleTime

/-- What an event leaves of the entry of a key. A lookup without an answer leaves nothing. -/
def next (k : CacheKey) (held? : Option (Held α)) : CacheEvent α → Option (Held α)
  | .looked key time (some _) _ _ =>
    if k = key then held?.map fun h ↦ { h with usedAt := time } else held?
  | .looked key _ none _ _ => if k = key then none else held?
  | .stored key value time evicted? =>
    if k = key then some ⟨value, time, time⟩ else if evicted? = some k then none else held?
  | .emptied => none
  | .moved _ _ => held?

def after? (k : CacheKey) (log : List (CacheEvent α)) : Option (Held α) := log.foldl (next k) none

theorem after?_concat (event : CacheEvent α) :
    after? k (log ++ [event]) = next k (after? k log) event := by
  rw [after?, List.foldl_append]
  rfl

theorem fresh_ofEntry_iff {e : CacheEntry α} {now : Nat} :
    (ofEntry e).Fresh config now ↔ ResultCache.isExpired config e now = false := by
  have hlive : (0 < config.liveTime && config.liveTime ≤ now - e.createdAt) = false ↔
      config.liveTime = 0 ∨ now - e.createdAt < config.liveTime := by
    rw [Bool.and_eq_false_iff, decide_eq_false_iff_not, decide_eq_false_iff_not]
    omega
  have hidle : (0 < config.idleTime && config.idleTime ≤ now - e.lastUsed) = false ↔
      config.idleTime = 0 ∨ now - e.lastUsed < config.idleTime := by
    rw [Bool.and_eq_false_iff, decide_eq_false_iff_not, decide_eq_false_iff_not]
    omega
  rw [ResultCache.isExpired, Bool.or_eq_false_iff, hlive, hidle]
  exact ⟨fun h ↦ ⟨h.live, h.idle⟩, fun h ↦ ⟨h.1, h.2⟩⟩

theorem stored_of_after? {h : Held α} (hh : after? k log = some h) :
    ∃ evicted?, .stored k h.value h.storedAt evicted? ∈ log := by
  -- From the last event back: it stored the entry, or kept the value and time of an earlier one.
  induction log using List.reverseRecOn generalizing h with
  | nil => cases hh
  | append_singleton log event ih =>
    have hearlier {h : Held α} (hh : after? k log = some h) :
        ∃ evicted?, .stored k h.value h.storedAt evicted? ∈ log ++ [event] := by
      obtain ⟨evicted?, hmem⟩ := ih hh
      exact ⟨evicted?, List.mem_append_left _ hmem⟩
    rw [after?_concat] at hh
    cases event with
    | looked key time answer? before after =>
      cases answer? with
      | none =>
        rw [next] at hh
        split at hh
        · cases hh
        · exact hearlier hh
      | some a =>
        rw [next] at hh
        split at hh
        · obtain ⟨h', hh', rfl⟩ := Option.map_eq_some_iff.mp hh
          exact hearlier (h := h') hh'
        · exact hearlier hh
    | stored key value time evicted? =>
      rw [next] at hh
      split_ifs at hh with hk
      · cases hh
        exact ⟨evicted?, List.mem_append_right _ (hk ▸ List.mem_singleton_self _)⟩
      · exact hearlier hh
    | emptied => cases hh
    | moved before after => exact hearlier hh

end Held

namespace ResultCache

variable {α : Type}

def lookupEvent (c : ResultCache α) (k : CacheKey) (now : Nat) : CacheEvent α :=
  .looked k now (c.lookup k now).1 c (c.lookup k now).2

def storeEvents [Sized α] (c : ResultCache α) (k : CacheKey) (outcome : Result α)
    (startedAt now : Nat) : List (CacheEvent α) :=
  match outcome with
  | .error _ => []
  | .ok a =>
    if c.isBypassed a = true ∨ c.generation ≠ startedAt then []
    else [.stored k a now (c.store.insert k ⟨c.nextStamp, a, now, now⟩).1]

end ResultCache

/-- A history explains a cache: its entries are those that the history leaves, with times up to
now. -/
structure Explains {α : Type} (config : CacheConfig) (log : List (CacheEvent α)) (c : ResultCache α)
    (now : Nat) : Prop where
  sound : c.store.Sound
  config_eq : c.config = config
  entries : ∀ k, (c.store.peek? k).map .ofEntry = Held.after? k log
  times : ∀ k h, Held.after? k log = some h → h.storedAt ≤ h.usedAt ∧ h.usedAt ≤ now

/-- A lookup behind the given events answers as they say, and touches the entry of its key only. -/
structure ExactLookup {α : Type} (config : CacheConfig) (earlier : List (CacheEvent α))
    (k : CacheKey) (now : Nat) (answer? : Option α) (before after : ResultCache α) : Prop where
  held : (before.store.peek? k).map .ofEntry = Held.after? k earlier
  times : ∀ h, Held.after? k earlier = some h → h.storedAt ≤ h.usedAt ∧ h.usedAt ≤ now ∧
    ∃ evicted?, .stored k h.value h.storedAt evicted? ∈ earlier
  answered : ∀ a, answer? = some a ↔
    ∃ h, Held.after? k earlier = some h ∧ h.value = a ∧ h.Fresh config now
  others : ∀ k', k' ≠ k → after.store.peek? k' = before.store.peek? k'
  hit : answer?.isSome → (after.store.peek? k).isSome ∧
    after.counters = { before.counters with hits := before.counters.hits + 1 }
  expired : ∀ h, Held.after? k earlier = some h → ¬ h.Fresh config now →
    after.store.peek? k = none ∧
      after.counters = { before.counters with expirations := before.counters.expirations + 1 }
  absent : Held.after? k earlier = none → after.counters = before.counters

namespace Explains

open ResultCache

variable {α : Type} {config : CacheConfig} {log : List (CacheEvent α)} {c : ResultCache α}
  {now : Nat}

theorem entry (h : Explains config log c now) {k : CacheKey} {e : CacheEntry α}
    (he : c.store.peek? k = some e) : Held.after? k log = some (.ofEntry e) := by
  rw [← h.entries, he, Option.map_some]

theorem absent (h : Explains config log c now) {k : CacheKey} (hk : c.store.peek? k = none) :
    Held.after? k log = none := by
  rw [← h.entries, hk, Option.map_none]

theorem next (h : Explains config log c now) {c' : ResultCache α} {event : CacheEvent α}
    {now' : Nat} (hsound : c'.store.Sound) (hconfig : c'.config = c.config)
    (hentries : ∀ k, (c'.store.peek? k).map .ofEntry = Held.next k (Held.after? k log) event)
    (htimes : ∀ k h, Held.next k (Held.after? k log) event = some h →
      h.storedAt ≤ h.usedAt ∧ h.usedAt ≤ now') :
    Explains config (log ++ [event]) c' now' where
  sound := hsound
  config_eq := hconfig.trans h.config_eq
  entries := fun k ↦ (hentries k).trans (Held.after?_concat event).symm
  times := by
    intro k held hheld
    rw [Held.after?_concat] at hheld
    exact htimes k held hheld

theorem times_stored (h : Explains config log c now) (k : CacheKey) (held : Held α)
    (hheld : Held.after? k log = some held) : held.storedAt ≤ held.usedAt ∧ held.usedAt ≤ now ∧
      ∃ evicted?, .stored k held.value held.storedAt evicted? ∈ log :=
  ⟨(h.times k held hheld).1, (h.times k held hheld).2, Held.stored_of_after? hheld⟩

section Looked

variable {k : CacheKey} {answer? : Option α} {after : ResultCache α}

theorem times_looked (h : Explains config log c now) (k' : CacheKey) (held : Held α)
    (hheld : Held.next k' (Held.after? k' log) (.looked k now answer? c after) = some held) :
    held.storedAt ≤ held.usedAt ∧ held.usedAt ≤ now := by
  cases answer? with
  | none =>
    rw [Held.next] at hheld
    split at hheld
    · cases hheld
    · exact h.times k' held hheld
  | some a =>
    rw [Held.next] at hheld
    split at hheld
    · obtain ⟨old, hold, rfl⟩ := Option.map_eq_some_iff.mp hheld
      obtain ⟨hstored, hused⟩ := h.times k' old hold
      exact ⟨hstored.trans hused, Nat.le_refl now⟩
    · exact h.times k' held hheld

theorem next_looked (h : Explains config log c now) (hsound : after.store.Sound)
    (hconfig : after.config = c.config) (e? : Option (CacheEntry α))
    (hstore : ∀ k', after.store.peek? k' = if k' = k then e? else c.store.peek? k')
    (hkey : e?.map .ofEntry = Held.next k (Held.after? k log) (.looked k now answer? c after)) :
    Explains config (log ++ [.looked k now answer? c after]) after now := by
  refine h.next hsound hconfig (fun k' ↦ ?_) h.times_looked
  rw [hstore]
  by_cases hk : k' = k
  · rw [if_pos hk, hk, hkey]
  · rw [if_neg hk, h.entries]
    cases answer? with
    | none => rw [Held.next, if_neg hk]
    | some a => rw [Held.next, if_neg hk]

end Looked

theorem looked (h : Explains config log c now) (k : CacheKey) :
    Explains config (log ++ [c.lookupEvent k now]) (c.lookup k now).2 now ∧
      ExactLookup config log k now (c.lookup k now).1 c (c.lookup k now).2 := by
  obtain ⟨hsound, hlooked⟩ := lookup_looked h.sound k now
  rw [lookupEvent]
  -- From here on the answer and the cache behind it are known by `Looked` only.
  revert hsound hlooked
  generalize (c.lookup k now).1 = answer?, (c.lookup k now).2 = after
  intro hsound hlooked
  cases hlooked with
  | absent habsent hstore =>
    have hnone := h.absent habsent
    constructor
    · refine h.next_looked hsound rfl none (fun k' ↦ ?_) ?_
      · rw [hstore]
        split
        · rename_i hk
          rw [hk, habsent]
        · rfl
      · rw [Held.next, if_pos rfl, Option.map_none]
    · exact {
        held := h.entries k
        times := h.times_stored k
        answered := by simp [hnone]
        others := fun k' _ ↦ hstore k'
        hit := nofun
        expired := by simp [hnone]
        absent := fun _ ↦ rfl }
  | @expired e store hentry hexpired hstore =>
    have hheld := h.entry hentry
    have hstale : ¬ (Held.ofEntry e).Fresh config now := by
      rw [Held.fresh_ofEntry_iff, ← h.config_eq, hexpired]
      exact Bool.noConfusion
    constructor
    · refine h.next_looked hsound rfl _ hstore ?_
      rw [Held.next, if_pos rfl, Option.map_none]
    · exact {
        held := h.entries k
        times := h.times_stored k
        answered := by simp [hheld, hstale]
        others := fun k' hk ↦ (hstore k').trans (if_neg hk)
        hit := nofun
        expired := fun _ _ _ ↦ ⟨(hstore k).trans (if_pos rfl), rfl⟩
        absent := by simp [hheld] }
  | @answered e store hentry hfresh hstore =>
    have hheld := h.entry hentry
    have hfresh' : (Held.ofEntry e).Fresh config now := by
      rw [Held.fresh_ofEntry_iff, ← h.config_eq, hfresh]
    have hused : e.lastUsed ≤ now := (h.times k _ hheld).2
    constructor
    · refine h.next_looked hsound rfl _ hstore ?_
      rw [Held.next, if_pos rfl, hheld, Option.map_some, Option.map_some, Nat.max_eq_right hused]
      rfl
    · exact {
        held := h.entries k
        times := h.times_stored k
        answered := by
          intro a
          constructor
          · intro ha
            exact ⟨.ofEntry e, hheld, Option.some.inj ha, hfresh'⟩
          · rintro ⟨held, hh, rfl, -⟩
            rw [hheld] at hh
            cases hh
            rfl
        others := fun k' hk ↦ (hstore k').trans (if_neg hk)
        hit := fun _ ↦ ⟨Option.isSome_of_eq_some ((hstore k).trans (if_pos rfl)), rfl⟩
        expired := by simp [hheld, hfresh']
        absent := by simp [hheld] }

theorem countMiss (h : Explains config log c now) : Explains config log c.countMiss now :=
  ⟨h.sound, h.config_eq, h.entries, h.times⟩

theorem moved (h : Explains config log c now) {later : Nat} (hlater : now ≤ later) :
    Explains config (log ++ [.moved now later]) c later :=
  h.next h.sound rfl h.entries fun k held hheld ↦
    ⟨(h.times k held hheld).1, (h.times k held hheld).2.trans hlater⟩

theorem emptied (h : Explains config log c now) :
    Explains config (log ++ [.emptied]) c.invalidate now := by
  refine h.next h.sound.clear rfl (fun k ↦ ?_) fun _ _ hheld ↦ by cases hheld
  show (c.store.clear.2.peek? k).map _ = none
  rw [Store.peek?_clear]
  rfl

theorem settled [Sized α] (h : Explains config log c now) (k : CacheKey) (outcome : Result α)
    (startedAt : Nat) : Explains config (log ++ c.storeEvents k outcome startedAt now)
      (c.settle k outcome startedAt now) now := by
  have hsame : Explains config (log ++ []) c now := by rwa [List.append_nil]
  cases outcome with
  | error e => exact hsame
  | ok a =>
    rw [storeEvents, settle, keep]
    by_cases hbypassed : c.isBypassed a = true
    · rw [if_pos (Or.inl hbypassed), if_pos hbypassed]
      exact ⟨hsame.sound, hsame.config_eq, hsame.entries, hsame.times⟩
    by_cases hcurrent : c.generation ≠ startedAt
    · rwa [if_pos (Or.inr hcurrent), if_neg hbypassed, if_pos hcurrent]
    · rw [if_neg (not_or.mpr ⟨hbypassed, hcurrent⟩), if_neg hbypassed, if_neg hcurrent]
      obtain ⟨hsound, hstore⟩ := h.sound.insert k ⟨c.nextStamp, a, now, now⟩
      refine h.next hsound rfl (fun k' ↦ ?_) ?_
      · rw [hstore, Held.next]
        split_ifs
        · rfl
        · rfl
        · exact h.entries k'
      · intro k' held hheld
        rw [Held.next] at hheld
        split_ifs at hheld
        · cases hheld
          exact ⟨Nat.le_refl now, Nat.le_refl now⟩
        · exact h.times k' held hheld

end Explains

/-- Events that lead from one cache and time to another, with lookups that are exact behind whatever
history explains the first cache. -/
def Leads {α : Type} (config : CacheConfig) (events : List (CacheEvent α)) (c : ResultCache α)
    (now : Nat) (c' : ResultCache α) (now' : Nat) : Prop :=
  (∀ event ∈ events, event.isForward = true) →
    ∀ log, Explains config log c now → Explains config (log ++ events) c' now' ∧
      ∀ earlier later k time answer? before after,
        events = earlier ++ .looked k time answer? before after :: later →
        ExactLookup config (log ++ earlier) k time answer? before after

namespace Leads

variable {α : Type} {config : CacheConfig} {events events' : List (CacheEvent α)}
  {c c' c'' : ResultCache α} {now now' now'' : Nat}

theorem none (h : ∀ log, Explains config log c now → Explains config log c' now') :
    Leads config [] c now c' now' := by
  intro _ log hlog
  rw [List.append_nil]
  refine ⟨h log hlog, ?_⟩
  intro earlier later k time answer? before after hsplit
  simp at hsplit

theorem one {event : CacheEvent α}
    (h : event.isForward = true →
      ∀ log, Explains config log c now → Explains config (log ++ [event]) c' now' ∧
        ∀ k time answer? before after, event = .looked k time answer? before after →
          ExactLookup config log k time answer? before after) :
    Leads config [event] c now c' now' := by
  intro hforward log hlog
  obtain ⟨hnext, hexact⟩ :=
    h (hforward event (List.mem_singleton_self _)) log hlog
  refine ⟨hnext, ?_⟩
  intro earlier later k time answer? before after hsplit
  cases earlier with
  | nil =>
    rw [List.append_nil]
    exact hexact k time answer? before after (List.cons.inj hsplit).1
  | cons first earlier => simp at hsplit

theorem trans (h : Leads config events c now c' now')
    (h' : Leads config events' c' now' c'' now'') :
    Leads config (events ++ events') c now c'' now'' := by
  intro hforward log hlog
  obtain ⟨hmid, hexact⟩ := h (fun event hm ↦ hforward event (List.mem_append_left _ hm)) log hlog
  obtain ⟨hend, hexact'⟩ := h' (fun event hm ↦ hforward event (List.mem_append_right _ hm)) _ hmid
  rw [List.append_assoc] at hend
  refine ⟨hend, ?_⟩
  intro earlier later k time answer? before after hsplit
  rcases List.append_eq_append_iff.mp hsplit with ⟨mid, rfl, hlater⟩ | ⟨mid, hearlier, hlater⟩
  · rw [← List.append_assoc]
    exact hexact' mid later k time answer? before after hlater
  · -- At the border the lookup is the first of the events that follow.
    cases mid with
    | nil =>
      rw [List.append_nil] at hearlier
      have hfirst := hexact' [] later k time answer? before after hlater.symm
      rwa [List.append_nil, hearlier] at hfirst
    | cons event mid =>
      obtain ⟨rfl, -⟩ := List.cons.inj hlater
      exact hexact earlier mid k time answer? before after hearlier

theorem lookup (k : CacheKey) :
    Leads config [c.lookupEvent k now] c now (c.lookup k now).2 now :=
  one fun _ log hlog ↦ by
    obtain ⟨hnext, hexact⟩ := hlog.looked k
    refine ⟨hnext, ?_⟩
    rintro _ _ _ _ _ ⟨⟩
    exact hexact

theorem countMiss : Leads config [] c now c.countMiss now := none fun _ hlog ↦ hlog.countMiss

theorem emptied : Leads config [.emptied] c now c.invalidate now :=
  one fun _ _ hlog ↦ ⟨hlog.emptied, nofun⟩

theorem moved (later : Nat) : Leads config [.moved now later] c now c later :=
  one fun hforward _ hlog ↦ ⟨hlog.moved (of_decide_eq_true hforward), nofun⟩

theorem settled [Sized α] (k : CacheKey) (outcome : Result α) (startedAt : Nat) :
    Leads config (c.storeEvents k outcome startedAt now) c now (c.settle k outcome startedAt now)
      now := by
  intro _ log hlog
  refine ⟨hlog.settled k outcome startedAt, ?_⟩
  intro earlier later l time answer? before after hsplit
  have hmem : .looked l time answer? before after ∈ c.storeEvents k outcome startedAt now := by
    rw [hsplit]
    exact List.mem_append_right _ List.mem_cons_self
  cases outcome with
  | error e => cases hmem
  | ok a =>
    rw [ResultCache.storeEvents] at hmem
    split at hmem
    · cases hmem
    · cases List.mem_singleton.mp hmem

theorem afterWrite (method : String) :
    Leads config (if c.isRefreshedBy method then [.emptied] else []) c now (c.afterWrite method)
      now := by
  rw [ResultCache.afterWrite]
  split
  · exact emptied
  · exact none fun _ hlog ↦ hlog

end Leads

namespace CacheStep

variable {α : Type} [Sized α]

mutual

def events : CacheStep α → CacheWorld α → List (CacheEvent α)
  | read key during outcome, w =>
    w.cache.lookupEvent key w.clock.time ::
      match w.cache.lookup key w.clock.time with
      | (some _, _) => []
      | (none, cache) =>
        let started := { w with cache := cache.countMiss }
        let ended := runInner during started
        eventsAll during started ++
          ended.cache.storeEvents key outcome cache.generation ended.clock.time
  | get key, w => [w.cache.lookupEvent key w.clock.time]
  | write method during _, w =>
    eventsAll during w ++ if (runInner during w).cache.isRefreshedBy method then [.emptied] else []
  | invalidate, _ => [.emptied]
  | advance ms, w => [.moved w.clock.time (w.clock.advance ms).time]
  | setClock ms, w => [.moved w.clock.time ms.toNat]
  | isRefreshedBy _, _ => []

def eventsAll : List (CacheStep α) → CacheWorld α → List (CacheEvent α)
  | [], _ => []
  | step :: steps, w => events step w ++ eventsAll steps (run step w).2

end

variable {config : CacheConfig}

mutual

theorem run_leads : ∀ (step : CacheStep α) (w : CacheWorld α),
    Leads config (step.events w) w.cache w.clock.time (step.run w).2.cache (step.run w).2.clock.time
  | read key during outcome, w => by
    have hlooked : Leads config _ w.cache w.clock.time _ _ := .lookup key
    rw [events]
    cases hlookup : w.cache.lookup key w.clock.time with
    | mk answer? cache =>
      rw [hlookup] at hlooked
      cases answer? with
      | some a =>
        rw [run_read_of_some hlookup]
        exact hlooked
      | none =>
        -- A miss: the lookup, the steps inside the function, and what its end stores.
        rw [run_read_of_none hlookup]
        let started := { w with cache := cache.countMiss }
        let ended := runInner during started
        have hinner : Leads config (eventsAll during started) started.cache started.clock.time
            ended.cache ended.clock.time := by
          show Leads config _ _ _ (runInner during started).cache
            (runInner during started).clock.time
          rw [runInner]
          exact runAll_leads during started
        exact hlooked.trans (Leads.countMiss.trans (hinner.trans (.settled key outcome _)))
  | get key, w => by
    rw [events, run]
    exact .lookup key
  | write method during outcome, w => by
    rw [events, run, Cached.write, runInner]
    exact (runAll_leads during w).trans (.afterWrite method)
  | invalidate, w => by
    rw [events, run]
    exact .emptied
  | advance ms, w => by
    rw [events, run]
    exact .moved _
  | setClock ms, w => by
    rw [events, run]
    exact .moved _
  | isRefreshedBy method, w => by
    rw [events, run]
    exact .none fun _ hlog ↦ hlog

theorem runAll_leads : ∀ (steps : List (CacheStep α)) (w : CacheWorld α),
    Leads config (eventsAll steps w) w.cache w.clock.time (runAll steps w).2.cache
      (runAll steps w).2.clock.time
  | [], w => by
    rw [eventsAll, runAll]
    exact .none fun _ hlog ↦ hlog
  | step :: steps, w => by
    rw [eventsAll, runAll]
    exact (run_leads step w).trans (runAll_leads steps (run step w).2)

end

/-- A read is answered with what its lookup finds, and only if it finds nothing its function
runs. -/
theorem run_read_create (cache : ResultCache α) (clock : Clock) (key : CacheKey)
    (during : List (CacheStep α)) (outcome : Result α) :
    (∀ a, (cache.lookup key clock.time).1 = some a → ∃ after,
      (run (.read key during outcome) (.create cache clock)).1 = .mk (.read (.ok a)) none after) ∧
    ((cache.lookup key clock.time).1 = none → ∃ after,
      (run (.read key during outcome) (.create cache clock)).1 =
        .mk (.read outcome)
          (some (runAll during (.create (cache.lookup key clock.time).2.countMiss clock)).1)
          after) := by
  cases hlookup : cache.lookup key clock.time with
  | mk answer? after =>
    cases answer? with
    | some a =>
      refine ⟨?_, nofun⟩
      rintro _ ⟨⟩
      rw [run_read_of_some hlookup]
      exact ⟨_, rfl⟩
    | none =>
      refine ⟨nofun, fun _ ↦ ?_⟩
      rw [run_read_of_none hlookup, runInner]
      exact ⟨_, rfl⟩

end CacheStep

def CacheWorld.over {α : Type} (config : CacheConfig) (filters : List RefreshFilter)
    (store : Store α) (clock : Clock) : CacheWorld α :=
  .create { config := config, filters := filters, store := store } clock

theorem explains_nil {α : Type} {capacity shards : Nat} {store : Store α}
    (hstore : Store.create capacity shards = .ok store) (config : CacheConfig)
    (filters : List RefreshFilter) (clock : Clock) :
    Explains config [] (CacheWorld.over config filters store clock).cache clock.time where
  sound := .create hstore
  config_eq := rfl
  entries := by
    intro k
    show (store.peek? k).map _ = none
    rw [Store.peek?_create hstore]
    rfl
  times := nofun

/-- Every lookup of a run, those inside the functions that it runs among them, is exact; and what
the run leaves in the store is what its history says. -/
theorem expiry_is_exact {α : Type} [Sized α] {capacity shards : Nat} {store : Store α}
    (hstore : Store.create capacity shards = .ok store) (config : CacheConfig)
    (filters : List RefreshFilter) (clock : Clock) (steps : List (CacheStep α))
    (hforward : ∀ event ∈ CacheStep.eventsAll steps (.over config filters store clock),
      event.isForward = true) :
    (∀ earlier later k now answer? before after,
      CacheStep.eventsAll steps (.over config filters store clock) =
        earlier ++ .looked k now answer? before after :: later →
      ExactLookup config earlier k now answer? before after) ∧
    (∀ k, ((CacheStep.runAll steps (.over config filters store clock)).2.cache.store.peek? k).map
        .ofEntry = Held.after? k (CacheStep.eventsAll steps (.over config filters store clock))) ∧
    ∀ (cache : ResultCache α) (clock : Clock) key during outcome,
      (∀ a, (cache.lookup key clock.time).1 = some a → ∃ after,
        (CacheStep.run (.read key during outcome) (.create cache clock)).1 =
          .mk (.read (.ok a)) none after) ∧
      ((cache.lookup key clock.time).1 = none → ∃ after,
        (CacheStep.run (.read key during outcome) (.create cache clock)).1 =
          .mk (.read outcome) (some (CacheStep.runAll during
            (.create (cache.lookup key clock.time).2.countMiss clock)).1) after) := by
  obtain ⟨hend, hexact⟩ := CacheStep.runAll_leads steps _ hforward []
    (explains_nil hstore config filters clock)
  exact ⟨hexact, hend.entries, CacheStep.run_read_create⟩

/-- A read that stores its result over one that was stored while it ran, and hits that keep the
entry up to its live time. -/
def hitsUpToLiveTime : List (CacheStep (List Nat)) :=
  let key := keyNamed "a"
  [.read key [.read key [] (.ok [1]), .advance 4] (.ok [2]), .advance 4, .get key, .advance 4,
    .get key, .advance 4, .read key [] (.ok [3])]

def CacheEvent.lookup? {α : Type} : CacheEvent α → Option (Nat × Option α)
  | looked _ time answer? _ _ => some (time, answer?)
  | _ => none

theorem expiry_is_exact_up_to_live_time :
    ∃ store : Store (List Nat), Store.create 2 1 = .ok store ∧
      let config : CacheConfig := { capacity := 2, liveTime := 10, idleTime := 5 }
      let events := CacheStep.eventsAll hitsUpToLiveTime (.over config [] store ⟨0⟩)
      events.filterMap CacheEvent.lookup? =
        [(0, none), (0, none), (8, some [2]), (12, some [2]), (16, none)] ∧
      ∀ earlier later k now answer? before after,
        events = earlier ++ .looked k now answer? before after :: later →
        ExactLookup config earlier k now answer? before after := by
  have hcreate : Store.create (α := List Nat) 2 1 = .ok ⟨2, [.empty]⟩ := rfl
  have hforward : ∀ event ∈ CacheStep.eventsAll hitsUpToLiveTime
      (.over { capacity := 2, liveTime := 10, idleTime := 5 } [] ⟨2, [.empty]⟩ ⟨0⟩),
      event.isForward = true := by
    rw [← List.all_eq_true]
    simp only [hitsUpToLiveTime, CacheStep.eventsAll, CacheStep.events, CacheStep.run,
      CacheStep.runInner, CacheStep.runAll]
    decide +kernel
  refine ⟨_, hcreate, ?_, (expiry_is_exact hcreate _ [] ⟨0⟩ hitsUpToLiveTime hforward).1⟩
  simp only [hitsUpToLiveTime, CacheStep.eventsAll, CacheStep.events, CacheStep.run,
    CacheStep.runInner, CacheStep.runAll]
  decide +kernel

end QueryCatalog
