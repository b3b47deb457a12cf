import QueryCatalog.Proofs.Catalog.CallTrace
import QueryCatalog.Proofs.Outcome

namespace QueryCatalog

variable {σ τ α β : Type}

namespace Event

def isHook : Event → Bool
  | before _ _ | after _ | onError _ _ => true
  | _ => false

def isBefore : Event → Bool
  | before _ _ => true
  | _ => false

def isOnError : Event → Bool
  | onError _ _ => true
  | _ => false

variable {event : Event}

theorem not_isHook_of_isStatement (h : event.isStatement = true) : event.isHook = false := by
  cases event <;> first | rfl | cases h

theorem not_isBefore_of_not_isHook (h : event.isHook = false) : event.isBefore = false := by
  cases event <;> first | rfl | cases h

theorem not_isOnError_of_not_isHook (h : event.isHook = false) : event.isOnError = false := by
  cases event <;> first | rfl | cases h

end Event

def Hookless (noted : List Event) : Prop := ∀ event ∈ noted, event.isHook = false

theorem hookless_of_statements {sent : List Event}
    (h : ∀ event ∈ sent, event.isStatement = true) : Hookless sent :=
  fun event hmem ↦ Event.not_isHook_of_isStatement (h event hmem)

namespace Interceptor

/-- The hooks that let a call pass: all of them, or those in front of the one that refuses it. -/
inductive LetPass (call : Invocation) (hooks : List (Interceptor σ)) (s : σ) :
    List (Interceptor σ) → Prop
  | all {t : σ} (henters : Enters call hooks s t) : LetPass call hooks s hooks
  | front {front : List (Interceptor σ)} {i : Interceptor σ} {e : Error} {t : σ}
      (h : Refused call hooks s front i e t) : LetPass call hooks s front

/-- The first hooks are asked about a call, each of them once and from the outermost on; if it fails
then those that let it pass hear of its error, and nothing comes behind that. -/
structure Covers (call : Invocation) (hooks : List (Interceptor σ)) (s : σ) (r : Result α)
    (noted : List Event) : Prop where
  asked : ∀ outer inner, hooks = outer :: inner → ∃ begun rest, begun <+: inner ∧
    noted = opening call (outer :: begun) ++ rest ∧ ∀ event ∈ rest, event.isBefore = false
  told : ∀ e, r = .error e → ∃ passed first, LetPass call hooks s passed ∧
    noted = first ++ closing passed r ∧ ∀ event ∈ first, event.isOnError = false

variable {call : Invocation} {hooks front : List (Interceptor σ)} {i : Interceptor σ} {s t : σ}
  {r : Result α} {e : Error} {noted : List Event}

theorem not_isBefore_of_mem_closing {event : Event} (h : event ∈ closing hooks r) :
    event.isBefore = false := by
  obtain ⟨i, -, rfl⟩ := List.mem_map.mp h
  cases r <;> rfl

theorem not_isOnError_of_mem_opening {event : Event} (h : event ∈ opening call hooks) :
    event.isOnError = false := by
  obtain ⟨i, -, rfl⟩ := List.mem_map.mp h
  rfl

theorem Covers.of_enters (h : Enters call hooks s t) (hnoted : Hookless noted) (r : Result α) :
    Covers call hooks s r (opening call hooks ++ noted ++ closing hooks r) where
  asked := by
    rintro outer inner rfl
    refine ⟨inner, noted ++ closing (outer :: inner) r, List.prefix_rfl, by simp, ?_⟩
    intro event hmem
    rcases List.mem_append.mp hmem with hmem | hmem
    · exact Event.not_isBefore_of_not_isHook (hnoted event hmem)
    · exact not_isBefore_of_mem_closing hmem
  told := by
    intro e _
    refine ⟨hooks, opening call hooks ++ noted, .all h, rfl, ?_⟩
    intro event hmem
    rcases List.mem_append.mp hmem with hmem | hmem
    · exact not_isOnError_of_mem_opening hmem
    · exact Event.not_isOnError_of_not_isHook (hnoted event hmem)

theorem Covers.of_refused (h : Refused call hooks s front i e t) :
    Covers call hooks s (.error e : Result α)
      (opening call (front ++ [i]) ++ closing front (.error e : Result α)) where
  asked := by
    rintro outer inner rfl
    obtain ⟨rest, hrest⟩ := h.front_prefix
    obtain ⟨begun, hbegun, hinner⟩ : ∃ begun, front ++ [i] = outer :: begun ∧
        begun ++ rest = inner := by
      cases front with
      | nil =>
        cases hrest
        exact ⟨[], rfl, rfl⟩
      | cons j front =>
        cases hrest
        exact ⟨front ++ [i], rfl, rfl⟩
    rw [hbegun]
    exact ⟨begun, closing front (.error e), ⟨rest, hinner⟩, rfl,
      fun event hmem ↦ not_isBefore_of_mem_closing hmem⟩
  told := by
    rintro _ ⟨⟩
    exact ⟨front, opening call (front ++ [i]), .front h, rfl,
      fun event hmem ↦ not_isOnError_of_mem_opening hmem⟩

theorem Covers.map (h : Covers call hooks s r noted) (f : α → β) :
    Covers call hooks s (r.map f) noted where
  asked := h.asked
  told := by
    intro e he
    obtain rfl := Outcome.map_eq_error_iff.mp he
    exact h.told e rfl

end Interceptor

namespace Session

theorem Runs.eq {m : Action (Session (Traced σ)) α} {cache? cache?' cache?'' : Option CatalogCache}
    {clock : Clock} {s s' s'' : σ} {r r' : Result α} {noted noted' : List Event}
    (h : Runs m cache? clock s r cache?' s' noted)
    (h' : Runs m cache? clock s r' cache?'' s'' noted') : r = r' ∧ noted = noted' := by
  have heq := (h []).symm.trans (h' [])
  simp only [List.append_nil, Prod.mk.injEq, Session.mk.injEq, Traced.mk.injEq,
    List.reverse_inj] at heq
  exact ⟨heq.1, heq.2.2.2.2⟩

theorem runs_map {m : Action (Session (Traced σ)) α} {cache? cache?' : Option CatalogCache}
    {clock : Clock} {s s' : σ} {r : Result α} {noted : List Event}
    (h : Runs m cache? clock s r cache?' s' noted) (f : α → β) :
    Runs (Action.andThen m fun a ↦ .ofResult (.ok (f a))) cache? clock s (r.map f) cache?' s'
      noted := by
  intro events
  rw [Action.andThen, h events]
  cases r <;> rfl

end Session

namespace Catalog

open Interceptor Traced

section Hookless

theorem core_hookless {t? : Option (Transactions σ τ)} {declared? : Option TransactionOptions}
    {work : Work σ α} {s s' : σ} {r : Result α} {core : List Event}
    (hwork : ∀ {s r s' sent}, work s r s' sent → Hookless sent)
    (h : Core t? declared? work s r s' core) : Hookless core := by
  have hends {start stop : Event} {sent : List Event} (hstart : start.isHook = false)
      (hstop : stop.isHook = false) (hsent : Hookless sent) :
      Hookless (start :: sent ++ [stop]) := by
    intro event hmem
    simp only [List.cons_append, List.mem_cons, List.mem_append, List.not_mem_nil, or_false] at hmem
    rcases hmem with rfl | hmem | rfl
    · exact hstart
    · exact hsent event hmem
    · exact hstop
  cases h with
  | plain _ h => exact hwork h
  | impossible => exact nofun
  | refused =>
    intro event hmem
    rw [List.mem_singleton.mp hmem]
    rfl
  | committed _ _ _ h | uncommitted _ _ _ h | rolledBack _ _ _ h => exact hends rfl rfl (hwork h)

variable {c : Catalog} {x : Collaborators σ τ} {X : Executor (Traced σ)} {m : PreparedMethod}
  {args : Context} {units : List Context} {now : Int} {s s' : σ} {noted : List Event}

theorem fetches_hookless {r : Result (List Value)} (h : Fetches c x m args now s r s' noted) :
    Hookless noted := by
  cases h with
  | unbound => exact nofun
  | failed | answered => exact hookless_of_statements (List.forall_mem_singleton.mpr rfl)

theorem sendsUnit_hookless {r : Result Nat} (h : SendsUnit c x m args now s r s' noted) :
    Hookless noted := by
  cases h with
  | unbound => exact nofun
  | sent => exact hookless_of_statements (List.forall_mem_singleton.mpr rfl)

theorem sendsUnits_hookless {r : Result (List Nat)} (h : SendsUnits c X m units now s r s' noted) :
    Hookless noted := by
  cases h with
  | sizeless | empty | unbound => exact nofun
  | sent _ _ _ _ _ _ hstatements => exact hookless_of_statements hstatements

theorem reads_hookless {cached : Bool} {key : CacheKey} {clock : Clock}
    {core : Result (List Value) → σ → List Event → Prop} {cache? cache?' : Option CatalogCache}
    {r : Result (List Value)} (hcore : ∀ {r s' noted}, core r s' noted → Hookless noted)
    (h : Reads cached key clock core s cache? r cache?' s' noted) : Hookless noted := by
  cases h with
  | hit => exact nofun
  | stored _ _ h | failed _ _ h | uncached _ h => exact hcore h

end Hookless

def Covered (x : Collaborators σ τ) (call : Invocation) (cache? : Option CatalogCache)
    (clock : Clock) (s : σ) (run : Action (Session (Traced σ)) α) : Prop :=
  ∃ r cache?' s' noted, Session.Runs run cache? clock s r cache?' s' noted ∧
    Covers call (x.hooksFor call) s r noted

variable {c : Catalog} {x : Collaborators σ τ} {X : Executor (Traced σ)} {m : PreparedMethod}
  {call : Invocation} {cache? : Option CatalogCache} {clock : Clock} {s : σ}

theorem covered_intercepted {work : Action (Session (Traced σ)) α}
    (hwork : ∀ t, ∃ r cache?' t' noted, Session.Runs work cache? clock t r cache?' t' noted ∧
      Hookless noted) :
    Covered x call cache? clock s (intercepted (x.recorded X) call work) := by
  rcases enters_or_refused call (x.hooksFor call) s with ⟨t, henters⟩ | ⟨front, i, e, t, hrefused⟩
  · obtain ⟨r, cache?', t', noted, hruns, hnoted⟩ := hwork t
    exact ⟨r, cache?', _, _, runs_intercepted henters hruns, .of_enters henters hnoted r⟩
  · have hruns := Session.runs_enclose_of_refused hrefused work cache? clock
    rw [← intercepted_recorded] at hruns
    exact ⟨.error e, cache?, _, _, hruns, .of_refused hrefused⟩

theorem covered_query (hX : Notes X x.executor) (hm : c.readMethod call.method = .ok m)
    (args : Context) (now : Int) :
    Covered x call cache? clock s (c.query (x.recorded X) call args now) := by
  rw [query, hm]
  apply covered_intercepted
  intro t
  obtain ⟨r, cache?', t', noted, hreads, hruns⟩ :=
    exists_reading (exists_transactional m (realizes_fetch hX m args now) t) cache?
  refine ⟨r, cache?', t', noted, hruns, reads_hookless (fun h ↦ ?_) hreads⟩
  exact core_hookless fetches_hookless h.core

theorem covered_writing {W : Action (Traced σ) α} {work : Work σ α} (hW : Realizes W work)
    (hwork : ∀ {s r s' sent}, work s r s' sent → Hookless sent) (m : PreparedMethod) :
    Covered x call cache? clock s (intercepted (x.recorded X) call
      (Session.writing call.method (transactional (x.recorded X) m W))) := by
  apply covered_intercepted
  intro t
  obtain ⟨r, t', core, htransacts, hruns⟩ := exists_transactional m hW t
  exact ⟨r, _, t', core, Session.runs_writing hruns call.method cache? clock,
    core_hookless hwork htransacts.core⟩

theorem covered_batch (hX : Notes X x.executor) (hm : c.writeMethod call.method = .ok m)
    (units : List Context) (now : Int) :
    Covered x call cache? clock s (c.batch (x.recorded X) call units now) := by
  rw [batch, hm]
  exact covered_writing (realizes_sendUnits hX m units now) sendsUnits_hookless m

theorem covered_update_of_units (hX : Notes X x.executor)
    (hm : c.writeMethod call.method = .ok m) {args : Context} {units : List Context} (now : Int)
    (hbatch : m.method.isBatch = true) (hunits : unitsFor m args = .ok units) :
    Covered x call cache? clock s (c.update (x.recorded X) call args now) := by
  have hcovered : Covered x call cache? clock s (c.batch (x.recorded X) call units now) :=
    covered_batch hX hm units now
  obtain ⟨r, cache?', s', noted, hruns, hcovers⟩ := hcovered
  refine ⟨r.map rowTotal, cache?', s', noted, ?_, hcovers.map rowTotal⟩
  have hupdate : c.update (x.recorded X) call args now =
      Action.andThen (c.batch (x.recorded X) call units now) fun counts ↦
        .ofResult (.ok (rowTotal counts)) := by
    rw [update, hm]
    simp only [hbatch, if_true, hunits]
    rfl
  rw [hupdate]
  exact Session.runs_map hruns rowTotal

/-- Every call is covered by its hooks, whatever comes of it, except for updates of a batch whose
arguments give no units: of those no hook hears. -/
theorem calls_are_covered (c : Catalog) (x : Collaborators σ τ) {X : Executor (Traced σ)}
    (hX : Notes X x.executor) (call : Invocation) (now : Int) (cache? : Option CatalogCache)
    (clock : Clock) (s : σ) :
    (∀ m args, c.readMethod call.method = .ok m →
      Covered x call cache? clock s (c.query (x.recorded X) call args now)) ∧
    (∀ m units, c.writeMethod call.method = .ok m →
      Covered x call cache? clock s (c.batch (x.recorded X) call units now)) ∧
    ∀ m args, c.writeMethod call.method = .ok m →
      ((m.method.isBatch = true → ∃ units, unitsFor m args = .ok units) →
        Covered x call cache? clock s (c.update (x.recorded X) call args now)) ∧
      ∀ e, m.method.isBatch = true → unitsFor m args = .error e →
        Session.Runs (c.update (x.recorded X) call args now) cache? clock s (.error e) cache? s
          [] := by
  refine ⟨fun m args hm ↦ covered_query hX hm args now,
    fun m units hm ↦ covered_batch hX hm units now, fun m args hm ↦ ⟨fun hunits ↦ ?_, ?_⟩⟩
  · cases hbatch : m.method.isBatch with
    | true =>
      obtain ⟨units, hunits⟩ := hunits hbatch
      exact covered_update_of_units hX hm now hbatch hunits
    | false =>
      rw [update, hm]
      simp only [hbatch, Bool.false_eq_true, if_false]
      exact covered_writing (realizes_send hX m args now) sendsUnit_hookless m
  · intro e hbatch hunits events
    rw [update, hm]
    simp only [hbatch, if_true, hunits]
    rfl

section Roster

def roster : Catalog where
  name := "dao"
  methods := KeyMap.ofList
    [("find_all", ⟨{ sql := "find", kind := .read }, ⟨"find", [.literal "find"]⟩⟩),
      ("save_all", ⟨{ sql := "save", kind := .write, isBatch := true, bindAs? := some "p" },
        ⟨"save", [.literal "save"]⟩⟩)]
  resolver := .byName

/-- Every statement and every hook counts, and updates fail. -/
def audited : Collaborators Nat Unit where
  executor :=
    { query := fun _ n ↦ (.ok [], n + 1)
      update := fun _ n ↦ (.error (.execution "locked"), n + 1)
      updateBatch := fun _ _ _ n ↦ (.error (.execution "locked"), n + 1) }
  hooks :=
    let hook name : Interceptor Nat :=
      ⟨name, false, fun _ n ↦ (.ok (), n + 1), fun _ n ↦ n + 1, fun _ _ n ↦ n + 1⟩
    [hook "audit", hook "guard"]

def auditedRecorded : Collaborators (Traced Nat) Unit :=
  audited.recorded (Traced.executor audited.executor)

def saveAll (args : Context) : Action (Session (Traced Nat)) Nat :=
  roster.update auditedRecorded ⟨"save_all", true⟩ args 0

def onePerson : Context := Context.empty.setParam "p" (.list [.object []])

theorem roster_calls_are_covered :
    Covered audited ⟨"find_all", true⟩ none ⟨0⟩ 0
        (roster.query auditedRecorded ⟨"find_all", true⟩ .empty 0) ∧
      Covered audited ⟨"save_all", true⟩ none ⟨0⟩ 0
        (roster.batch auditedRecorded ⟨"save_all", true⟩ [onePerson] 0) ∧
      Covered audited ⟨"save_all", true⟩ none ⟨0⟩ 0 (saveAll onePerson) ∧
      ∃ e events, saveAll onePerson ⟨none, ⟨0⟩, ⟨0, []⟩⟩ = (.error e, ⟨none, ⟨0⟩, ⟨5, events⟩⟩) ∧
        events.map Event.isOnError = [true, true, false, false, false] := by
  have hX := Traced.notes_executor audited.executor
  obtain ⟨hquery, -, -⟩ := calls_are_covered roster audited hX ⟨"find_all", true⟩ 0 none ⟨0⟩ 0
  obtain ⟨-, hbatch, hupdate⟩ :=
    calls_are_covered roster audited hX ⟨"save_all", true⟩ 0 none ⟨0⟩ 0
  exact ⟨hquery _ _ rfl, hbatch _ _ rfl, (hupdate _ onePerson rfl).1 fun _ ↦ ⟨_, rfl⟩, _, _, rfl,
    rfl⟩

/-- Without the list of entities there are no units, and neither hook hears of the call. -/
theorem unitless_batch_is_not_covered :
    (∃ m, roster.writeMethod "save_all" = .ok m) ∧
      audited.hooksFor ⟨"save_all", true⟩ ≠ [] ∧
      Session.Runs (saveAll .empty) none ⟨0⟩ 0 (.error (.missingParameter "p")) none 0 [] ∧
      ¬ Covered audited ⟨"save_all", true⟩ none ⟨0⟩ 0 (saveAll .empty) := by
  have hruns : Session.Runs (saveAll .empty) none ⟨0⟩ 0 (.error (.missingParameter "p")) none 0
      [] := fun _ ↦ rfl
  refine ⟨⟨_, rfl⟩, List.cons_ne_nil _ _, hruns, ?_⟩
  rintro ⟨r, cache?', s', noted, hruns', hcovers⟩
  obtain ⟨-, rfl⟩ := hruns.eq hruns'
  obtain ⟨begun, rest, -, hnoted, -⟩ := hcovers.asked _ _ rfl
  cases hnoted

end Roster

end Catalog

end QueryCatalog
