import QueryCatalog.Execution.Trace
import QueryCatalog.Proofs.Batch.Report

namespace QueryCatalog.Batch

def statement (options : ExecOptions) (p : Plan) : Statement := ⟨p.sql, p.values, options⟩

variable {σ : Type}

inductive Updates (update : Statement → Action σ Nat) :
    List Statement → σ → List Nat → Option Error → σ → Prop
  | done (s : σ) : Updates update [] s [] none s
  | answered {st : Statement} {sts : List Statement} {s s' s'' : σ} {n : Nat} {counts : List Nat}
      {e? : Option Error} (hst : update st s = (.ok n, s'))
      (h : Updates update sts s' counts e? s'') : Updates update (st :: sts) s (n :: counts) e? s''
  | failed {st : Statement} {sts : List Statement} {s s' : σ} {e : Error}
      (hst : update st s = (.error e, s')) : Updates update (st :: sts) s [] (some e) s'

/-- The statements that were sent when so many were answered: one more if it failed. -/
def sent (sts : List Statement) (answered : Nat) (e? : Option Error) : List Statement :=
  sts.take (answered + e?.toList.length)

/-- The report of `n` units whose updates gave these counts, and then an error if there is one. -/
structure ReportsUpdates (size n : Nat) (counts : List Nat) (e? : Option Error) (report : Report) :
    Prop where
  failure : report.failure? =
    e?.map fun e ↦ ⟨counts.length / size, chunk n size (counts.length / size), e⟩
  result : e? = none → report.toResult = .ok counts

section Updates

variable {update : Statement → Action σ Nat} {sts sts' : List Statement} {s s' : σ}
  {counts : List Nat} {e? : Option Error}

theorem exists_updates (update : Statement → Action σ Nat) (sts : List Statement) (s : σ) :
    ∃ counts e? s', Updates update sts s counts e? s' := by
  induction sts generalizing s with
  | nil => exact ⟨[], none, s, .done s⟩
  | cons st sts ih =>
    cases hst : update st s with
    | mk r s' =>
      cases r with
      | error e => exact ⟨[], some e, s', .failed hst⟩
      | ok n =>
        obtain ⟨counts, e?, s'', h⟩ := ih s'
        exact ⟨n :: counts, e?, s'', .answered hst h⟩

namespace Updates

theorem length_eq (h : Updates update sts s counts none s') : counts.length = sts.length := by
  generalize he : none = e? at h
  induction h with
  | done s => rfl
  | answered _ _ ih => exact congrArg (· + 1) (ih he)
  | failed _ => cases he

theorem length_lt {e : Error} (h : Updates update sts s counts (some e) s') :
    counts.length < sts.length := by
  generalize he : some e = e? at h
  induction h with
  | done s => cases he
  | answered _ _ ih => exact Nat.succ_lt_succ (ih he)
  | failed _ => exact Nat.succ_pos _

/-- Either all statements of the first part are answered, or the second part is not reached. -/
theorem split (h : Updates update (sts ++ sts') s counts e? s') :
    (∃ counts₁ counts₂ s₁, counts = counts₁ ++ counts₂ ∧ Updates update sts s counts₁ none s₁ ∧
      Updates update sts' s₁ counts₂ e? s') ∨
    ∃ e, e? = some e ∧ Updates update sts s counts (some e) s' := by
  induction sts generalizing s counts with
  | nil => exact .inl ⟨[], counts, s, rfl, .done s, h⟩
  | cons st sts ih =>
    cases h with
    | failed hst => exact .inr ⟨_, rfl, .failed hst⟩
    | answered hst h =>
      rcases ih h with ⟨counts₁, counts₂, s₁, rfl, h₁, h₂⟩ | ⟨e, rfl, h'⟩
      · exact .inl ⟨_ :: counts₁, counts₂, s₁, rfl, .answered hst h₁, h₂⟩
      · exact .inr ⟨e, rfl, .answered hst h'⟩

theorem traced {x : Executor σ} (h : Updates x.update sts s counts e? s') (events : List Event) :
    Updates (Traced.executorByRow x).update sts ⟨s, events⟩ counts e?
      ⟨s', ((sent sts counts.length e?).map .update).reverse ++ events⟩ := by
  have hstep {st : Statement} {s s' : σ} {r : Result Nat} (hst : x.update st s = (r, s'))
      (events : List Event) : (Traced.executorByRow x).update st ⟨s, events⟩ =
        (r, ⟨s', .update st :: events⟩) := by
    show Traced.noting (.update st) (x.update st) ⟨s, events⟩ = _
    simp only [Traced.noting, Traced.lift, Traced.note, hst]
  induction h generalizing events with
  | done s => exact .done _
  | @answered st sts s s' s'' n counts e? hst _ ih =>
    have hevents : ((sent (st :: sts) (n :: counts).length e?).map Event.update).reverse ++ events =
        ((sent sts counts.length e?).map Event.update).reverse ++ (.update st :: events) := by
      rw [sent, sent, List.length_cons, Nat.succ_add, List.take_succ_cons, List.map_cons,
        List.reverse_cons, List.append_assoc, List.singleton_append]
    rw [hevents]
    exact .answered (hstep hst events) (ih _)
  | failed hst => exact .failed (hstep hst events)

theorem updateEach_eq {sql : String} {options : ExecOptions} {rows : List (List Value)}
    (h : Updates update (rows.map fun row ↦ ⟨sql, row, options⟩) s counts e? s') :
    Executor.updateEach update sql rows options s = (e?.elim (.ok counts) .error, s') := by
  induction rows generalizing s counts with
  | nil =>
    cases h
    rfl
  | cons row rows ih =>
    cases h with
    | failed hst =>
      simp only [Executor.updateEach, Action.andThen, hst]
      rfl
    | answered hst h =>
      simp only [Executor.updateEach, Action.andThen, hst, ih h]
      cases e? <;> rfl

end Updates

end Updates

variable {x : Executor σ} {options : ExecOptions} {s s' : σ} {counts : List Nat}
  {e? : Option Error} {plans : List Plan} {size k m : Nat}

theorem Updates.exists_call (hx : x.updateBatch = Executor.updateEach x.update) {run : List Plan}
    (hne : run ≠ []) (hsame : SameText run)
    (h : Updates x.update (run.map (statement options)) s counts e? s') :
    ∃ c : Call, c.Carries run ∧ x.updateBatch c.sql c.rows options s = (c.answer, s') ∧
      c.error? = e? ∧ (e? = none → c.counts = counts) := by
  obtain ⟨sql, hsql⟩ := hsame
  have hrows : run.map (statement options) =
      (run.map Plan.values).map fun row ↦ ⟨sql, row, options⟩ := by
    rw [List.map_map]
    exact List.map_congr_left fun p hp ↦ by
      rw [statement, hsql p hp]
      rfl
  refine ⟨⟨sql, run.map Plan.values, e?.elim (.ok counts) .error⟩, ⟨hne, rfl, hsql⟩, ?_, ?_, ?_⟩
  · rw [hx]
    exact (hrows ▸ h).updateEach_eq
  · cases e? with
    | some e => rfl
    | none =>
      refine if_pos ?_
      rw [h.length_eq, List.length_map, List.length_map]
  · rintro rfl
    rfl

/-- However plans are joined into runs, the same updates are run. -/
theorem Updates.exists_sends (hx : x.updateBatch = Executor.updateEach x.update)
    {runs : List (List Plan)} (hruns : ∀ run ∈ runs, run ≠ [] ∧ SameText run)
    (h : Updates x.update (runs.flatten.map (statement options)) s counts e? s') :
    ∃ calls, Sends x options runs s calls e? s' ∧
      (e? = none → calls.flatMap Call.counts = counts) := by
  induction runs generalizing s counts with
  | nil =>
    cases h
    exact ⟨[], .done _, fun _ ↦ rfl⟩
  | cons run runs ih =>
    obtain ⟨⟨hne, hsame⟩, hruns⟩ := List.forall_mem_cons.mp hruns
    rw [List.flatten_cons, List.map_append] at h
    rcases h.split with ⟨counts₁, counts₂, s₁, rfl, h₁, h₂⟩ | ⟨e, rfl, h'⟩
    · obtain ⟨c, hc, hcall, hok, hcounts⟩ := h₁.exists_call hx hne hsame
      obtain ⟨calls, hcalls, hmore⟩ := ih hruns h₂
      refine ⟨c :: calls, .answered hc hcall hok hcalls, fun he ↦ ?_⟩
      rw [List.flatMap_cons, hcounts rfl, hmore he]
    · obtain ⟨c, hc, hcall, hfail, -⟩ := h'.exists_call hx hne hsame
      exact ⟨[c], .failed hc hcall hfail, nofun⟩

/-- The chunks from `k` on run the updates of their units, and a failed update ends the chunk in
which it stands. -/
theorem Updates.sendChunks_eq (hx : x.updateBatch = Executor.updateEach x.update)
    (hsize : 0 < size) (hcount : k + m = chunkCount plans.length size)
    (h : Updates x.update ((plans.drop (k * size)).map (statement options)) s counts e? s') :
    ∃ outcomes, sendChunks x options plans k ((List.range' k m).map (chunk plans.length size)) s =
        ((outcomes, e?.map fun e ↦ ⟨(k * size + counts.length) / size,
          chunk plans.length size ((k * size + counts.length) / size), e⟩), s') ∧
      (e? = none → outcomes = counts.map .applied) := by
  induction m generalizing k s counts with
  | zero =>
    have hall := le_chunkCount_mul hsize plans.length
    rw [← hcount, Nat.add_zero] at hall
    rw [List.drop_eq_nil_of_le hall] at h
    cases h
    exact ⟨[], rfl, fun _ ↦ rfl⟩
  | succ m ih =>
    have hruns : ∀ run ∈ runsOf ((chunk plans.length size k).slice plans),
        run ≠ [] ∧ SameText run :=
      fun _ hrun ↦ ⟨ne_nil_of_mem_runsOf hrun, sameText_of_mem_runsOf hrun⟩
    have hchunk : (runsOf ((chunk plans.length size k).slice plans)).flatten =
        (plans.drop (k * size)).take size := by
      rw [flatten_runsOf, slice_chunk]
    have hrest : (plans.drop (k * size)).drop size = plans.drop ((k + 1) * size) := by
      rw [List.drop_drop, Nat.succ_mul]
    -- The chunk at hand is the first of the plans that are left; its updates either all pass or
    -- end the batch.
    have hcut := List.take_append_drop size (plans.drop (k * size))
    rw [hrest] at hcut
    rw [← hcut, List.map_append] at h
    rw [List.range'_succ, List.map_cons]
    rcases h.split with ⟨counts₁, counts₂, s₁, rfl, h₁, h₂⟩ | ⟨e, rfl, h'⟩
    · obtain ⟨calls, hcalls, hcounts⟩ := Updates.exists_sends hx hruns (hchunk ▸ h₁)
      obtain ⟨outcomes, hsend, houtcomes⟩ := ih (by omega) h₂
      refine ⟨(calls.flatMap Call.counts).map .applied ++ outcomes, ?_, fun he ↦ ?_⟩
      · rw [SendsChunk.sendChunks_of_answered hcalls hsend]
        cases e? with
        | none => rfl
        | some e =>
          have hfull : (k + 1) * size + counts₂.length =
              k * size + (counts₁ ++ counts₂).length := by
            have hlength := h₁.length_eq
            have hmore := h₂.length_lt
            simp only [List.length_map, List.length_take, List.length_drop] at hlength hmore
            rw [List.length_append, Nat.succ_mul]
            rw [Nat.succ_mul] at hmore
            omega
          rw [hfull]
      · rw [hcounts rfl, houtcomes he, List.map_append]
    · have hlt := h'.length_lt
      rw [List.length_map, List.length_take] at hlt
      obtain ⟨calls, hcalls, -⟩ := Updates.exists_sends hx hruns (hchunk ▸ h')
      have hunit : (k * size + counts.length) / size = k :=
        Nat.div_eq_of_lt_le (Nat.le_add_right ..) (by rw [Nat.succ_mul]; omega)
      rw [hunit]
      exact ⟨_, SendsChunk.sendChunks_of_failed hcalls, nofun⟩

theorem Updates.execute_eq (hx : x.updateBatch = Executor.updateEach x.update)
    {resolver : Resolver} {t : Template} {units : List Context} {opts : BindOptions} {now : Int}
    (hbind : bindUnits resolver t units opts now = .ok plans)
    (h : Updates x.update (plans.map (statement options)) s counts e? s') (hsize : 0 < size) :
    ∃ report, execute resolver x options t units opts size now s = (.ok report, s') ∧
      ReportsUpdates size plans.length counts e? report := by
  cases units with
  | nil =>
    cases hbind
    cases h
    exact ⟨{}, by simp [execute, hsize.ne'], rfl, fun _ ↦ rfl⟩
  | cons unit units =>
    have hranges : chunkRanges plans.length size =
        (List.range' 0 (chunkCount plans.length size)).map (chunk plans.length size) := by
      rw [chunkRanges, chunkSize, max_eq_left hsize, List.range_eq_range']
    have hall : plans.drop (0 * size) = plans := by
      rw [Nat.zero_mul, List.drop_zero]
    obtain ⟨outcomes, hsend, houtcomes⟩ := Updates.sendChunks_eq hx hsize (Nat.zero_add _)
      (hall.symm ▸ h)
    rw [← hranges, Nat.zero_mul, Nat.zero_add] at hsend
    refine ⟨⟨outcomes, (chunkRanges plans.length size).length, _⟩, ?_, rfl, ?_⟩
    · simp only [execute, hsize.ne', if_false, List.isEmpty_cons, Bool.false_eq_true, hbind, hsend]
      cases e? <;> rfl
    · rintro rfl
      rw [houtcomes rfl]
      simp [Report.toResult, Function.comp_def, Outcome.rows]

/-- The updates and their answers do not depend on the size of the chunks. -/
theorem same_updates_for_every_size (resolver : Resolver) (x : Executor σ) (options : ExecOptions)
    (t : Template) (units : List Context) (opts : BindOptions) (now : Int) (plans : List Plan)
    (hbind : bindUnits resolver t units opts now = .ok plans) (s : σ) :
    ∃ counts e? s', Updates x.update (plans.map (statement options)) s counts e? s' ∧
      ∀ size, 0 < size → ∃ report after,
        execute resolver (Traced.executorByRow x) options t units opts size now ⟨s, []⟩ =
          (.ok report, after) ∧
        after.state = s' ∧
        after.trace = (sent (plans.map (statement options)) counts.length e?).map .update ∧
        ReportsUpdates size plans.length counts e? report := by
  obtain ⟨counts, e?, s', h⟩ := exists_updates x.update (plans.map (statement options)) s
  refine ⟨counts, e?, s', h, fun size hsize ↦ ?_⟩
  obtain ⟨report, hrun, hreport⟩ := (h.traced []).execute_eq (x := Traced.executorByRow x) rfl
    hbind hsize
  refine ⟨report, _, hrun, rfl, ?_, hreport⟩
  rw [Traced.trace, List.append_nil, List.reverse_reverse]

def fourthLocked : Executor Nat where
  query _ n := (.ok [], n)
  update _ n := (if n = 3 then .error (.execution "locked") else .ok n, n + 1)
  updateBatch := Executor.updateEach fun _ n ↦ (.ok n, n)

theorem deleteUnits_same_updates :
    ∃ plans, bindUnits .byName deleteTemplate deleteUnits {} 0 = .ok plans ∧
      ∃ ones fives after after',
        execute .byName (Traced.executorByRow fourthLocked) {} deleteTemplate deleteUnits {} 1 0
          ⟨0, []⟩ = (.ok ones, after) ∧
        execute .byName (Traced.executorByRow fourthLocked) {} deleteTemplate deleteUnits {} 5 0
          ⟨0, []⟩ = (.ok fives, after') ∧
        after.state = after'.state ∧ after.trace = after'.trace ∧ after.trace.length = 4 ∧
        ones.failure?.map Failure.chunk = some 3 ∧ fives.failure?.map Failure.chunk = some 0 := by
  obtain ⟨counts, e?, s', -, hsizes⟩ :=
    same_updates_for_every_size .byName fourthLocked {} deleteTemplate deleteUnits {} 0 _ rfl 0
  obtain ⟨ones, after, hones, hstate, htrace, -⟩ := hsizes 1 (by decide)
  obtain ⟨fives, after', hfives, hstate', htrace', -⟩ := hsizes 5 (by decide)
  refine ⟨_, rfl, ones, fives, after, after', hones, hfives, hstate.trans hstate'.symm,
    htrace.trans htrace'.symm, ?_, ?_, ?_⟩
  · cases hones
    rfl
  · cases hones
    rfl
  · cases hfives
    rfl

end QueryCatalog.Batch
