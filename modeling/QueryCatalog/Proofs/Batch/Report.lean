import QueryCatalog.Proofs.Batch.Calls
import QueryCatalog.Proofs.Outcome

namespace QueryCatalog.Batch

structure Completed (plans : List Plan) (calls : List Call) (report : Report) : Prop where
  answered : ∀ c ∈ calls, c.error? = none
  rows : calls.flatMap Call.rows = plans.map Plan.values
  outcomes : report.outcomes = (calls.flatMap Call.counts).map .applied
  failure : report.failure? = none
  result : report.toResult = .ok (calls.flatMap Call.counts)

/-- The outcomes of `n` units after a failure of chunk `k`, with the counts of all units before. -/
def outcomesUpTo (size n k : Nat) (counts : List Nat) : List Outcome :=
  counts.map .applied ++ List.replicate (min ((k + 1) * size) n - k * size) (.failed k) ++
    List.replicate (n - min ((k + 1) * size) n) .notAttempted

/-- The calls `done` for the chunks before chunk `k` and the calls `before` for units of chunk `k`
were answered, and then a last call for units of chunk `k` failed. -/
structure Stopped (size : Nat) (plans : List Plan) (report : Report) (k : Nat)
    (done before : List Call) (last : Call) (e : Error) : Prop where
  chunk : k * size < plans.length
  answered : ∀ c ∈ done ++ before, c.error? = none
  error : last.error? = some e
  rows : done.flatMap Call.rows = (plans.take (k * size)).map Plan.values
  first : ((done ++ before).flatMap Call.rows).length / size = k
  outcomes : report.outcomes = outcomesUpTo size plans.length k (done.flatMap Call.counts)
  failure : report.failure? = some ⟨k, ⟨k * size, min ((k + 1) * size) plans.length⟩, e⟩
  result : report.toResult = .error
    (.batchChunk k ⟨k * size, min ((k + 1) * size) plans.length⟩ ⟨k * size, plans.length⟩ e)

def Tells (size : Nat) (plans : List Plan) (calls : List Call) (report : Report) : Prop :=
  Completed plans calls report ∨ ∃ k done before last e,
    calls = done ++ before ++ [last] ∧ Stopped size plans report k done before last e

variable {σ : Type} {size k m : Nat} {plans : List Plan} {calls before : List Call}

section Chunks

variable {α : Type} {n : Nat}

theorem mul_lt_of_lt_chunkCount (hsize : 0 < size) (h : k < chunkCount n size) : k * size < n := by
  have hle := (Nat.le_div_iff_mul_le hsize).mp h
  rw [Nat.succ_mul] at hle
  omega

theorem le_chunkCount_mul (hsize : 0 < size) (n : Nat) : n ≤ chunkCount n size * size := by
  have hlt := Nat.lt_div_mul_add (a := n + size - 1) hsize
  rw [chunkCount]
  omega

theorem chunk_eq (n size k : Nat) : chunk n size k = ⟨k * size, min ((k + 1) * size) n⟩ := by
  rw [chunk, Nat.succ_mul]

theorem slice_chunk (l : List α) (k size : Nat) :
    (chunk l.length size k).slice l = (l.drop (k * size)).take size := by
  rw [Span.slice, Span.length, chunk, List.take_eq_take_iff, List.length_drop]
  dsimp only
  omega

theorem flatMap_replicate_chunk (hsize : 0 < size) (hcount : k + m = chunkCount n size) (a : α) :
    (((List.range' k m).map (chunk n size)).flatMap fun u ↦ List.replicate u.length a) =
      List.replicate (n - k * size) a := by
  induction m generalizing k with
  | zero =>
    have hle := le_chunkCount_mul hsize n
    rw [← hcount, Nat.add_zero] at hle
    rw [Nat.sub_eq_zero_of_le hle]
    rfl
  | succ m ih =>
    have hlt := mul_lt_of_lt_chunkCount (n := n) hsize (k := k) (by omega)
    rw [List.range'_succ, List.map_cons, List.flatMap_cons, ih (by omega),
      List.replicate_append_replicate, Span.length, chunk, Nat.succ_mul]
    refine congrArg (List.replicate · a) ?_
    dsimp only
    omega

end Chunks

/-- The calls have sent all units before chunk `k`, and were answered. -/
structure Through (size : Nat) (plans : List Plan) (k : Nat) (calls : List Call) : Prop where
  answered : ∀ c ∈ calls, c.error? = none
  rows : calls.flatMap Call.rows = (plans.take (k * size)).map Plan.values
  inOrder : InOrder size 0 (plans.take (k * size)) calls

theorem length_rows (h : calls.flatMap Call.rows = (plans.take (k * size)).map Plan.values)
    (hk : k * size < plans.length) : (calls.flatMap Call.rows).length = k * size := by
  rw [h, List.length_map, List.length_take, min_eq_left hk.le]

theorem length_outcomesUpTo {n : Nat} {counts : List Nat} (hk : k * size < n)
    (hcounts : counts.length = k * size) : (outcomesUpTo size n k counts).length = n := by
  simp only [outcomesUpTo, List.length_append, List.length_map, List.length_replicate, hcounts]
  rw [Nat.succ_mul]
  omega

theorem Tells.length_outcomes {report : Report} (h : Tells size plans calls report) :
    report.outcomes.length = plans.length := by
  rcases h with h | ⟨k, done, before, last, e, rfl, h⟩
  · rw [h.outcomes, List.length_map, length_counts h.answered, h.rows, List.length_map]
  · have hcounts := length_counts (List.forall_mem_append.mp h.answered).1
    rw [h.outcomes, length_outcomesUpTo h.chunk (hcounts.trans (length_rows h.rows h.chunk))]

theorem Tells.ended {report : Report} (h : Tells size plans calls report) : Ended plans calls := by
  rcases h with h | ⟨k, done, before, last, e, rfl, h⟩
  · exact .inl ⟨h.answered, h.rows⟩
  · exact .inr ⟨done ++ before, last, e, rfl, h.answered, h.error⟩

theorem Tells.toResult_eq {report report' : Report} (h : Tells size plans calls report)
    (h' : Tells size plans calls report') : report.toResult = report'.toResult := by
  have hfails {k : Nat} {done before calls : List Call} {last : Call} {e : Error}
      {report : Report} (hcalls : calls = done ++ before ++ [last])
      (h : Stopped size plans report k done before last e) : ¬ ∀ c ∈ calls, c.error? = none := by
    intro hall
    rw [hcalls] at hall
    cases (hall last (List.mem_append_right _ (List.mem_singleton_self last))).symm.trans h.error
  rcases h with h | ⟨k, done, before, last, e, hcalls, h⟩ <;>
    rcases h' with h' | ⟨k', done', before', last', e', hcalls', h'⟩
  · rw [h.result, h'.result]
  · exact absurd h.answered (hfails hcalls' h')
  · exact absurd h'.answered (hfails hcalls h)
  · obtain ⟨hsent, hlast⟩ := List.append_inj' (hcalls.symm.trans hcalls') rfl
    obtain rfl := List.cons.inj hlast |>.1
    obtain rfl : e = e' := Option.some.inj (h.error.symm.trans h'.error)
    obtain rfl : k = k' := by rw [← h.first, hsent, h'.first]
    rw [h.result, h'.result]

theorem zero_add_length_take (hk : k * size < plans.length) :
    0 + (plans.take (k * size)).length = k * size := by
  rw [Nat.zero_add, List.length_take, min_eq_left hk.le]

theorem Through.inOrder_append {calls' : List Call} (h : Through size plans k calls)
    (hk : k * size < plans.length)
    (h' : InOrder size (k * size) ((plans.drop (k * size)).take size) calls') :
    InOrder size 0 (plans.take ((k + 1) * size)) (calls ++ calls') := by
  have hlength := zero_add_length_take hk
  rw [Nat.succ_mul, List.take_add]
  refine h.inOrder.append h.rows (fun _ ↦ ?_) (by rwa [hlength])
  rw [hlength]
  exact Nat.dvd_mul_left size k

theorem InOrder.of_take (h : InOrder size 0 (plans.take (k * size)) calls) :
    InOrder size 0 plans calls := by
  have hmore : InOrder size 0 (plans.take (k * size) ++ plans.drop (k * size)) calls := by
    refine h.extend fun hne ↦ ?_
    rw [zero_add_length_take (not_le.mp (mt List.drop_eq_nil_iff.mpr hne))]
    exact Nat.dvd_mul_left size k
  rwa [List.take_append_drop] at hmore

variable {x : Executor σ} {options : ExecOptions} {s s' : σ}

def SendsChunk (x : Executor σ) (options : ExecOptions) (plans : List Plan) (size k : Nat) (s : σ)
    (calls : List Call) (e? : Option Error) (s' : σ) : Prop :=
  Sends x options (runsOf ((chunk plans.length size k).slice plans)) s calls e? s'

namespace SendsChunk

variable {e? : Option Error}

theorem exists_sendsChunk (x : Executor σ) (options : ExecOptions) (plans : List Plan)
    (size k : Nat) (s : σ) :
    ∃ calls e? s', SendsChunk x options plans size k s calls e? s' :=
  exists_sends x options
    (fun _ hrun ↦ ⟨ne_nil_of_mem_runsOf hrun, sameText_of_mem_runsOf hrun⟩) s

theorem inOrder (h : SendsChunk x options plans size k s calls e? s') :
    InOrder size (k * size) ((plans.drop (k * size)).take size) calls := by
  have hin := Sends.inOrder h (isChain_runsOf _) (fun _ ↦ ne_nil_of_mem_runsOf)
    (le_refl (k * size)) (by
      rw [flatten_runsOf, slice_chunk, List.length_take, Nat.succ_mul]
      omega)
  rwa [flatten_runsOf, slice_chunk] at hin

theorem through (h : SendsChunk x options plans size k s calls none s')
    (hk : k * size < plans.length) (hbefore : Through size plans k before) :
    Through size plans (k + 1) (before ++ calls) := by
  obtain ⟨hanswered, hrows⟩ := Sends.answered_all h
  refine ⟨List.forall_mem_append.mpr ⟨hbefore.answered, hanswered⟩, ?_,
    hbefore.inOrder_append hk h.inOrder⟩
  rw [List.flatMap_append, hbefore.rows, hrows, flatten_runsOf, slice_chunk, Nat.succ_mul,
    List.take_add, List.map_append]

theorem stopped {e : Error} (h : SendsChunk x options plans size k s calls (some e) s')
    (hk : k * size < plans.length) (hbefore : Through size plans k before) {report : Report}
    (houtcomes : report.outcomes =
      outcomesUpTo size plans.length k (before.flatMap Call.counts))
    (hfailure : report.failure? =
      some ⟨k, ⟨k * size, min ((k + 1) * size) plans.length⟩, e⟩) :
    Tells size plans (before ++ calls) report := by
  obtain ⟨partly, last, rfl, hpartly, hlast, hlength⟩ := Sends.last_fails h
  rw [flatten_runsOf, slice_chunk, List.length_take] at hlength
  refine .inr ⟨k, before, partly, last, e, (List.append_assoc ..).symm, hk,
    List.forall_mem_append.mpr ⟨hbefore.answered, hpartly⟩, hlast, hbefore.rows, ?_, houtcomes,
    hfailure, ?_⟩
  · rw [List.flatMap_append, List.length_append, length_rows hbefore.rows hk]
    exact Nat.div_eq_of_lt_le (Nat.le_add_right ..) (by rw [Nat.succ_mul]; omega)
  · have hcounts := (length_counts hbefore.answered).trans (length_rows hbefore.rows hk)
    rw [Report.toResult, hfailure, houtcomes, length_outcomesUpTo hk hcounts]

theorem sendChunk_eq (h : SendsChunk x options plans size k s calls e? s') :
    sendChunk x options ((chunk plans.length size k).slice plans) s =
      (e?.elim (.ok (calls.flatMap Call.counts)) .error, s') := Sends.sendRuns_eq h

variable {rest : List Span}

theorem sendChunks_of_answered {s'' : σ} {outcomes : List Outcome} {failure? : Option Failure}
    (h : SendsChunk x options plans size k s calls none s')
    (hrest : sendChunks x options plans (k + 1) rest s' = ((outcomes, failure?), s'')) :
    sendChunks x options plans k (chunk plans.length size k :: rest) s =
      (((calls.flatMap Call.counts).map .applied ++ outcomes, failure?), s'') := by
  rw [sendChunks, h.sendChunk_eq]
  simp only [Option.elim_none, hrest]

theorem sendChunks_of_failed {e : Error}
    (h : SendsChunk x options plans size k s calls (some e) s') :
    sendChunks x options plans k (chunk plans.length size k :: rest) s =
      ((List.replicate (chunk plans.length size k).length (.failed k) ++
        rest.flatMap fun u ↦ List.replicate u.length .notAttempted,
        some ⟨k, chunk plans.length size k, e⟩), s') := by
  rw [sendChunks, h.sendChunk_eq]
  rfl

end SendsChunk

theorem sendChunks_tells (x : Executor σ) (options : ExecOptions) (hsize : 0 < size)
    (hcount : k + m = chunkCount plans.length size) (hbefore : Through size plans k before)
    (chunks : Nat) (s : σ) :
    ∃ calls outcomes failure? s', Answers x options s calls s' ∧
      sendChunks x options plans k ((List.range' k m).map (chunk plans.length size)) s =
        ((outcomes, failure?), s') ∧
      (∀ log, sendChunks (recorded x) options plans k
        ((List.range' k m).map (chunk plans.length size)) (s, log) =
          ((outcomes, failure?), s', log ++ calls)) ∧
      InOrder size 0 plans (before ++ calls) ∧
      Tells size plans (before ++ calls)
        ⟨(before.flatMap Call.counts).map .applied ++ outcomes, chunks, failure?⟩ := by
  -- `before` grows by the calls of a chunk as long as chunks are answered
  induction m generalizing k before s with
  | zero =>
    have hall : plans.take (k * size) = plans := by
      refine List.take_of_length_le ?_
      rw [← Nat.add_zero k, hcount]
      exact le_chunkCount_mul hsize plans.length
    have hrows := hbefore.rows
    have hinOrder := hbefore.inOrder
    rw [hall] at hrows hinOrder
    refine ⟨[], [], none, s, .nil s, rfl, fun log ↦ ?_, ?_, .inl ?_⟩
    · rw [List.append_nil]
      rfl
    · rwa [List.append_nil]
    · rw [List.append_nil, List.append_nil]
      refine ⟨hbefore.answered, hrows, rfl, rfl, ?_⟩
      simp [Report.toResult, Function.comp_def, Outcome.rows]
  | succ m ih =>
    have hk := mul_lt_of_lt_chunkCount (n := plans.length) hsize (k := k) (by omega)
    obtain ⟨calls, e?, s', h⟩ := SendsChunk.exists_sendsChunk x options plans size k s
    have hrecorded : ∀ log, SendsChunk (recorded x) options plans size k (s, log) calls e?
        (s', log ++ calls) := Sends.recorded h
    rw [List.range'_succ, List.map_cons]
    cases e? with
    | none =>
      obtain ⟨calls', outcomes, failure?, s'', hanswers, hsend, hsend', hinOrder, htells⟩ :=
        ih (by omega) (h.through hk hbefore) s'
      refine ⟨calls ++ calls', (calls.flatMap Call.counts).map .applied ++ outcomes, failure?, s'',
        (Sends.answers h).append hanswers, h.sendChunks_of_answered hsend, fun log ↦ ?_, ?_, ?_⟩
      · rw [(hrecorded log).sendChunks_of_answered (hsend' _), List.append_assoc]
      · rwa [← List.append_assoc]
      · rw [← List.append_assoc, ← List.append_assoc, ← List.map_append, ← List.flatMap_append]
        exact htells
    | some e =>
      refine ⟨calls, _, _, s', Sends.answers h, h.sendChunks_of_failed,
        fun log ↦ (hrecorded log).sendChunks_of_failed, ?_, h.stopped hk hbefore ?_ ?_⟩
      · exact (hbefore.inOrder_append hk h.inOrder).of_take
      · have hstop : plans.length - min ((k + 1) * size) plans.length =
            plans.length - (k + 1) * size := by
          omega
        rw [flatMap_replicate_chunk hsize (by omega), chunk_eq, outcomesUpTo, hstop,
          List.append_assoc]
        rfl
      · rw [chunk_eq]

/-- What a batch sends, how the executor answers it, and what is reported. -/
theorem exists_report (resolver : Resolver) (x : Executor σ) (options : ExecOptions) (t : Template)
    (units : List Context) (opts : BindOptions) (now : Int) (hunits : units ≠ []) (hsize : 0 < size)
    (hbind : bindUnits resolver t units opts now = .ok plans) (s : σ) :
    ∃ report calls s', Answers x options s calls s' ∧
      execute resolver x options t units opts size now s = (.ok report, s') ∧
      execute resolver (recorded x) options t units opts size now (s, []) =
        (.ok report, s', calls) ∧
      InOrder size 0 plans calls ∧ Tells size plans calls report := by
  have hstart : Through size plans 0 [] :=
    ⟨nofun, by rw [Nat.zero_mul]; rfl, .nil 0 _⟩
  have hranges : chunkRanges plans.length size =
      (List.range' 0 (chunkCount plans.length size)).map (chunk plans.length size) := by
    rw [chunkRanges, chunkSize, max_eq_left hsize, List.range_eq_range']
  obtain ⟨calls, outcomes, failure?, s', hanswers, hsend, hsend', hinOrder, htells⟩ :=
    sendChunks_tells x options hsize (Nat.zero_add _) hstart _ s
  rw [← hranges] at hsend hsend'
  have hnonempty : units.isEmpty = false := List.isEmpty_eq_false_iff.mpr hunits
  refine ⟨_, calls, s', hanswers, ?_, ?_, hinOrder, htells⟩
  · simp only [execute, hsize.ne', if_false, hnonempty, Bool.false_eq_true, hbind, hsend]
    rfl
  · simp only [execute, hsize.ne', if_false, hnonempty, Bool.false_eq_true, hbind, hsend' []]
    rfl

/-- A batch whose units all bind reports what its calls have made of them, and has sent their
plans in order, up to the first call that failed. -/
theorem execute_tells (resolver : Resolver) (x : Executor σ) (options : ExecOptions) (t : Template)
    (units : List Context) (opts : BindOptions) (size : Nat) (now : Int) (plans : List Plan)
    (hunits : units ≠ []) (hsize : 0 < size)
    (hbind : bindUnits resolver t units opts now = .ok plans) (s : σ) :
    ∃ report calls s',
      execute resolver x options t units opts size now s = (.ok report, s') ∧
      execute resolver (recorded x) options t units opts size now (s, []) =
        (.ok report, s', calls) ∧
      report.outcomes.length = units.length ∧
      InOrder size 0 plans calls ∧
      Tells size plans calls report := by
  have hlength : units.length = plans.length := (Outcome.forall₂_of_mapM hbind).length_eq
  obtain ⟨report, calls, s', -, hrun, hrecorded, hinOrder, htells⟩ :=
    exists_report resolver x options t units opts now hunits hsize hbind s
  exact ⟨report, calls, s', hrun, hrecorded, htells.length_outcomes.trans hlength.symm, hinOrder,
    htells⟩

/-- A driver whose third answer to a batch update has no number. -/
def thirdAnswerEmpty : Executor Nat where
  query _ n := (.ok [], n)
  update _ n := (.ok 0, n)
  updateBatch _ rows _ n := (.ok (if n = 2 then [] else rows.map fun _ ↦ 1), n + 1)

def deleteTemplate : Template where
  source := "DELETE FROM t WHERE k IN (:ks)"
  tokens := [.literal "DELETE FROM t WHERE k IN (", .parameter ⟨"ks", []⟩, .literal ")"]

def deleteUnits : List Context :=
  [[.int 1], [.int 2], [.int 3, .int 4], [.int 5], [.int 6]].map fun ks ↦
    Context.empty.setParam "ks" (.list ks)

theorem deleteUnits_tells :
    ∃ report calls s',
      execute .byName thirdAnswerEmpty {} deleteTemplate deleteUnits {} 2 0 0 =
        (.ok report, s') ∧
      report.outcomes =
        [.applied 1, .applied 1, .failed 1, .failed 1, .notAttempted] ∧
      calls.map Call.sql = ["DELETE FROM t WHERE k IN (?)", "DELETE FROM t WHERE k IN (?, ?)",
        "DELETE FROM t WHERE k IN (?)"] ∧
      ∃ plans, bindUnits .byName deleteTemplate deleteUnits {} 0 = .ok plans ∧
        InOrder 2 0 plans calls ∧ Tells 2 plans calls report := by
  obtain ⟨report, calls, s', hrun, hrecorded, -, hinOrder, htells⟩ :=
    execute_tells .byName thirdAnswerEmpty {} deleteTemplate deleteUnits {} 2 0 _
      (by decide) (by decide) rfl 0
  refine ⟨report, calls, s', hrun, ?_, ?_, _, rfl, hinOrder, htells⟩
  · cases hrun
    rfl
  · cases hrecorded
    rfl

end QueryCatalog.Batch
