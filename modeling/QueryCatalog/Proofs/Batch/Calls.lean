import QueryCatalog.Batch.Execution
import Mathlib.Data.List.SplitBy

namespace QueryCatalog.Batch

@[ext]
structure Call where
  sql : String
  rows : List (List Value)
  answer : Result (List Nat)

namespace Call

def counts (c : Call) : List Nat :=
  match c.answer with
  | .ok counts => counts
  | .error _ => []

/-- Why the call failed; an answer needs one number for every row. -/
def error? (c : Call) : Option Error :=
  match c.answer with
  | .ok counts =>
    if counts.length = c.rows.length then none
    else some (.countMismatch counts.length c.rows.length)
  | .error e => some e

structure Carries (c : Call) (run : List Plan) : Prop where
  nonempty : run ≠ []
  rows : c.rows = run.map Plan.values
  sql : ∀ p ∈ run, p.sql = c.sql

end Call

/-- The calls carry plans from the front of a list, whose first plan is the unit `start`. No call
leaves its chunk, and none could carry one plan more: the next plan is of another chunk or has
another text. -/
inductive InOrder (size : Nat) : Nat → List Plan → List Call → Prop
  | nil (start : Nat) (plans : List Plan) : InOrder size start plans []
  | cons {start : Nat} {run plans : List Plan} {c : Call} {calls : List Call} (hc : c.Carries run)
      (hchunk : (start + run.length - 1) / size = start / size)
      (hnext : ∀ p ∈ plans.head?, (start + run.length) / size = start / size → p.sql ≠ c.sql)
      (h : InOrder size (start + run.length) plans calls) :
      InOrder size start (run ++ plans) (c :: calls)

variable {σ : Type}

/-- The executor that also writes down every batch update. -/
def recorded (x : Executor σ) : Executor (σ × List Call) where
  query st s :=
    let (rows, s') := x.query st s.1
    (rows, s', s.2)
  update st s :=
    let (count, s') := x.update st s.1
    (count, s', s.2)
  updateBatch sql rows options s :=
    let (answer, s') := x.updateBatch sql rows options s.1
    (answer, s', s.2 ++ [⟨sql, rows, answer⟩])

inductive Answers (x : Executor σ) (options : ExecOptions) : σ → List Call → σ → Prop
  | nil (s : σ) : Answers x options s [] s
  | cons {s s' s'' : σ} {c : Call} {calls : List Call}
      (hcall : x.updateBatch c.sql c.rows options s = (c.answer, s'))
      (h : Answers x options s' calls s'') : Answers x options s (c :: calls) s''

theorem Answers.append {x : Executor σ} {options : ExecOptions} {s s' s'' : σ}
    {calls calls' : List Call} (h : Answers x options s calls s')
    (h' : Answers x options s' calls' s'') : Answers x options s (calls ++ calls') s'' := by
  induction h with
  | nil => exact h'
  | cons hcall _ ih => exact .cons hcall (ih h')

/-- The calls that send runs one after the other, up to the first call that fails. -/
inductive Sends (x : Executor σ) (options : ExecOptions) :
    List (List Plan) → σ → List Call → Option Error → σ → Prop
  | done (s : σ) : Sends x options [] s [] none s
  | answered {run : List Plan} {runs : List (List Plan)} {s s' s'' : σ} {c : Call}
      {calls : List Call} {e? : Option Error} (hc : c.Carries run)
      (hcall : x.updateBatch c.sql c.rows options s = (c.answer, s')) (hok : c.error? = none)
      (h : Sends x options runs s' calls e? s'') :
      Sends x options (run :: runs) s (c :: calls) e? s''
  | failed {run : List Plan} {runs : List (List Plan)} {s s' : σ} {c : Call} {e : Error}
      (hc : c.Carries run) (hcall : x.updateBatch c.sql c.rows options s = (c.answer, s'))
      (hfail : c.error? = some e) : Sends x options (run :: runs) s [c] (some e) s'

section Runs

variable {plans run : List Plan}

def SameText (run : List Plan) : Prop := ∃ sql, ∀ p ∈ run, p.sql = sql

def Differ (run run' : List Plan) : Prop := ∀ p ∈ run, ∀ q ∈ run', p.sql ≠ q.sql

theorem flatten_runsOf (plans : List Plan) : (runsOf plans).flatten = plans :=
  List.flatten_splitBy _ plans

theorem ne_nil_of_mem_runsOf (h : run ∈ runsOf plans) : run ≠ [] := List.ne_nil_of_mem_splitBy h

theorem sameText_of_mem_runsOf (h : run ∈ runsOf plans) : SameText run := by
  have hchain := List.isChain_of_mem_splitBy h
  cases run with
  | nil => exact ⟨"", nofun⟩
  | cons p run =>
    have htrans : IsTrans Plan fun p q ↦ (p.sql == q.sql) = true :=
      ⟨fun _ _ _ h h' ↦ beq_iff_eq.mpr ((eq_of_beq h).trans (eq_of_beq h'))⟩
    have hpairwise := List.isChain_iff_pairwise.mp hchain
    refine ⟨p.sql, List.forall_mem_cons.mpr ⟨rfl, fun q hq ↦ ?_⟩⟩
    exact (eq_of_beq (List.rel_of_pairwise_cons hpairwise hq)).symm

theorem SameText.differ {run' : List Plan} (h : SameText run) (h' : SameText run') {p q : Plan}
    (hp : p ∈ run) (hq : q ∈ run') (hne : p.sql ≠ q.sql) : Differ run run' := by
  obtain ⟨sql, hsql⟩ := h
  obtain ⟨sql', hsql'⟩ := h'
  intro p' hp' q' hq'
  rw [hsql p' hp', hsql' q' hq', ← hsql p hp, ← hsql' q hq]
  exact hne

theorem isChain_runsOf (plans : List Plan) : (runsOf plans).IsChain Differ := by
  have hchain := List.isChain_getLast_head_splitBy (fun p q : Plan ↦ p.sql == q.sql) plans
  refine hchain.imp_of_mem_imp fun run run' hrun hrun' ⟨hne, hne', hdiffer⟩ ↦ ?_
  exact (sameText_of_mem_runsOf hrun).differ (sameText_of_mem_runsOf hrun')
    (List.getLast_mem hne) (List.head_mem hne') (by simpa using hdiffer)

end Runs

section Sends

variable {x : Executor σ} {options : ExecOptions} {run : List Plan} {runs : List (List Plan)}
  {s s' : σ} {c : Call} {calls : List Call} {e? : Option Error}

theorem Call.Carries.sendRun_eq (h : c.Carries run)
    (hcall : x.updateBatch c.sql c.rows options s = (c.answer, s')) :
    sendRun x options run s = (c.error?.elim (.ok c.counts) .error, s') := by
  obtain ⟨p, ps, rfl⟩ := List.exists_cons_of_ne_nil h.nonempty
  have hcall' : x.updateBatch p.sql ((p :: ps).map Plan.values) options s = (c.answer, s') := by
    rw [h.sql p (List.mem_cons_self ..), ← h.rows, hcall]
  have hlength : (p :: ps).length = c.rows.length := by
    rw [h.rows, List.length_map]
  rw [sendRun, Action.andThen, hcall', hlength]
  unfold Call.error? Call.counts
  cases c.answer with
  | error e => rfl
  | ok counts =>
    by_cases hcounts : counts.length = c.rows.length
    · simp only [hcounts, if_true]
      rfl
    · simp only [hcounts, if_false]
      rfl

theorem Sends.sendRuns_eq (h : Sends x options runs s calls e? s') :
    sendRuns x options runs s = (e?.elim (.ok (calls.flatMap Call.counts)) .error, s') := by
  induction h with
  | done s => rfl
  | @answered run runs s s' s'' c calls e? hc hcall hok _ ih =>
    have hrun := hc.sendRun_eq hcall
    rw [hok] at hrun
    simp only [sendRuns, Action.andThen, hrun, ih, Option.elim_none]
    cases e? <;> rfl
  | failed hc hcall hfail =>
    have hrun := hc.sendRun_eq hcall
    rw [hfail] at hrun
    simp only [sendRuns, Action.andThen, hrun, Option.elim_some]

theorem exists_sends (x : Executor σ) (options : ExecOptions)
    (hruns : ∀ run ∈ runs, run ≠ [] ∧ SameText run) (s : σ) :
    ∃ calls e? s', Sends x options runs s calls e? s' := by
  induction runs generalizing s with
  | nil => exact ⟨[], none, s, .done s⟩
  | cons run runs ih =>
    obtain ⟨⟨hne, sql, hsql⟩, hruns⟩ := List.forall_mem_cons.mp hruns
    let c : Call :=
      ⟨sql, run.map Plan.values, (x.updateBatch sql (run.map Plan.values) options s).1⟩
    have hc : c.Carries run := ⟨hne, rfl, hsql⟩
    cases herror : c.error? with
    | some e => exact ⟨[c], some e, _, .failed hc rfl herror⟩
    | none =>
      obtain ⟨calls, e?, s', h⟩ := ih hruns (x.updateBatch sql (run.map Plan.values) options s).2
      exact ⟨c :: calls, e?, s', .answered hc rfl herror h⟩

theorem Sends.recorded (h : Sends x options runs s calls e? s') (log : List Call) :
    Sends (Batch.recorded x) options runs (s, log) calls e? (s', log ++ calls) := by
  have hcall : ∀ {s s' : σ} {c : Call} (log : List Call),
      x.updateBatch c.sql c.rows options s = (c.answer, s') →
        (Batch.recorded x).updateBatch c.sql c.rows options (s, log) =
          (c.answer, s', log ++ [c]) := by
    intro s s' c log hcall
    simp only [Batch.recorded, hcall]
  induction h generalizing log with
  | done s =>
    rw [List.append_nil]
    exact .done (s, log)
  | answered hc hx hok _ ih =>
    rw [List.append_cons]
    exact .answered hc (hcall log hx) hok (ih _)
  | failed hc hx hfail => exact .failed hc (hcall log hx) hfail

theorem Sends.answers (h : Sends x options runs s calls e? s') : Answers x options s calls s' := by
  induction h with
  | done s => exact .nil s
  | answered _ hcall _ _ ih => exact .cons hcall ih
  | failed _ hcall _ => exact .cons hcall (.nil _)

theorem Call.Carries.sql_ne (h : c.Carries run) (hdiffer : (run :: runs).IsChain Differ)
    (hruns : ∀ run' ∈ runs, run' ≠ []) : ∀ p ∈ runs.flatten.head?, p.sql ≠ c.sql := by
  cases runs with
  | nil => nofun
  | cons run' runs =>
    obtain ⟨p, ps, rfl⟩ := List.exists_cons_of_ne_nil h.nonempty
    obtain ⟨q, qs, rfl⟩ := List.exists_cons_of_ne_nil (hruns run' (List.mem_cons_self ..))
    rintro _ ⟨⟩
    rw [← h.sql p (List.mem_cons_self ..)]
    have hhead := (List.isChain_cons.mp hdiffer).1 _ rfl
    exact (hhead p (List.mem_cons_self ..) q (List.mem_cons_self ..)).symm

theorem Call.Carries.within_chunk {size start k : Nat} (h : c.Carries run) (hlow : k * size ≤ start)
    (hhigh : start + run.length ≤ (k + 1) * size) :
    (start + run.length - 1) / size = start / size := by
  have hpos := List.length_pos_iff.mpr h.nonempty
  rw [Nat.div_eq_of_lt_le (k := k) (by omega) (by omega),
    Nat.div_eq_of_lt_le (k := k) (by omega) (by omega)]

theorem Sends.inOrder {size start k : Nat} (h : Sends x options runs s calls e? s')
    (hdiffer : runs.IsChain Differ) (hruns : ∀ run ∈ runs, run ≠ []) (hlow : k * size ≤ start)
    (hhigh : start + runs.flatten.length ≤ (k + 1) * size) :
    InOrder size start runs.flatten calls := by
  induction h generalizing start with
  | done s => exact .nil start _
  | answered hc _ _ _ ih =>
    obtain ⟨-, hruns⟩ := List.forall_mem_cons.mp hruns
    have hnext := hc.sql_ne hdiffer hruns
    rw [List.flatten_cons, List.length_append] at hhigh
    exact .cons hc (hc.within_chunk hlow (by omega)) (fun p hp _ ↦ hnext p hp)
      (ih hdiffer.tail hruns (by omega) (by omega))
  | failed hc _ _ =>
    have hnext := hc.sql_ne hdiffer (List.forall_mem_cons.mp hruns).2
    rw [List.flatten_cons, List.length_append] at hhigh
    exact .cons hc (hc.within_chunk hlow (by omega)) (fun p hp _ ↦ hnext p hp) (.nil _ _)

theorem Sends.answered_all (h : Sends x options runs s calls none s') :
    (∀ c ∈ calls, c.error? = none) ∧
      calls.flatMap Call.rows = runs.flatten.map Plan.values := by
  generalize he : none = e? at h
  induction h with
  | done s => exact ⟨nofun, rfl⟩
  | answered hc _ hok _ ih =>
    subst he
    obtain ⟨hall, hrows⟩ := ih rfl
    refine ⟨List.forall_mem_cons.mpr ⟨hok, hall⟩, ?_⟩
    rw [List.flatMap_cons, List.flatten_cons, List.map_append, hc.rows, hrows]
  | failed => cases he

theorem Sends.last_fails {e : Error} (h : Sends x options runs s calls (some e) s') :
    ∃ before last, calls = before ++ [last] ∧ (∀ c ∈ before, c.error? = none) ∧
      last.error? = some e ∧ (before.flatMap Call.rows).length < runs.flatten.length := by
  generalize he : some e = e? at h
  induction h with
  | done s => cases he
  | @answered run runs _ _ _ c _ _ hc _ hok _ ih =>
    obtain ⟨before, last, rfl, hbefore, hlast, hlength⟩ := ih he
    refine ⟨c :: before, last, rfl, List.forall_mem_cons.mpr ⟨hok, hbefore⟩, hlast, ?_⟩
    rw [List.flatMap_cons, List.flatten_cons, List.length_append, List.length_append, hc.rows,
      List.length_map]
    exact Nat.add_lt_add_left hlength _
  | @failed run runs _ _ c _ hc _ hfail =>
    cases he
    refine ⟨[], c, rfl, nofun, hfail, ?_⟩
    rw [List.flatten_cons, List.length_append]
    exact Nat.add_pos_left (List.length_pos_iff.mpr hc.nonempty) _

end Sends

theorem Call.length_counts {c : Call} (h : c.error? = none) : c.counts.length = c.rows.length := by
  unfold Call.error? at h
  unfold Call.counts
  cases hanswer : c.answer with
  | error e =>
    rw [hanswer] at h
    cases h
  | ok counts =>
    rw [hanswer] at h
    change (if counts.length = c.rows.length then none else _) = none at h
    by_contra hcounts
    rw [if_neg hcounts] at h
    cases h

theorem length_counts {calls : List Call} (h : ∀ c ∈ calls, c.error? = none) :
    (calls.flatMap Call.counts).length = (calls.flatMap Call.rows).length := by
  induction calls with
  | nil => rfl
  | cons c calls ih =>
    obtain ⟨hc, hcalls⟩ := List.forall_mem_cons.mp h
    rw [List.flatMap_cons, List.flatMap_cons, List.length_append, List.length_append,
      Call.length_counts hc, ih hcalls]

namespace InOrder

variable {size start : Nat} {plans plans' run : List Plan} {c : Call} {calls calls' : List Call}

/-- More plans from the next chunk on leave a run as long as it was. -/
theorem next_append (hc : c.Carries run)
    (hnext : ∀ p ∈ plans.head?, (start + run.length) / size = start / size → p.sql ≠ c.sql)
    (hbound : plans' ≠ [] → size ∣ start + (run ++ plans).length) :
    ∀ p ∈ (plans ++ plans').head?, (start + run.length) / size = start / size → p.sql ≠ c.sql := by
  cases plans with
  | cons q plans => exact hnext
  | nil =>
    intro p hp hsame
    have hne : plans' ≠ [] := by
      rintro rfl
      cases hp
    have hdvd := hbound hne
    rw [List.append_nil] at hdvd
    have hlt := Nat.div_lt_div_of_lt_of_dvd hdvd
      (Nat.lt_add_of_pos_right (List.length_pos_iff.mpr hc.nonempty) : start < _)
    exact absurd hsame hlt.ne'

theorem extend (h : InOrder size start plans calls)
    (hbound : plans' ≠ [] → size ∣ start + plans.length) :
    InOrder size start (plans ++ plans') calls := by
  induction h with
  | nil start plans => exact .nil start (plans ++ plans')
  | cons hc hchunk hnext _ ih =>
    rw [List.append_assoc]
    refine .cons hc hchunk (next_append hc hnext hbound) (ih fun hne ↦ ?_)
    rw [Nat.add_assoc, ← List.length_append]
    exact hbound hne

theorem append (h : InOrder size start plans calls)
    (hrows : calls.flatMap Call.rows = plans.map Plan.values)
    (hbound : plans' ≠ [] → size ∣ start + plans.length)
    (h' : InOrder size (start + plans.length) plans' calls') :
    InOrder size start (plans ++ plans') (calls ++ calls') := by
  induction h with
  | nil start plans =>
    obtain rfl := List.map_eq_nil_iff.mp hrows.symm
    exact h'
  | @cons start run plans c calls hc hchunk hnext _ ih =>
    have hmore := next_append hc hnext hbound
    rw [List.length_append, ← Nat.add_assoc] at hbound h'
    rw [List.flatMap_cons, List.map_append, hc.rows, List.append_cancel_left_eq] at hrows
    rw [List.append_assoc]
    exact .cons hc hchunk hmore (ih hrows hbound h')

theorem eq_nil (h : InOrder size start [] calls) : calls = [] := by
  generalize hplans : [] = plans at h
  cases h with
  | nil => rfl
  | cons hc => exact absurd (List.append_eq_nil_iff.mp hplans.symm).1 hc.nonempty

end InOrder

section Unique

variable {size start : Nat} {plans plans' run run' : List Plan} {c c' : Call}
  {calls calls' : List Call} {e : Error}

/-- All plans were sent, or the last call failed and the plans behind it were given up. -/
def Ended (plans : List Plan) (calls : List Call) : Prop :=
  (∀ c ∈ calls, c.error? = none) ∧ calls.flatMap Call.rows = plans.map Plan.values ∨
    ∃ before last e, calls = before ++ [last] ∧ (∀ c ∈ before, c.error? = none) ∧
      last.error? = some e

theorem Ended.eq_nil (h : Ended plans []) : plans = [] := by
  rcases h with ⟨-, hrows⟩ | ⟨before, last, e, hcalls, -⟩
  · exact List.map_eq_nil_iff.mp hrows.symm
  · exact absurd hcalls.symm (List.append_ne_nil_of_right_ne_nil _ (List.cons_ne_nil _ _))

theorem Ended.tail (h : Ended (run ++ plans) (c :: calls)) (hc : c.Carries run)
    (hok : c.error? = none) : Ended plans calls := by
  rcases h with ⟨hall, hrows⟩ | ⟨before, last, e, hcalls, hbefore, hlast⟩
  · rw [List.flatMap_cons, List.map_append, hc.rows, List.append_cancel_left_eq] at hrows
    exact .inl ⟨(List.forall_mem_cons.mp hall).2, hrows⟩
  · cases before with
    | nil =>
      cases hcalls
      cases hok.symm.trans hlast
    | cons b before =>
      cases hcalls
      exact .inr ⟨before, last, e, rfl, (List.forall_mem_cons.mp hbefore).2, hlast⟩

theorem Ended.tail_eq_nil (h : Ended plans (c :: calls)) (hfail : c.error? = some e) :
    calls = [] := by
  rcases h with ⟨hall, -⟩ | ⟨before, last, e', hcalls, hbefore, -⟩
  · cases hfail.symm.trans (List.forall_mem_cons.mp hall).1
  · cases before with
    | nil =>
      cases hcalls
      rfl
    | cons b before =>
      cases hcalls
      cases hfail.symm.trans (List.forall_mem_cons.mp hbefore).1

/-- A run of one text inside of a chunk cannot be longer than one that ends where it has to. -/
theorem Call.Carries.length_le (hc : c.Carries run) (hc' : c'.Carries run')
    (hchunk : (start + run.length - 1) / size = start / size)
    (hnext : ∀ p ∈ plans'.head?, (start + run'.length) / size = start / size → p.sql ≠ c'.sql)
    (heq : run' ++ plans' = run ++ plans) : run.length ≤ run'.length := by
  by_contra hlonger
  obtain ⟨q, qs, rfl⟩ := List.exists_cons_of_ne_nil hc'.nonempty
  rcases List.append_eq_append_iff.mp heq with ⟨rest, rfl, rfl⟩ | ⟨rest, hrun, -⟩
  · cases rest with
    | nil => exact hlonger (by simp)
    | cons p rest =>
      have htext : p.sql = c'.sql := by
        rw [hc.sql p (List.mem_append_right _ (List.mem_cons_self ..)),
          ← hc.sql q (List.mem_append_left _ (List.mem_cons_self ..)),
          hc'.sql q (List.mem_cons_self ..)]
      refine hnext p rfl ?_ htext
      have hlow : start / size ≤ (start + (q :: qs).length) / size :=
        Nat.div_le_div_right (Nat.le_add_right ..)
      have hhigh : (start + (q :: qs).length) / size ≤ start / size := by
        rw [← hchunk, List.length_append, List.length_cons (a := p)]
        exact Nat.div_le_div_right (by omega)
      exact hhigh.antisymm hlow
  · rw [hrun, List.length_append] at hlonger
    omega

variable {x : Executor σ} {options : ExecOptions} {s t t' : σ}

theorem Call.Carries.unique (hc : c.Carries run) (hc' : c'.Carries run)
    (hcall : x.updateBatch c.sql c.rows options s = (c.answer, t))
    (hcall' : x.updateBatch c'.sql c'.rows options s = (c'.answer, t')) : c = c' ∧ t = t' := by
  obtain ⟨p, ps, rfl⟩ := List.exists_cons_of_ne_nil hc.nonempty
  have hsql : c.sql = c'.sql :=
    (hc.sql p (List.mem_cons_self ..)).symm.trans (hc'.sql p (List.mem_cons_self ..))
  have hrows : c.rows = c'.rows := hc.rows.trans hc'.rows.symm
  rw [← hsql, ← hrows, hcall] at hcall'
  obtain ⟨hanswer, ht⟩ := Prod.mk.inj hcall'
  exact ⟨Call.ext hsql hrows hanswer, ht⟩

/-- What is to be sent and how the executor answers leave one choice of the calls. -/
theorem InOrder.calls_eq (h : InOrder size start plans calls) (h' : InOrder size start plans calls')
    (hanswers : Answers x options s calls t) (hanswers' : Answers x options s calls' t')
    (hended : Ended plans calls) (hended' : Ended plans calls') : calls = calls' ∧ t = t' := by
  induction h generalizing calls' s with
  | nil start plans =>
    obtain rfl := hended.eq_nil
    obtain rfl := h'.eq_nil
    cases hanswers
    cases hanswers'
    exact ⟨rfl, rfl⟩
  | @cons start run plans c calls hc hchunk hnext _ ih =>
    generalize hplans : run ++ plans = plans₀ at h' hended'
    cases h' with
    | nil => exact absurd (List.append_eq_nil_iff.mp (hplans.trans hended'.eq_nil)).1 hc.nonempty
    | @cons _ run' plans' c' calls' hc' hchunk' hnext' h' =>
      have hlength : run.length = run'.length :=
        (hc.length_le hc' hchunk hnext' hplans.symm).antisymm
          (hc'.length_le hc hchunk' hnext hplans)
      obtain ⟨rfl, rfl⟩ := List.append_inj hplans hlength
      cases hanswers with
      | cons hcall hanswers =>
        cases hanswers' with
        | cons hcall' hanswers' =>
          obtain ⟨rfl, rfl⟩ := hc.unique hc' hcall hcall'
          cases herror : c.error? with
          | none =>
            obtain ⟨rfl, rfl⟩ := ih h' hanswers hanswers' (hended.tail hc herror)
              (hended'.tail hc herror)
            exact ⟨rfl, rfl⟩
          | some e =>
            obtain rfl := hended.tail_eq_nil herror
            obtain rfl := hended'.tail_eq_nil herror
            cases hanswers
            cases hanswers'
            exact ⟨rfl, rfl⟩

end Unique

end QueryCatalog.Batch
