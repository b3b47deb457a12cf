import QueryCatalog.Execution.Trace
import QueryCatalog.Proofs.Batch.Calls

namespace QueryCatalog

def Event.isStatement : Event → Bool
  | query _ | update _ | batch _ _ _ => true
  | _ => false

namespace Traced

variable {σ τ α β : Type} {s s' s'' : σ}

/-- A recorded operation has this outcome and notes these events, whatever was noted before. -/
def Runs (m : Action (Traced σ) α) (s : σ) (r : Result α) (s' : σ) (noted : List Event) : Prop :=
  ∀ events, m ⟨s, events⟩ = (r, ⟨s', noted.reverse ++ events⟩)

namespace Runs

variable {m : Action (Traced σ) α} {f : α → Action (Traced σ) β} {noted noted' : List Event}

theorem ofResult (r : Result α) (s : σ) : Runs (.ofResult r) s r s [] := fun _ ↦ rfl

theorem noting (event : Event) {m : Action σ α} {r : Result α} (h : m s = (r, s')) :
    Runs (noting event m) s r s' [event] := by
  intro events
  simp only [Traced.noting, Traced.lift, Traced.note, h]
  rfl

theorem andThen_ok {a : α} {r : Result β} (h : Runs m s (.ok a) s' noted)
    (h' : Runs (f a) s' r s'' noted') : Runs (Action.andThen m f) s r s'' (noted ++ noted') := by
  intro events
  rw [Action.andThen, h events, List.reverse_append, List.append_assoc]
  exact h' _

theorem andThen_error {e : Error} (h : Runs m s (.error e) s' noted) :
    Runs (Action.andThen m f) s (.error e) s' noted := by
  intro events
  rw [Action.andThen, h events]

theorem eq {r r' : Result α} (h : Runs m s r s' noted) (h' : Runs m s r' s'' noted') :
    r = r' ∧ s' = s'' ∧ noted = noted' := by
  have heq := (h []).symm.trans (h' [])
  simp only [List.append_nil, Prod.mk.injEq, Traced.mk.injEq, List.reverse_inj] at heq
  exact heq

end Runs

structure Sends (m : Action (Traced σ) α) (s : σ) (r : Result α) (s' : σ) (sent : List Event) :
    Prop where
  runs : Runs m s r s' sent
  statements : ∀ event ∈ sent, event.isStatement = true

def SendsOnly (m : Action (Traced σ) α) : Prop := ∀ s, ∃ r s' sent, Sends m s r s' sent

namespace SendsOnly

variable {m : Action (Traced σ) α} {f : α → Action (Traced σ) β}

theorem ofResult (r : Result α) : SendsOnly (.ofResult r : Action (Traced σ) α) :=
  fun s ↦ ⟨r, s, [], .ofResult r s, nofun⟩

theorem noting {event : Event} (hevent : event.isStatement = true) (m : Action σ α) :
    SendsOnly (noting event m) := by
  refine fun s ↦ ⟨_, _, [event], .noting event rfl, ?_⟩
  rintro _ hmem
  rwa [List.mem_singleton.mp hmem]

theorem andThen (hm : SendsOnly m) (hf : ∀ a, SendsOnly (f a)) :
    SendsOnly (Action.andThen m f) := by
  intro s
  obtain ⟨r, s', sent, hruns, hsent⟩ := hm s
  cases r with
  | error e => exact ⟨_, s', sent, hruns.andThen_error, hsent⟩
  | ok a =>
    obtain ⟨r, s'', sent', hruns', hsent'⟩ := hf a s'
    refine ⟨r, s'', sent ++ sent', hruns.andThen_ok hruns', fun event hmem ↦ ?_⟩
    exact (List.mem_append.mp hmem).elim (hsent event) (hsent' event)

end SendsOnly

/-- An executor that notes every statement, those of a batch together or one by one. -/
structure Notes (X : Executor (Traced σ)) (x : Executor σ) : Prop where
  query : ∀ {st s r s'}, x.query st s = (r, s') → Runs (X.query st) s r s' [.query st]
  update : ∀ {st s r s'}, x.update st s = (r, s') → Runs (X.update st) s r s' [.update st]
  updateBatch : ∀ sql rows options, SendsOnly (X.updateBatch sql rows options)

theorem notes_executor (x : Executor σ) : Notes (executor x) x where
  query := .noting _
  update := .noting _
  updateBatch _ _ _ := .noting rfl _

theorem notes_executorByRow (x : Executor σ) : Notes (executorByRow x) x where
  query := .noting _
  update := .noting _
  updateBatch sql rows options := by
    show SendsOnly (Executor.updateEach (executor x).update sql rows options)
    induction rows with
    | nil => exact .ofResult _
    | cons row rows ih =>
      exact .andThen (.noting rfl _) fun _ ↦ ih.andThen fun _ ↦ .ofResult _

theorem exists_answers {X : Executor (Traced σ)} {x : Executor σ} (hX : Notes X x)
    {options : ExecOptions} {t u : Traced σ} {calls : List Batch.Call}
    (h : Batch.Answers X options t calls u) :
    ∃ (s' : σ) (sent : List Event), (∀ event ∈ sent, event.isStatement = true) ∧ ∀ events,
      Batch.Answers X options ⟨t.state, events⟩ calls ⟨s', sent.reverse ++ events⟩ := by
  induction h with
  | nil t => exact ⟨t.state, [], nofun, fun events ↦ .nil _⟩
  | @cons t t' _ c _ hcall _ ih =>
    obtain ⟨r, s', sent, hruns, hsent⟩ := hX.updateBatch c.sql c.rows options t.state
    obtain ⟨rfl, rfl⟩ := Prod.mk.inj (hcall.symm.trans (hruns t.events))
    obtain ⟨s'', sent', hsent', hanswers⟩ := ih
    refine ⟨s'', sent ++ sent', ?_, fun events ↦ .cons (hruns events) ?_⟩
    · exact fun event hmem ↦ (List.mem_append.mp hmem).elim (hsent event) (hsent' event)
    · rw [List.reverse_append, List.append_assoc]
      exact hanswers _

section Transaction

/-- What an operation may do in a state: its outcome, the state behind it, and its statements. -/
abbrev Work (σ α : Type) := σ → Result α → σ → List Event → Prop

/-- A recorded operation does exactly what is said of it. -/
structure Realizes (m : Action (Traced σ) α) (work : Work σ α) : Prop where
  total : ∀ s, ∃ r s' sent, work s r s' sent
  runs : ∀ {s r s' sent}, work s r s' sent → Runs m s r s' sent

theorem Realizes.eq {m : Action (Traced σ) α} {work : Work σ α} (h : Realizes m work)
    {r r' : Result α} {sent sent' : List Event} (hwork : work s r s' sent)
    (hwork' : work s r' s'' sent') : r = r' ∧ s' = s'' ∧ sent = sent' :=
  (h.runs hwork).eq (h.runs hwork')

theorem Realizes.runs_iff {m : Action (Traced σ) α} {work : Work σ α} (h : Realizes m work)
    {r : Result α} {noted : List Event} : Runs m s r s' noted ↔ work s r s' noted := by
  refine ⟨fun hruns ↦ ?_, h.runs⟩
  obtain ⟨r₀, s₀, noted₀, hwork⟩ := h.total s
  obtain ⟨rfl, rfl, rfl⟩ := (h.runs hwork).eq hruns
  exact hwork

variable {t? : Option (Transactions σ τ)} {declared? : Option TransactionOptions} {work : Work σ α}

inductive Core (t? : Option (Transactions σ τ)) (declared? : Option TransactionOptions)
    (work : Work σ α) (s : σ) : Result α → σ → List Event → Prop
  | plain {r : Result α} {s' : σ} {sent : List Event} (hnone : declared? = none)
      (hwork : work s r s' sent) : Core t? declared? work s r s' sent
  | impossible {options : TransactionOptions} (hdeclared : declared? = some options)
      (hnone : t? = none) : Core t? declared? work s (.error .noTransactions) s []
  | refused {options : TransactionOptions} {t : Transactions σ τ} {e : Error} {s' : σ}
      (hdeclared : declared? = some options) (ht : t? = some t)
      (hstart : t.start options s = (.error e, s')) :
      Core t? declared? work s (.error e) s' [.start options]
  | committed {options : TransactionOptions} {t : Transactions σ τ} {scope : τ} {a : α}
      {s₁ s₂ s₃ : σ} {sent : List Event} (hdeclared : declared? = some options) (ht : t? = some t)
      (hstart : t.start options s = (.ok scope, s₁)) (hwork : work s₁ (.ok a) s₂ sent)
      (hcommit : t.commit scope s₂ = (.ok (), s₃)) :
      Core t? declared? work s (.ok a) s₃ (.start options :: sent ++ [.commit])
  | uncommitted {options : TransactionOptions} {t : Transactions σ τ} {scope : τ} {a : α}
      {e : Error} {s₁ s₂ s₃ : σ} {sent : List Event} (hdeclared : declared? = some options)
      (ht : t? = some t) (hstart : t.start options s = (.ok scope, s₁))
      (hwork : work s₁ (.ok a) s₂ sent) (hcommit : t.commit scope s₂ = (.error e, s₃)) :
      Core t? declared? work s (.error e) s₃ (.start options :: sent ++ [.commit])
  /-- The outcome of the rollback is not looked at. -/
  | rolledBack {options : TransactionOptions} {t : Transactions σ τ} {scope : τ} {e : Error}
      {s₁ s₂ : σ} {sent : List Event} (hdeclared : declared? = some options) (ht : t? = some t)
      (hstart : t.start options s = (.ok scope, s₁)) (hwork : work s₁ (.error e) s₂ sent) :
      Core t? declared? work s (.error e) (t.rollback scope s₂).2
        (.start options :: sent ++ [.rollback])

inductive Succeeds (t? : Option (Transactions σ τ)) (declared? : Option TransactionOptions)
    (work : Work σ α) (s : σ) (a : α) : Prop
  | plain {s' : σ} {sent : List Event} (hnone : declared? = none) (hwork : work s (.ok a) s' sent)
  | inTransaction {options : TransactionOptions} {t : Transactions σ τ} {scope : τ} {s₁ s₂ s₃ : σ}
      {sent : List Event} (hdeclared : declared? = some options) (ht : t? = some t)
      (hstart : t.start options s = (.ok scope, s₁)) (hwork : work s₁ (.ok a) s₂ sent)
      (hcommit : t.commit scope s₂ = (.ok (), s₃))

theorem Core.succeeds {a : α} {core : List Event} (h : Core t? declared? work s (.ok a) s' core) :
    Succeeds t? declared? work s a := by
  cases h with
  | plain hnone hwork => exact .plain hnone hwork
  | committed hdeclared ht hstart hwork hcommit =>
    exact .inTransaction hdeclared ht hstart hwork hcommit

theorem Succeeds.outcome_eq {m : Action (Traced σ) α} {a : α} (h : Succeeds t? declared? work s a)
    (hm : Realizes m work) {r : Result α} {core : List Event}
    (hcore : Core t? declared? work s r s' core) : r = .ok a := by
  cases h with
  | plain hnone hwork =>
    subst hnone
    cases hcore with
    | plain _ hwork' => exact (hm.eq hwork' hwork).1
    | impossible hdeclared | refused hdeclared | committed hdeclared | uncommitted hdeclared
    | rolledBack hdeclared => cases hdeclared
  | inTransaction hdeclared ht hstart hwork hcommit =>
    subst hdeclared ht
    -- The start, the work and the commit each have one outcome, and so only one core is left.
    cases hcore with
    | plain hnone | impossible _ hnone => cases hnone
    | refused hdeclared' ht' hstart' =>
      cases hdeclared'
      cases ht'
      cases hstart.symm.trans hstart'
    | committed hdeclared' ht' hstart' hwork' =>
      cases hdeclared'
      cases ht'
      cases hstart.symm.trans hstart'
      exact (hm.eq hwork' hwork).1
    | uncommitted hdeclared' ht' hstart' hwork' hcommit' =>
      cases hdeclared'
      cases ht'
      cases hstart.symm.trans hstart'
      obtain ⟨-, rfl, -⟩ := hm.eq hwork hwork'
      cases hcommit.symm.trans hcommit'
    | rolledBack hdeclared' ht' hstart' hwork' =>
      cases hdeclared'
      cases ht'
      cases hstart.symm.trans hstart'
      cases (hm.eq hwork' hwork).1

structure Transacts (t? : Option (Transactions σ τ)) (declared? : Option TransactionOptions)
    (work : Work σ α) (s : σ) (r : Result α) (s' : σ) (core : List Event) : Prop where
  core : Core t? declared? work s r s' core
  succeeds : ∀ a, r = .ok a ↔ Succeeds t? declared? work s a

theorem Core.transacts {m : Action (Traced σ) α} (hm : Realizes m work) {r : Result α}
    {core : List Event} (h : Core t? declared? work s r s' core) :
    Transacts t? declared? work s r s' core where
  core := h
  succeeds a := by
    refine ⟨?_, fun hsucceeds ↦ hsucceeds.outcome_eq hm h⟩
    rintro rfl
    exact h.succeeds

theorem exists_around (t : Transactions σ τ) (options : TransactionOptions)
    {m : Action (Traced σ) α} (hm : Realizes m work) (s : σ) :
    ∃ r s' core, Core (some t) (some options) work s r s' core ∧
      Runs ((transactions t).around options m) s r s' core := by
  have hstart (events : List Event) : (transactions t).start options ⟨s, events⟩ =
      ((t.start options s).1, ⟨(t.start options s).2, .start options :: events⟩) := rfl
  have hcommit (scope : τ) (s : σ) (events : List Event) :
      (transactions t).commit scope ⟨s, events⟩ =
        ((t.commit scope s).1, ⟨(t.commit scope s).2, .commit :: events⟩) := rfl
  have hrollback (scope : τ) (s : σ) (events : List Event) :
      (transactions t).rollback scope ⟨s, events⟩ =
        ((t.rollback scope s).1, ⟨(t.rollback scope s).2, .rollback :: events⟩) := rfl
  cases hbegun : t.start options s with
  | mk r s₁ =>
    simp only [hbegun] at hstart
    cases r with
    | error e =>
      refine ⟨_, _, _, .refused rfl rfl hbegun, fun events ↦ ?_⟩
      simp [Transactions.around, hstart]
    | ok scope =>
      obtain ⟨r, s₂, sent, hwork⟩ := hm.total s₁
      have hruns := hm.runs hwork
      cases r with
      | error e =>
        refine ⟨_, _, _, .rolledBack rfl rfl hbegun hwork, fun events ↦ ?_⟩
        simp [Transactions.around, hstart, hruns _, hrollback]
      | ok a =>
        cases hended : t.commit scope s₂ with
        | mk r s₃ =>
          cases r with
          | error e =>
            refine ⟨_, _, _, .uncommitted rfl rfl hbegun hwork hended, fun events ↦ ?_⟩
            simp [Transactions.around, hstart, hruns _, hcommit, hended]
          | ok u =>
            refine ⟨_, _, _, .committed rfl rfl hbegun hwork hended, fun events ↦ ?_⟩
            simp [Transactions.around, hstart, hruns _, hcommit, hended]

end Transaction

end Traced

end QueryCatalog
