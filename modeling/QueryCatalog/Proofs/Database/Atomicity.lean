import QueryCatalog.Database.Run

namespace QueryCatalog.Database

/-- The propagation opens a scope of its own, inside or outside of a transaction. -/
def opensScope : Propagation → Bool → Bool
  | .required, false | .requiresNew, false | .nested, _ => true
  | _, _ => false

/-- The propagation does not start inside, or outside, of a transaction. -/
def refuses : Propagation → Bool → Bool
  | .mandatory, false | .never, true | .notSupported, true | .requiresNew, true => true
  | _, _ => false

def Connection.opened (c : Connection) : Connection :=
  if c.inTransaction then c.setSavepoint else c.start

section Keys

variable {keys : Keys}

theorem le_freeFrom (n : Int) (keys : Keys) : n ≤ freeFrom n keys := by
  fun_induction freeFrom n keys with
  | case1 | case4 => exact Int.le_refl _
  | case2 _ _ _ _ ih => exact ih
  | case3 _ _ _ ih => omega

theorem freeFrom_notMem (n : Int) (h : keys.Pairwise (· < ·)) : freeFrom n keys ∉ keys := by
  fun_induction freeFrom n keys with
  | case1 => exact List.not_mem_nil
  | case2 n k rest hlt ih =>
    have hle := le_freeFrom n rest
    rw [List.mem_cons, not_or]
    exact ⟨by omega, ih h.tail⟩
  | case3 k rest _ ih =>
    have hle := le_freeFrom (k + 1) rest
    rw [List.mem_cons, not_or]
    exact ⟨by omega, ih h.tail⟩
  | case4 n k rest hlt hne =>
    obtain ⟨hfirst, -⟩ := List.pairwise_cons.mp h
    rw [List.mem_cons, not_or]
    refine ⟨Ne.symm hne, fun hmem ↦ ?_⟩
    have hn := hfirst n hmem
    omega

theorem nextKey_notMem (h : keys.Pairwise (· < ·)) : nextKey keys ∉ keys := by
  unfold nextKey
  split
  · rename_i hlast
    rw [List.getLast?_eq_none_iff.mp hlast]
    exact List.not_mem_nil
  · rename_i k hlast
    obtain ⟨front, rfl⟩ := List.getLast?_eq_some_iff.mp hlast
    split
    · intro hmem
      rcases List.mem_append.mp hmem with hfront | hk
      · have hlt := (List.pairwise_append.mp h).2.2 _ hfront k (List.mem_singleton_self k)
        omega
      · have heq := List.mem_singleton.mp hk
        omega
    · exact freeFrom_notMem 1 h

theorem exists_addKey {k : Int} (h : k ∉ keys) : ∃ keys', addKey k keys = some keys' := by
  fun_induction addKey k keys with
  | case1 | case2 => exact ⟨_, rfl⟩
  | case3 => exact absurd (List.mem_cons_self ..) h
  | case4 k' rest _ _ ih =>
    obtain ⟨keys', hkeys⟩ := ih (fun hmem ↦ h (List.mem_cons_of_mem _ hmem))
    exact ⟨k' :: keys', by rw [hkeys, Option.map_some]⟩

/-- A row that comes without key never meets one that has its key. -/
theorem Connection.insert_null (c : Connection) (h : c.keys.Pairwise (· < ·)) :
    ∃ keys, addKey (nextKey c.keys) c.keys = some keys ∧
      c.insert .null = (.ok 1, { c with keys := keys }) := by
  obtain ⟨keys, hkeys⟩ := exists_addKey (nextKey_notMem h)
  have hkey : (Cell.ofValue .null >>= keyOf c.keys) = .ok (nextKey c.keys) := rfl
  exact ⟨keys, hkeys, by simp only [insert, hkey, hkeys]⟩

end Keys

section Statements

variable {α β : Type}

def KeepsTransaction (m : Action Connection α) : Prop :=
  ∀ c, (m c).2.transaction? = c.transaction?

theorem KeepsTransaction.andThen {m : Action Connection α} {f : α → Action Connection β}
    (hm : KeepsTransaction m) (hf : ∀ a, KeepsTransaction (f a)) :
    KeepsTransaction (m.andThen f) := by
  intro c
  have hc := hm c
  unfold Action.andThen
  cases hmc : m c with
  | mk r c' =>
    rw [hmc] at hc
    cases r with
    | error e => exact hc
    | ok a => exact (hf a c').trans hc

theorem keepsTransaction_insert (v : Value) : KeepsTransaction (Connection.insert v) := by
  intro c
  unfold Connection.insert
  split
  · rfl
  · split <;> rfl

theorem keepsTransaction_insertEach (vs : List Value) :
    KeepsTransaction (Connection.insertEach vs) := by
  induction vs with
  | nil => exact fun _ ↦ rfl
  | cons v vs ih =>
    apply (keepsTransaction_insert v).andThen
    intro n
    apply ih.andThen
    intro ns c
    rfl

end Statements

namespace Scope

variable {p : Propagation} {inside : Bool} {c c' : Connection} {s : Scope}

def leave (s : Scope) : Result Unit → Connection → Connection
  | .ok () => s.commit
  | .error _ => s.rollback

theorem joined_leave (r : Result Unit) (c : Connection) : joined.leave r c = c := by
  cases r <;> rfl

theorem choose_of_refuses (h : refuses p inside = true) :
    ∃ message, choose p inside = .error (.transaction message) := by
  cases p <;> cases inside <;> first | exact ⟨_, rfl⟩ | nomatch h

theorem choose_of_joins (hopens : opensScope p inside = false)
    (hrefuses : refuses p inside = false) : choose p inside = .ok joined := by
  cases p <;> cases inside <;> first | rfl | nomatch hopens, hrefuses

theorem choose_of_opens (h : opensScope p inside = true) :
    choose p inside = .ok (if inside then savepoint else transaction) := by
  cases p <;> cases inside <;> first | rfl | nomatch h

theorem fits_of_choose (h : choose p inside = .ok s) :
    (s = transaction → inside = false) ∧ (s = savepoint → inside = true) := by
  constructor
  · rintro rfl
    cases p <;> cases inside <;> first | rfl | nomatch h
  · rintro rfl
    cases p <;> cases inside <;> first | rfl | nomatch h

theorem transaction?_eq_none (h : c.inTransaction = false) : c.transaction? = none := by
  rwa [Connection.inTransaction, Option.isSome_eq_false_iff, Option.isNone_iff_eq_none] at h

theorem commit_eq (hs : choose p c.inTransaction = .ok s)
    (h : c'.transaction? = (s.enter c).transaction?) :
    s.commit c' = ⟨c'.keys, c.transaction?⟩ := by
  obtain ⟨htransaction, -⟩ := fits_of_choose hs
  obtain ⟨keys', transaction'⟩ := c'
  cases s with
  | joined =>
    obtain rfl : transaction' = c.transaction? := h
    rfl
  | transaction =>
    rw [transaction?_eq_none (htransaction rfl)]
    rfl
  | savepoint =>
    obtain rfl : transaction' = c.setSavepoint.transaction? := h
    cases hc : c.transaction? <;>
      simp [commit, Connection.releaseSavepoint, Connection.setSavepoint, hc]

theorem rollback_eq (hs : choose p c.inTransaction = .ok s) (hjoined : s ≠ joined)
    (h : c'.transaction? = (s.enter c).transaction?) : s.rollback c' = c := by
  obtain ⟨htransaction, hsavepoint⟩ := fits_of_choose hs
  obtain ⟨keys, transaction⟩ := c
  obtain ⟨keys', transaction'⟩ := c'
  cases s with
  | joined => exact absurd rfl hjoined
  | transaction =>
    obtain rfl : transaction = none := transaction?_eq_none (htransaction rfl)
    obtain rfl : transaction' = some ⟨keys, []⟩ := h
    rfl
  | savepoint =>
    obtain ⟨t, rfl⟩ : ∃ t, transaction = some t := Option.isSome_iff_exists.mp (hsavepoint rfl)
    obtain rfl : transaction' = some { t with savepoints := keys :: t.savepoints } := h
    rfl

theorem rollback_transaction? (hs : choose p c.inTransaction = .ok s)
    (h : c'.transaction? = (s.enter c).transaction?) :
    (s.rollback c').transaction? = c.transaction? := by
  by_cases hjoined : s = joined
  · subst hjoined
    exact h
  · rw [rollback_eq hs hjoined h]

theorem leave_transaction? (hs : choose p c.inTransaction = .ok s)
    (h : c'.transaction? = (s.enter c).transaction?) (r : Result Unit) :
    (s.leave r c').transaction? = c.transaction? := by
  cases r with
  | ok => rw [leave, commit_eq hs h]
  | error e => exact rollback_transaction? hs h

end Scope

namespace Step

variable {options : TransactionOptions} {steps : List Step} {failure? : Option Error}
  {c : Connection} {s : Scope}

theorem run_around_of_choose (h : Scope.choose options.propagation c.inTransaction = .ok s) :
    (around options steps failure?).run c =
      let inner := runAll steps (s.enter c)
      let outcome := endOf inner.1.2 failure?
      let after := s.leave outcome inner.2
      (.mk (outcome.map fun _ ↦ .done) inner.1.1 after.keys, after) := by
  simp only [run, scope, Transactions.around, recordedTransactions, lift, transactions, Scope.start,
    h, runInner]
  cases endOf (runAll steps (s.enter c)).1.2 failure? <;> rfl

theorem run_abandon_of_choose (h : Scope.choose options.propagation c.inTransaction = .ok s) :
    (abandon options steps failure?).run c =
      let inner := runAll steps (s.enter c)
      let after := s.rollback inner.2
      (.mk ((endOf inner.1.2 failure?).map fun _ ↦ .done) inner.1.1 after.keys, after) := by
  simp only [run, scope, Transactions.aroundAbandoned, recordedTransactions, lift, transactions,
    Scope.start, h, runInner]

theorem run_of_refused {e : Error} (steps : List Step) (failure? : Option Error)
    (h : Scope.choose options.propagation c.inTransaction = .error e) :
    (around options steps failure?).run c = (.mk (.error e) [] c.keys, c) ∧
      (abandon options steps failure?).run c = (.mk (.error e) [] c.keys, c) := by
  constructor
  · simp only [run, scope, Transactions.around, recordedTransactions, lift, transactions,
      Scope.start, h, Except.map]
  · simp only [run, scope, Transactions.aroundAbandoned, recordedTransactions, lift, transactions,
      Scope.start, h, Except.map]

theorem run_statement_transaction? {α : Type} {m : Action Connection α} (h : KeepsTransaction m)
    (reply : α → Reply) : (statement m reply c).2.transaction? = c.transaction? := h c

/-- Leaving a scope undoes what entering it did to the open transaction, whatever ran inside. -/
theorem run_scope_transaction?
    (h : ∀ c, (runAll steps c).2.transaction? = c.transaction?) (c : Connection) :
    ((around options steps failure?).run c).2.transaction? = c.transaction? ∧
      ((abandon options steps failure?).run c).2.transaction? = c.transaction? := by
  cases hs : Scope.choose options.propagation c.inTransaction with
  | error e =>
    obtain ⟨haround, habandon⟩ := run_of_refused steps failure? hs
    rw [haround, habandon]
    exact ⟨rfl, rfl⟩
  | ok s =>
    rw [run_around_of_choose hs, run_abandon_of_choose hs]
    exact ⟨Scope.leave_transaction? hs (h _) _, Scope.rollback_transaction? hs (h _)⟩

mutual

theorem run_transaction? : ∀ (step : Step) (c : Connection),
    (step.run c).2.transaction? = c.transaction?
  | insert id, c => by
    rw [run]
    exact run_statement_transaction? (keepsTransaction_insert id) _
  | insertEach ids, c => by
    rw [run]
    exact run_statement_transaction? (keepsTransaction_insertEach ids) _
  | deleteAll, c => by
    rw [run]
    exact run_statement_transaction? (fun _ ↦ rfl) _
  | idle, c => by rw [run]
  | around _ steps _, c => (run_scope_transaction? (runAll_transaction? steps) c).1
  | abandon _ steps _, c => (run_scope_transaction? (runAll_transaction? steps) c).2
  | required step, c => by
    rw [run]
    exact run_transaction? step c

theorem runAll_transaction? : ∀ (steps : List Step) (c : Connection),
    (runAll steps c).2.transaction? = c.transaction?
  | [], c => by rw [runAll]
  | step :: steps, c => by
    have hstep := run_transaction? step c
    have hsteps := runAll_transaction? steps (step.run c).2
    cases hrun : step.run c with
    | mk record c' =>
      rw [hrun] at hstep hsteps
      simp only [runAll, hrun]
      split
      · exact hstep
      · exact hsteps.trans hstep

end

theorem after_run : ∀ (step : Step) (c : Connection), (step.run c).1.after = (step.run c).2.keys
  | insert _, _ | insertEach _, _ | deleteAll, _ | around .., _ | abandon .., _ => by
    rw [run]
    rfl
  | idle, _ => by
    rw [run]
    rfl
  | required step, c => by
    rw [run]
    exact after_run step c

theorem run_opened (h : opensScope options.propagation c.inTransaction = true) :
    ∃ s, s ≠ Scope.joined ∧ Scope.choose options.propagation c.inTransaction = .ok s ∧
      s.enter c = c.opened := by
  have hs := Scope.choose_of_opens h
  unfold Connection.opened
  cases hc : c.inTransaction with
  | false =>
    rw [hc] at hs
    exact ⟨.transaction, nofun, hs, rfl⟩
  | true =>
    rw [hc] at hs
    exact ⟨.savepoint, nofun, hs, rfl⟩

end Step

/-- The connection is any that a step of a tree may find, inside of however many scopes. -/
theorem scopes_balanced_and_atomic (c : Connection) :
    (∀ step : Step, (step.run c).2.inTransaction = c.inTransaction ∧
      (step.run c).2.transaction? = c.transaction? ∧
      (step.run c).1.after = (step.run c).2.keys) ∧
    (∀ steps, (Step.runAll steps c).2.transaction? = c.transaction?) ∧
    ∀ (options : TransactionOptions) (steps : List Step) (failure? : Option Error),
      let finished := (Step.around options steps failure?).run c
      let dropped := (Step.abandon options steps failure?).run c
      (opensScope options.propagation c.inTransaction = true →
        let inner := Step.runAll steps c.opened
        finished.1.inner = inner.1.1 ∧ dropped.1.inner = inner.1.1 ∧
        (∀ e, finished.1.outcome = .error e → finished.2 = c) ∧
        (∀ reply, finished.1.outcome = .ok reply → finished.2.keys = inner.2.keys) ∧
        dropped.2 = c) ∧
      (opensScope options.propagation c.inTransaction = false →
        refuses options.propagation c.inTransaction = false →
        let inner := Step.runAll steps c
        finished.1.inner = inner.1.1 ∧ dropped.1.inner = inner.1.1 ∧
        finished.2 = inner.2 ∧ dropped.2 = inner.2) ∧
      (refuses options.propagation c.inTransaction = true →
        ∃ message, finished = (.mk (.error (.transaction message)) [] c.keys, c) ∧
          dropped = (.mk (.error (.transaction message)) [] c.keys, c)) := by
  refine ⟨fun step ↦ ?_, fun steps ↦ Step.runAll_transaction? steps c,
    fun options steps failure? ↦ ⟨?_, ?_, ?_⟩⟩
  · have hstep := Step.run_transaction? step c
    exact ⟨congrArg Option.isSome hstep, hstep, Step.after_run step c⟩
  · intro hopens
    obtain ⟨s, hjoined, hs, henter⟩ := Step.run_opened hopens
    have hinner := Step.runAll_transaction? steps (s.enter c)
    rw [Step.run_around_of_choose hs, Step.run_abandon_of_choose hs, ← henter]
    refine ⟨rfl, rfl, ?_, ?_, Scope.rollback_eq hs hjoined hinner⟩
    · intro e he
      dsimp only at he ⊢
      cases hend : endOf (Step.runAll steps (s.enter c)).1.2 failure? with
      | error e => exact Scope.rollback_eq hs hjoined hinner
      | ok =>
        rw [hend] at he
        cases he
    · intro reply hreply
      dsimp only at hreply ⊢
      cases hend : endOf (Step.runAll steps (s.enter c)).1.2 failure? with
      | error e =>
        rw [hend] at hreply
        cases hreply
      | ok =>
        change (s.commit _).keys = _
        rw [Scope.commit_eq hs hinner]
  · intro hopens hrefuses
    have hs := Scope.choose_of_joins hopens hrefuses
    rw [Step.run_around_of_choose hs, Step.run_abandon_of_choose hs]
    exact ⟨rfl, rfl, Scope.joined_leave _ _, rfl⟩
  · intro hrefuses
    obtain ⟨message, hs⟩ := Scope.choose_of_refuses hrefuses
    exact ⟨message, Step.run_of_refused _ _ hs⟩

/-- An inner scope commits, another is given up, and then the outer one fails. -/
def failingSteps : List Step :=
  [.insert (.int 2), .around { propagation := .nested } [.insert (.int 3)] none,
    .abandon { propagation := .nested } [.deleteAll] none, .required (.insert (.int 1))]

theorem failingSteps_leave_no_trace :
    (Step.runAll failingSteps (Connection.opened ⟨[1], none⟩)).2.keys = [1, 2, 3] ∧
      (Step.run (.around {} failingSteps none) ⟨[1], none⟩).1.outcome =
        .error (.execution "UNIQUE constraint failed: t.id") ∧
      (Step.run (.around {} failingSteps none) ⟨[1], none⟩).2 = ⟨[1], none⟩ := by
  have hkeys : (Step.runAll failingSteps (Connection.opened ⟨[1], none⟩)).2.keys = [1, 2, 3] := by
    simp only [failingSteps, Step.runAll, Step.run, Step.runInner]
    rfl
  have houtcome : (Step.run (.around {} failingSteps none) ⟨[1], none⟩).1.outcome =
      .error (.execution "UNIQUE constraint failed: t.id") := by
    simp only [failingSteps, Step.run, Step.runInner, Step.runAll]
    rfl
  obtain ⟨-, -, hscopes⟩ := scopes_balanced_and_atomic ⟨[1], none⟩
  obtain ⟨-, -, hfailed, -, -⟩ := (hscopes {} failingSteps none).1 rfl
  exact ⟨hkeys, houtcome, hfailed _ houtcome⟩

end QueryCatalog.Database
