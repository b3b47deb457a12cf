import QueryCatalog.Proofs.Batch.Columns
import QueryCatalog.Proofs.Binding.LeftSlots
import QueryCatalog.Proofs.Execution.Recording

namespace QueryCatalog.Batch

inductive Refused (resolver : Resolver) (t : Template) (units : List Context) (opts : BindOptions)
    (size : Nat) (now : Int) : Error → Prop
  | zeroSize (h : size = 0) : Refused resolver t units opts size now (.config .zeroBatchSize)
  | unit {e : Error} (hsize : 0 < size)
      (h : Outcome.FirstFails (fun ctx ↦ Binding.bind resolver t ctx opts now) units e) :
      Refused resolver t units opts size now e

variable {σ : Type} {resolver : Resolver} {t : Template} {units : List Context}
  {opts : BindOptions} {size : Nat} {now : Int} {e : Error}

section Refusal

theorem Refused.eq {e' : Error} (h : Refused resolver t units opts size now e)
    (h' : Refused resolver t units opts size now e') : e = e' := by
  cases h with
  | zeroSize h =>
    cases h' with
    | zeroSize => rfl
    | unit hsize => omega
  | unit hsize h =>
    cases h' with
    | zeroSize h' => omega
    | unit _ h' =>
      have hbind := Outcome.mapM_eq_error_iff.mpr h
      exact Except.error.inj (hbind.symm.trans (Outcome.mapM_eq_error_iff.mpr h'))

theorem exists_refused_iff : (∃ e, Refused resolver t units opts size now e) ↔
    size = 0 ∨
      units ≠ [] ∧ ∃ ctx ∈ units, ∃ e, Binding.bind resolver t ctx opts now = .error e := by
  constructor
  · rintro ⟨e, ⟨h⟩ | ⟨-, h⟩⟩
    · exact Or.inl h
    · obtain ⟨ctx, hmem, hfail⟩ := Outcome.exists_firstFails_iff.mp ⟨e, h⟩
      exact Or.inr ⟨List.ne_nil_of_mem hmem, ctx, hmem, hfail⟩
  · intro h
    rcases Nat.eq_zero_or_pos size with hzero | hpos
    · exact ⟨_, .zeroSize hzero⟩
    · obtain ⟨-, hfail⟩ := h.resolve_left hpos.ne'
      obtain ⟨e, hfirst⟩ := Outcome.exists_firstFails_iff.mpr hfail
      exact ⟨e, .unit hpos hfirst⟩

/-- A batch is refused in the state in which it is found, or it ends with a report. -/
theorem execute_cases (resolver : Resolver) (x : Executor σ) (options : ExecOptions) (t : Template)
    (units : List Context) (opts : BindOptions) (size : Nat) (now : Int) (s : σ) :
    (∃ e, Refused resolver t units opts size now e ∧
      execute resolver x options t units opts size now s = (.error e, s)) ∨
    ∃ report, (∀ e, ¬ Refused resolver t units opts size now e) ∧
      (execute resolver x options t units opts size now s).1 = .ok report := by
  unfold execute
  rcases Nat.eq_zero_or_pos size with hzero | hpos
  · exact Or.inl ⟨_, .zeroSize hzero, if_pos hzero⟩
  rw [if_neg hpos.ne']
  cases hbind : bindUnits resolver t units opts now with
  | error e =>
    have hfirst := Outcome.mapM_eq_error_iff.mp hbind
    have hnonempty : units.isEmpty = false := by
      obtain ⟨before, ctx, after, rfl, -⟩ := hfirst
      simp
    refine Or.inl ⟨e, .unit hpos hfirst, ?_⟩
    rw [hnonempty]
    rfl
  | ok plans =>
    have hfree : ∀ e, ¬ Refused resolver t units opts size now e := by
      rintro e (hzero | ⟨-, hfirst⟩)
      · exact hpos.ne' hzero
      · cases hbind.symm.trans (Outcome.mapM_eq_error_iff.mpr hfirst)
    cases units.isEmpty with
    | true => exact Or.inr ⟨_, hfree, rfl⟩
    | false => exact Or.inr ⟨_, hfree, rfl⟩

theorem execute_eq_error_iff {x : Executor σ} {options : ExecOptions} {s : σ} :
    (execute resolver x options t units opts size now s).1 = .error e ↔
      Refused resolver t units opts size now e := by
  rcases execute_cases resolver x options t units opts size now s with
    ⟨e', hrefused, hrun⟩ | ⟨report, hfree, hrun⟩
  · rw [hrun]
    constructor
    · intro h
      cases h
      exact hrefused
    · intro h
      rw [h.eq hrefused]
  · rw [hrun]
    exact ⟨nofun, fun h ↦ absurd h (hfree e)⟩

theorem Refused.execute_eq (h : Refused resolver t units opts size now e) (x : Executor σ)
    (options : ExecOptions) (s : σ) :
    execute resolver x options t units opts size now s = (.error e, s) := by
  rcases execute_cases resolver x options t units opts size now s with
    ⟨e', hrefused, hrun⟩ | ⟨report, hfree, -⟩
  · rw [hrun, h.eq hrefused]
  · exact absurd h (hfree e)

end Refusal

section Instant

theorem eq_of_label_eq_timestampName {p : Parameter} (h : p.label = timestampName) :
    p = ⟨timestampName, []⟩ := by
  obtain ⟨name, path⟩ := p
  unfold Parameter.label at h
  split at h
  · rename_i hpath
    rw [← List.isEmpty_iff.mp hpath, ← h]
  · have hdot : '.' ∈ timestampName.toList := by
      rw [← h]
      simp
    exact absurd hdot (by decide)

/-- Every value of the instant in the plans of a batch is that of the batch. -/
theorem eq_instant_of_bindUnits {plans : List Plan} (htimed : opts.timestamped = true)
    (h : bindUnits resolver t units opts now = .ok plans) {plan : Plan} (hplan : plan ∈ plans)
    {v : BoundValue} (hv : v ∈ plan.bound) (hlabel : v.label = timestampName) :
    v = ⟨.dateTime now, timestampName, none⟩ := by
  obtain ⟨ctx, -, hbind⟩ := Outcome.exists_of_forall₂ (Outcome.forall₂_of_mapM h) hplan
  obtain ⟨t', -, hrender⟩ := Binding.bind_eq_ok hbind
  obtain ⟨pieces, hpieces, rfl⟩ := Binding.renderAll_eq_ok hrender
  obtain ⟨piece, hpiece, hv⟩ := List.mem_flatMap.mp hv
  obtain ⟨token, -, hpiece⟩ := Outcome.exists_of_forall₂ hpieces hpiece
  have howns := Binding.tokenOwns_of_render hpiece
  cases token with
  | parameter p =>
    obtain ⟨w, hresolve, howned⟩ := howns
    obtain rfl := eq_of_label_eq_timestampName (howned.label_eq hv ▸ hlabel)
    have hw : w = .dateTime now := by
      rw [Binding.resolve, Binding.base, if_pos ⟨htimed, rfl⟩] at hresolve
      cases hresolve
      rfl
    subst hw
    generalize piece.bound = bound at howned hv
    cases howned with
    | elements hitems => cases hitems
    | emptyList hitems => cases hitems
    | whole => exact List.mem_singleton.mp hv
  | literal | escaped | slot =>
    rw [howns] at hv
    cases hv

end Instant

/-- A batch is checked as a whole before its first statement is sent. -/
structure CheckedFirst (resolver : Resolver) (x : Executor σ) (options : ExecOptions) (t : Template)
    (units : List Context) (opts : BindOptions) (size : Nat) (now : Int) : Prop where
  fails : ∀ s, (∃ e, (execute resolver x options t units opts size now s).1 = .error e) ↔
    size = 0 ∨ units ≠ [] ∧ ∃ ctx ∈ units, ∃ e, Binding.bind resolver t ctx opts now = .error e
  error : ∀ s e, (execute resolver x options t units opts size now s).1 = .error e ↔
    Refused resolver t units opts size now e
  unsent : ∀ s e, Refused resolver t units opts size now e →
    execute resolver (Traced.executor x) options t units opts size now s = (.error e, s)
  report : ∀ s : Traced σ,
    (execute resolver (Traced.executor x) options t units opts size now s).2.events ≠ s.events →
      ∃ report, (execute resolver x options t units opts size now s.state).1 = .ok report
  instant : opts.timestamped = true → ∀ plans, bindUnits resolver t units opts now = .ok plans →
    ∀ plan ∈ plans, ∀ v ∈ plan.bound, v.label = timestampName →
      v = ⟨.dateTime now, timestampName, none⟩

theorem checkedFirst (resolver : Resolver) (x : Executor σ) (options : ExecOptions) (t : Template)
    (units : List Context) (opts : BindOptions) (size : Nat) (now : Int) :
    CheckedFirst resolver x options t units opts size now where
  fails s := by
    rw [← exists_refused_iff]
    exact exists_congr fun e ↦ execute_eq_error_iff
  error s e := execute_eq_error_iff
  unsent s e h := h.execute_eq _ options s
  report s hsent := by
    refine Outcome.exists_ok_iff.mpr fun e he ↦ hsent ?_
    rw [(execute_eq_error_iff.mp he).execute_eq]
  instant htimed plans hplans plan hplan v hv hlabel :=
    eq_instant_of_bindUnits htimed hplans hplan hv hlabel

/-- A batch fails for its size or for the first unit that does not bind, before a statement is sent;
later errors are in its report. Columns of different lengths are refused even before. -/
theorem batch_checked_first (resolver : Resolver) (x : Executor σ) (options : ExecOptions)
    (t : Template) (opts : BindOptions) (size : Nat) (now : Int) :
    (∀ units, CheckedFirst resolver x options t units opts size now) ∧
    ∀ args : Context,
      ((∃ e, unitsOfColumns args opts = .error e) ↔ Uneven args opts) ∧
      (∀ e, unitsOfColumns args opts = .error e → ∀ s,
        executeColumns resolver (Traced.executor x) options t args opts size now s =
          (.error e, s)) ∧
      ∀ units, unitsOfColumns args opts = .ok units →
        executeColumns resolver x options t args opts size now =
          execute resolver x options t units opts size now := by
  refine ⟨fun units ↦ checkedFirst .., fun args ↦ ⟨exists_error_iff_uneven, ?_, ?_⟩⟩
  · intro e he s
    rw [executeColumns, he]
    rfl
  · intro units hunits
    rw [executeColumns, hunits]
    rfl

end QueryCatalog.Batch
