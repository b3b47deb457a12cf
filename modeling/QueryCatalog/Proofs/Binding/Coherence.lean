import QueryCatalog.Binding.Binder
import QueryCatalog.Proofs.Outcome
import QueryCatalog.Proofs.Recency

namespace QueryCatalog

namespace Binder

def Coherent (b : Binder) : Prop :=
  ∀ text t, b.filled.peek? text = some t → Template.compile text = .ok t

theorem coherent_new (resolver : Resolver) : Coherent { resolver } := by
  intro text t h
  rw [RecencyMap.peek?_empty] at h
  cases h

variable {b : Binder} {t : Template} {ctx : Context} {opts : BindOptions} {now : Int}

theorem Coherent.compileFilled (h : b.Coherent) (text : String) :
    (b.compileFilled text).1 = Binding.compile text ∧ (b.compileFilled text).2.Coherent := by
  unfold Binder.compileFilled
  split
  · rename_i t hkept
    refine ⟨(Outcome.mapError_eq_ok_iff.mpr (h text t hkept)).symm, fun text' t' ht' ↦ ?_⟩
    refine h text' t' ?_
    rwa [RecencyMap.peek?_touch] at ht'
  · split
    · rename_i t hcompile
      refine ⟨hcompile.symm, fun text' t' ht' ↦ ?_⟩
      rcases RecencyMap.peek?_insert ht' with ⟨rfl, rfl⟩ | ⟨-, ht'⟩
      · exact Outcome.mapError_eq_ok_iff.mp hcompile
      · exact h text' t' ht'
    · rename_i e hcompile
      exact ⟨hcompile.symm, h⟩

theorem Coherent.fill (h : b.Coherent) (t : Template) (ctx : Context) (opts : BindOptions) :
    (b.fill t ctx opts).1 = Binding.filled t ctx opts ∧ (b.fill t ctx opts).2.Coherent := by
  unfold Binder.fill Binding.filled
  split
  · cases hsub : Binding.substitute t ctx opts with
    | error e => exact ⟨rfl, h⟩
    | ok text => exact h.compileFilled text
  · exact ⟨rfl, h⟩

theorem compileFilled_resolver (text : String) :
    (b.compileFilled text).2.resolver = b.resolver := by
  unfold compileFilled
  split
  · rfl
  · split <;> rfl

theorem fill_resolver (b : Binder) (t : Template) (ctx : Context) (opts : BindOptions) :
    (b.fill t ctx opts).2.resolver = b.resolver := by
  unfold fill
  split
  · split
    · exact compileFilled_resolver _
    · rfl
  · rfl

theorem bind_resolver (b : Binder) (t : Template) (ctx : Context) (opts : BindOptions)
    (now : Int) : (b.bind t ctx opts now).2.resolver = b.resolver := by
  have hresolver := fill_resolver b t ctx opts
  unfold bind
  split
  · rfl
  · split
    all_goals
      rename_i hfill
      rwa [hfill] at hresolver

/-- A coherent binder answers as if it kept nothing, and stays coherent. -/
theorem Coherent.bind (h : b.Coherent) :
    (b.bind t ctx opts now).1 = Binding.bind b.resolver t ctx opts now ∧
      (b.bind t ctx opts now).2.Coherent := by
  obtain ⟨hfilled, hcoherent⟩ := h.fill t ctx opts
  have hresolver := fill_resolver b t ctx opts
  unfold Binder.bind Binding.bind
  cases Binding.checkReserved ctx opts with
  | error e => exact ⟨rfl, h⟩
  | ok _ =>
    rw [← hfilled]
    rcases hfill : b.fill t ctx opts with ⟨result, b'⟩
    rw [hfill] at hcoherent hresolver
    cases result with
    | error e => exact ⟨rfl, hcoherent⟩
    | ok t' =>
      refine ⟨?_, hcoherent⟩
      rw [← hresolver]
      rfl

/-- A binder in use: it is new, or has bound templates and compiled texts before. -/
inductive Reachable : Binder → Prop
  | new (resolver : Resolver) : Reachable { resolver }
  | bind {b : Binder} (t : Template) (ctx : Context) (opts : BindOptions) (now : Int) :
      Reachable b → Reachable (b.bind t ctx opts now).2
  | template {b : Binder} (text : String) : Reachable b → Reachable (b.template text).2

theorem Reachable.coherent (h : b.Reachable) : b.Coherent := by
  induction h with
  | new resolver => exact coherent_new resolver
  | bind t ctx opts now _ ih => exact ih.bind.2
  | template text _ ih => exact ih

end Binder

end QueryCatalog
