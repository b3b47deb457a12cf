import QueryCatalog.Cache.Store
import QueryCatalog.Proofs.Value.Tagging

namespace QueryCatalog

namespace CacheKey

theorem ofValue_eq_iff (method method' : String) (v v' : Value) :
    ofValue method v = ofValue method' v' ↔
      method = method' ∧ v.mapFloats .oneNonFinite = v'.mapFloats .oneNonFinite := by
  rw [ofValue, ofValue, mk.injEq, Value.taggedText_eq_iff]

/-- Calls with the same method and the same data have one key, and if no number is infinite then no
other calls have it. -/
theorem ofContext_eq_iff (method method' : String) (ctx ctx' : Context) :
    (ofContext method ctx = ofContext method' ctx' ↔
      method = method' ∧ ctx.mapFloats .oneNonFinite = ctx'.mapFloats .oneNonFinite) ∧
    (method = method' ∧ ctx.SameData ctx' → ofContext method ctx = ofContext method' ctx') ∧
    ((∀ x ∈ ctx.floats ++ ctx'.floats, x.isInfinite = false) →
      (ofContext method ctx = ofContext method' ctx' ↔ method = method' ∧ ctx.SameData ctx')) := by
  have hkey : ofContext method ctx = ofContext method' ctx' ↔
      method = method' ∧ ctx.mapFloats .oneNonFinite = ctx'.mapFloats .oneNonFinite := by
    rw [ofContext, ofContext, mk.injEq, Context.taggedText_eq_iff]
  refine ⟨hkey, ?_, ?_⟩
  · rintro ⟨hmethod, hdata⟩
    exact hkey.mpr ⟨hmethod, hdata.oneNonFinite⟩
  · intro hfloats
    rw [hkey, Context.sameData_iff hfloats]

def numberContext (x : Binary64) : Context := Context.empty.setParam "x" (.float x)

theorem zeros_have_two_keys :
    ofContext "find" (numberContext ⟨0⟩) ≠ ofContext "find" (numberContext (Binary64.neg ⟨0⟩)) := by
  intro h
  have hfloats : ∀ x ∈ (numberContext ⟨0⟩).floats ++ (numberContext (Binary64.neg ⟨0⟩)).floats,
      x.isInfinite = false := by decide
  have hdata := (((ofContext_eq_iff "find" "find" _ _).2.2 hfloats).mp h).2
  have hparam := congrArg (fun c ↦ c.param? "x") hdata
  have hzero := Value.float.inj (Option.some.inj hparam)
  revert hzero
  decide

/-- The two infinite numbers share a key. -/
theorem infinities_have_one_key :
    ofContext "find" (numberContext .infinity) = ofContext "find" (numberContext (.neg .infinity)) ∧
      ¬ (numberContext .infinity).SameData (numberContext (.neg .infinity)) := by
  refine ⟨congrArg (mk "find") ((Context.taggedText_eq_iff _ _).mpr rfl), fun hdata ↦ ?_⟩
  have hparam := congrArg (fun c ↦ c.param? "x") hdata
  have hinfinity := Value.float.inj (Option.some.inj hparam)
  revert hinfinity
  decide

end CacheKey

end QueryCatalog
