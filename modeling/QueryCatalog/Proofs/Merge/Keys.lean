import QueryCatalog.Proofs.Merge.Streaming
import QueryCatalog.Proofs.Value.Tagging

namespace QueryCatalog

namespace Value

/-- As much of a value as a key keeps. -/
def keyed : Value → Value
  | list items => list (mapListFloats .oneNonFinite items)
  | object properties => object (mapPropertyFloats .oneNonFinite properties)
  | v => v

def innerFloats : Value → List Binary64
  | list items => listFloats items
  | object properties => propertyFloats properties
  | _ => []

theorem keyed_eq_self {v : Value} (h : ∀ x ∈ v.innerFloats, x.isFinite = true) : v.keyed = v := by
  have hone : ∀ x ∈ v.innerFloats, x.oneNonFinite = id x := fun x hx ↦ if_pos (h x hx)
  cases v with
  | list items => rw [keyed, mapListFloats_congr hone, mapListFloats_id]
  | object properties => rw [keyed, mapPropertyFloats_congr hone, mapPropertyFloats_id]
  | _ => rfl

end Value

namespace Merge

theorem KeyPart.ofValue_eq_iff (v w : Value) :
    KeyPart.ofValue v = KeyPart.ofValue w ↔ v.keyed = w.keyed := by
  cases v <;> cases w <;>
    simp [KeyPart.ofValue, Value.keyed, Value.taggedText_eq_iff, Value.mapFloats]

/-- Equality of values one by one, with numbers compared by their bits, except that within lists and
objects all that is not finite is one. -/
def Indistinct (vs ws : List Value) : Prop := vs.map Value.keyed = ws.map Value.keyed

def Finitary (vs : List Value) : Prop := ∀ v ∈ vs, ∀ x ∈ v.innerFloats, x.isFinite = true

instance (vs : List Value) : Decidable (Finitary vs) :=
  inferInstanceAs (Decidable (∀ v ∈ vs, ∀ x ∈ v.innerFloats, x.isFinite = true))

variable {spec : Spec} {group : List Row} {r r' : Row} {vs ws : List Value}

theorem map_ofValue_eq_iff :
    vs.map KeyPart.ofValue = ws.map KeyPart.ofValue ↔ Indistinct vs ws := by
  unfold Indistinct
  induction vs generalizing ws with
  | nil => simp
  | cons v vs ih =>
    cases ws with
    | nil => simp
    | cons w ws => simp [KeyPart.ofValue_eq_iff, ih]

theorem Finitary.map_keyed (h : Finitary vs) : vs.map Value.keyed = vs := by
  rw [List.map_congr_left fun v hv ↦ Value.keyed_eq_self (h v hv), List.map_id']

theorem indistinct_iff_eq (hvs : Finitary vs) (hws : Finitary ws) : Indistinct vs ws ↔ vs = ws := by
  rw [Indistinct, hvs.map_keyed, hws.map_keyed]

theorem ofValue_eq_null_iff (v : Value) : KeyPart.ofValue v = .null ↔ v = .null := by
  cases v <;> simp [KeyPart.ofValue]

theorem isAllNull_map_ofValue (vs : List Value) :
    Key.isAllNull (vs.map KeyPart.ofValue) = true ↔ ∀ v ∈ vs, v = .null := by
  simp [Key.isAllNull, ofValue_eq_null_iff]

theorem ofValues_eq_iff (r r' : Row) (positions positions' : List Nat) :
    Key.ofValues r.values positions = Key.ofValues r'.values positions' ↔
      Indistinct (positions.map (valueAt r)) (positions'.map (valueAt r')) := by
  rw [← map_ofValue_eq_iff, List.map_map, List.map_map]
  rfl

/-- An element is left out if there is nothing to tell it apart, or if an earlier row has it. -/
theorem newElement?_eq_none_iff_indistinct (c : Collection) (group : List Row) (r : Row) :
    newElement? group r c = none ↔ (∀ v ∈ c.identityValues r, v = .null) ∨
      ∃ r' ∈ group, Indistinct (c.identityValues r') (c.identityValues r) := by
  rw [newElement?_eq_none_iff, Collection.key, isAllNull_map_ofValue, List.mem_map]
  simp only [Collection.key, map_ofValue_eq_iff]

theorem OneKey.indistinct (h : OneKey spec group) (hr : r ∈ group) (hr' : r' ∈ group) :
    Indistinct (identityValues spec r) (identityValues spec r') :=
  map_ofValue_eq_iff.mp (h r hr r' hr')

/-- Keys, entities and elements are told apart by their values, except for numbers within lists and
objects that are not finite. -/
theorem keys_compare_values (spec : Spec) :
    (∀ (r r' : Row) (positions positions' : List Nat),
      Key.ofValues r.values positions = Key.ofValues r'.values positions' ↔
        Indistinct (positions.map (valueAt r)) (positions'.map (valueAt r'))) ∧
    (∀ items n, ∀ a ∈ Stream.calls n ⟨spec, {}, items⟩, ∀ v, a.yields = some (.ok v) →
      ∃ group, group ≠ [] ∧ group.map .ok <:+: items ∧ v = groupEntity spec group ∧
        ∀ r ∈ group, ∀ r' ∈ group, Indistinct (identityValues spec r) (identityValues spec r')) ∧
    (∀ (c : Collection) (earlier : List Row) (r : Row), newElement? earlier r c = none ↔
      (∀ v ∈ c.identityValues r, v = .null) ∨
        ∃ r' ∈ earlier, Indistinct (c.identityValues r') (c.identityValues r)) ∧
    ∀ vs ws, Finitary vs → Finitary ws → (Indistinct vs ws ↔ vs = ws) := by
  refine ⟨ofValues_eq_iff, ?_, newElement?_eq_none_iff_indistinct, fun _ _ ↦ indistinct_iff_eq⟩
  intro items n a ha v hyields
  obtain ⟨good, hgood, group, hgroup, rfl⟩ := exists_group_of_yields ha hyields
  have hinfix := (infix_of_mem_groups hgroup).map (Except.ok : Row → Result Row)
  refine ⟨group, List.ne_nil_of_mem_splitBy hgroup, hinfix.trans hgood.isInfix, rfl, ?_⟩
  intro r hr r' hr'
  exact (oneKey_of_mem_groups hgroup).indistinct hr hr'

def listSpec : Spec where
  identity := ["id"]

def listRow (x : Binary64) (n : Int64) : Row := ⟨["id", "n"], [.list [.float x], .int n]⟩

def zeroRows : List Row := [listRow ⟨0⟩ 1, listRow (.neg ⟨0⟩) 2]

def infinityRows : List Row := [listRow .infinity 1, listRow (.neg .infinity) 2]

theorem zeros_in_lists_stay_apart :
    Key.ofValues (listRow ⟨0⟩ 1).values [0] ≠ Key.ofValues (listRow (.neg ⟨0⟩) 2).values [0] ∧
      ∃ group, group.map .ok <:+: (zeroRows.map .ok : List (Result Row)) ∧
        groupEntity listSpec [listRow ⟨0⟩ 1] = groupEntity listSpec group ∧
        ¬ (listRow ⟨0⟩ 1 ∈ group ∧ listRow (.neg ⟨0⟩) 2 ∈ group) := by
  obtain ⟨hkeys, hyields, -, hfinitary⟩ := keys_compare_values listSpec
  have hzeros : ¬ Indistinct [.list [.float ⟨0⟩]] [.list [.float (.neg ⟨0⟩)]] := by
    rw [hfinitary _ _ (by decide) (by decide)]
    simp only [List.cons.injEq, Value.list.injEq, Value.float.injEq, and_true]
    decide
  constructor
  · rw [ne_eq, hkeys]
    exact hzeros
  · have hfirst : Stream.calls 1 ⟨listSpec, {}, zeroRows.map .ok⟩ =
        [⟨some (.ok (groupEntity listSpec [listRow ⟨0⟩ 1])), [], false⟩] := rfl
    obtain ⟨group, -, hinfix, hv, hsame⟩ :=
      hyields _ 1 _ (hfirst ▸ List.mem_singleton_self _) _ rfl
    exact ⟨group, hinfix, hv, fun h ↦ hzeros (hsame _ h.1 _ h.2)⟩

theorem infinities_in_lists_share_a_key :
    Key.ofValues (listRow .infinity 1).values [0] =
        Key.ofValues (listRow (.neg .infinity) 2).values [0] ∧
      [0].map (valueAt (listRow .infinity 1)) ≠ [0].map (valueAt (listRow (.neg .infinity) 2)) ∧
      Stream.calls 1 ⟨listSpec, {}, infinityRows.map .ok⟩ =
        [⟨some (.ok (groupEntity listSpec infinityRows)), [], true⟩] := by
  refine ⟨(ofValues_eq_iff ..).mpr rfl, ?_, rfl⟩
  simp only [valueAt, listRow, List.map_cons, List.map_nil, ne_eq, List.cons.injEq, and_true]
  intro h
  have hfloat : Binary64.infinity = .neg .infinity := by simpa using h
  revert hfloat
  decide

end Merge

end QueryCatalog
