import QueryCatalog.Batch.Execution
import QueryCatalog.Proofs.KeyMap

namespace QueryCatalog.Batch

variable {args : Context} {opts : BindOptions} {name name' : String} {items items' : List Value}
  {first : Column} {rest : List Column} {units : List Context} {e : Error} {n : Nat}

structure IsColumn (args : Context) (opts : BindOptions) (name : String) (items : List Value) :
    Prop where
  param : args.param? name = some (.list items)
  notSingle : name ∉ opts.singleParameters

theorem IsColumn.items_eq (h : IsColumn args opts name items)
    (h' : IsColumn args opts name items') : items = items' :=
  Value.list.inj (Option.some.inj (h.param.symm.trans h'.param))

theorem items?_eq_some_iff {v : Value} : v.items? = some items ↔ v = .list items := by
  cases v <;> simp [Value.items?]

theorem mem_columns_iff : (name, items) ∈ columns args opts ↔ IsColumn args opts name items := by
  have hparam : (name, .list items) ∈ args.params.entries ↔
      args.param? name = some (.list items) := KeyMap.get?_eq_some_iff.symm
  rw [columns, List.mem_filterMap]
  constructor
  · rintro ⟨⟨_, v⟩, hmem, hcolumn⟩
    obtain ⟨_, hitems, heq⟩ := Option.map_eq_some_iff.mp hcolumn
    cases heq
    obtain rfl := items?_eq_some_iff.mp hitems
    obtain ⟨hentry, hsingle⟩ := List.mem_filter.mp hmem
    exact ⟨hparam.mp hentry, by simpa using hsingle⟩
  · intro h
    refine ⟨(name, .list items), List.mem_filter.mpr ⟨hparam.mpr h.param, ?_⟩, rfl⟩
    simpa using h.notSingle

theorem columns_sorted (args : Context) (opts : BindOptions) :
    (columns args opts).Pairwise fun c c' ↦ c.1 < c'.1 := by
  rw [columns, List.pairwise_filterMap]
  refine ((List.pairwise_map.mp args.params.sorted).sublist List.filter_sublist).imp ?_
  intro e e' hlt c hc c' hc'
  obtain ⟨_, -, rfl⟩ := Option.map_eq_some_iff.mp hc
  obtain ⟨_, -, rfl⟩ := Option.map_eq_some_iff.mp hc'
  exact hlt

section Mismatch

structure FirstColumn (args : Context) (opts : BindOptions) (name : String)
    (items : List Value) : Prop where
  column : IsColumn args opts name items
  least : ∀ name' items', IsColumn args opts name' items' → ¬ name' < name

/-- The column does not have the length `n`, and all those with smaller names have. -/
structure FirstMismatch (args : Context) (opts : BindOptions) (n : Nat) (name : String)
    (items : List Value) : Prop where
  column : IsColumn args opts name items
  differs : items.length ≠ n
  before : ∀ name' items', IsColumn args opts name' items' → name' < name → items'.length = n

theorem FirstColumn.eq (h : FirstColumn args opts name items)
    (h' : FirstColumn args opts name' items') : name = name' ∧ items = items' := by
  obtain rfl : name = name' :=
    String.le_antisymm (String.not_lt.mp (h.least _ _ h'.column))
      (String.not_lt.mp (h'.least _ _ h.column))
  exact ⟨rfl, h.column.items_eq h'.column⟩

theorem FirstMismatch.eq (h : FirstMismatch args opts n name items)
    (h' : FirstMismatch args opts n name' items') : name = name' ∧ items = items' := by
  obtain rfl : name = name' := by
    refine String.le_antisymm (String.not_lt.mp fun hlt ↦ ?_) (String.not_lt.mp fun hlt ↦ ?_)
    · exact h'.differs (h.before _ _ h'.column hlt)
    · exact h.differs (h'.before _ _ h.column hlt)
  exact ⟨rfl, h.column.items_eq h'.column⟩

theorem firstColumn_of_columns (h : columns args opts = first :: rest) :
    FirstColumn args opts first.1 first.2 := by
  have hsorted := columns_sorted args opts
  rw [h] at hsorted
  refine ⟨mem_columns_iff.mp (h ▸ List.mem_cons_self), fun name items hcolumn hlt ↦ ?_⟩
  have hmem := mem_columns_iff.mpr hcolumn
  rw [h] at hmem
  rcases List.mem_cons.mp hmem with rfl | hmem
  · exact String.lt_irrefl _ hlt
  · exact String.lt_asymm hlt (List.rel_of_pairwise_cons hsorted hmem)

theorem firstMismatch_of_mismatch? {c : Column} (h : mismatch? (columns args opts) n = some c) :
    FirstMismatch args opts n c.1 c.2 := by
  obtain ⟨hdiffers, before, after, hsplit, hbefore⟩ := List.find?_eq_some_iff_append.mp h
  have hsorted := columns_sorted args opts
  rw [hsplit, List.pairwise_append, List.pairwise_cons] at hsorted
  refine ⟨mem_columns_iff.mp (hsplit ▸ List.mem_append_right _ List.mem_cons_self),
    by simpa using hdiffers, fun name items hcolumn hlt ↦ ?_⟩
  have hmem := mem_columns_iff.mpr hcolumn
  rw [hsplit, List.mem_append, List.mem_cons] at hmem
  rcases hmem with hmem | rfl | hmem
  · simpa using hbefore _ hmem
  · exact absurd hlt (String.lt_irrefl _)
  · exact absurd (hsorted.2.1.1 _ hmem) (String.lt_asymm hlt)

theorem length_eq_of_mismatch?_none (h : mismatch? (columns args opts) n = none)
    (hcolumn : IsColumn args opts name items) : items.length = n := by
  simpa using List.find?_eq_none.mp h _ (mem_columns_iff.mpr hcolumn)

end Mismatch

section Units

def unitAt (args : Context) (opts : BindOptions) (i : Nat) : Context :=
  args.setParams (columnsAt (columns args opts) i)

theorem param?_unitAt_of_column {i : Nat} (h : IsColumn args opts name items)
    (hi : i < items.length) : (unitAt args opts i).param? name = some items[i] := by
  refine KeyMap.get?_insertAll_of_mem _ ?_ fun e he hname ↦ ?_
  · refine List.mem_map.mpr ⟨(name, items), mem_columns_iff.mpr h, ?_⟩
    rw [List.getElem?_eq_getElem hi, Option.getD_some]
  · obtain ⟨⟨name', items'⟩, hmem, rfl⟩ := List.mem_map.mp he
    obtain rfl : name' = name := hname
    obtain rfl := h.items_eq (mem_columns_iff.mp hmem)
    rw [List.getElem?_eq_getElem hi, Option.getD_some]

theorem param?_unitAt_of_not_column (h : ∀ items, ¬ IsColumn args opts name items) (i : Nat) :
    (unitAt args opts i).param? name = args.param? name := by
  refine KeyMap.get?_insertAll_of_forall_ne _ fun e he hname ↦ ?_
  obtain ⟨⟨name', items⟩, hmem, rfl⟩ := List.mem_map.mp he
  obtain rfl : name' = name := hname
  exact h items (mem_columns_iff.mp hmem)

/-- Nothing is lost in units cut from columns of length `n`, and nothing is added. -/
structure Transposed (args : Context) (opts : BindOptions) (n : Nat) (units : List Context) :
    Prop where
  length : units.length = n
  item : ∀ (i : Nat) (unit : Context), units[i]? = some unit → ∀ name items,
    IsColumn args opts name items → ∃ item, items[i]? = some item ∧ unit.param? name = some item
  shared : ∀ unit ∈ units, ∀ name, (∀ items, ¬ IsColumn args opts name items) →
    unit.param? name = args.param? name
  fragments : ∀ unit ∈ units, unit.fragments = args.fragments
  collected : ∀ name items, IsColumn args opts name items →
    units.map (fun unit ↦ unit.param? name) = items.map some

theorem transposed_unitAt (h : ∀ name items, IsColumn args opts name items → items.length = n) :
    Transposed args opts n ((List.range n).map (unitAt args opts)) where
  length := by rw [List.length_map, List.length_range]
  item i unit hunit name items hcolumn := by
    rw [List.getElem?_map] at hunit
    obtain ⟨j, hj, rfl⟩ := Option.map_eq_some_iff.mp hunit
    obtain ⟨hi, rfl⟩ := List.getElem?_eq_some_iff.mp hj
    rw [List.length_range, ← h name items hcolumn] at hi
    rw [List.getElem_range]
    exact ⟨_, List.getElem?_eq_getElem hi, param?_unitAt_of_column hcolumn hi⟩
  shared unit hunit name hname := by
    obtain ⟨i, -, rfl⟩ := List.mem_map.mp hunit
    exact param?_unitAt_of_not_column hname i
  fragments unit hunit := by
    obtain ⟨i, -, rfl⟩ := List.mem_map.mp hunit
    rfl
  collected name items hcolumn := by
    have hlength := h name items hcolumn
    refine List.ext_getElem (by simp [hlength]) fun i hi hi' ↦ ?_
    rw [List.length_map] at hi'
    simp only [List.getElem_map, List.getElem_range]
    exact param?_unitAt_of_column hcolumn hi'

theorem Transposed.eq {units' : List Context} (h : Transposed args opts n units)
    (h' : Transposed args opts n units') : units = units' := by
  refine List.ext_getElem (h.length.trans h'.length.symm) fun i hi hi' ↦ ?_
  have hparams : units[i].params = units'[i].params := by
    refine KeyMap.ext_get? fun name ↦ ?_
    change units[i].param? name = units'[i].param? name
    by_cases hname : ∃ items, IsColumn args opts name items
    · obtain ⟨items, hcolumn⟩ := hname
      obtain ⟨item, hitem, hunit⟩ := h.item i _ (List.getElem?_eq_getElem hi) name items hcolumn
      obtain ⟨item', hitem', hunit'⟩ :=
        h'.item i _ (List.getElem?_eq_getElem hi') name items hcolumn
      rw [hunit, hunit', ← hitem, ← hitem']
    · have hnone := not_exists.mp hname
      rw [h.shared _ (List.getElem_mem hi) name hnone,
        h'.shared _ (List.getElem_mem hi') name hnone]
  have hfragments : units[i].fragments = units'[i].fragments := by
    rw [h.fragments _ (List.getElem_mem hi), h'.fragments _ (List.getElem_mem hi')]
  exact congrArg₂ Context.mk hparams hfragments

/-- The ways units are cut: without a column, with columns of one length, and not at all. -/
theorem unitsOfColumns_cases (args : Context) (opts : BindOptions) :
    ((∀ name items, ¬ IsColumn args opts name items) ∧ unitsOfColumns args opts = .ok [args]) ∨
    ∃ first firstItems, FirstColumn args opts first firstItems ∧
      ((∃ name items, FirstMismatch args opts firstItems.length name items ∧
        unitsOfColumns args opts =
          .error (.batchCardinality name firstItems.length items.length)) ∨
      ((∀ name items, IsColumn args opts name items → items.length = firstItems.length) ∧
        unitsOfColumns args opts =
          .ok ((List.range firstItems.length).map (unitAt args opts)))) := by
  unfold unitsOfColumns unitAt
  cases hcolumns : columns args opts with
  | nil =>
    refine Or.inl ⟨fun name items hcolumn ↦ ?_, rfl⟩
    have hmem := mem_columns_iff.mpr hcolumn
    rw [hcolumns] at hmem
    cases hmem
  | cons first rest =>
    refine Or.inr ⟨first.1, first.2, firstColumn_of_columns hcolumns, ?_⟩
    cases hmismatch : mismatch? (first :: rest) first.2.length with
    | some c =>
      have hother := firstMismatch_of_mismatch? (hcolumns ▸ hmismatch)
      exact Or.inl ⟨c.1, c.2, hother, by simp only [hmismatch]⟩
    | none =>
      have hlength {name : String} {items : List Value} (h : IsColumn args opts name items) :=
        length_eq_of_mismatch?_none (hcolumns ▸ hmismatch) h
      exact Or.inr ⟨fun _ _ ↦ hlength, by simp only [hmismatch]⟩

theorem unitsOfColumns_of_none (h : ∀ name items, ¬ IsColumn args opts name items) :
    unitsOfColumns args opts = .ok [args] := by
  rcases unitsOfColumns_cases args opts with ⟨-, hunits⟩ | ⟨_, _, hfirst, -⟩
  · exact hunits
  · exact absurd hfirst.column (h _ _)

theorem unitsOfColumns_of_length (hsome : ∃ name items, IsColumn args opts name items)
    (h : ∀ name items, IsColumn args opts name items → items.length = n) :
    unitsOfColumns args opts = .ok ((List.range n).map (unitAt args opts)) := by
  obtain ⟨name, items, hcolumn⟩ := hsome
  rcases unitsOfColumns_cases args opts with
    ⟨hnone, -⟩ | ⟨_, _, hfirst, ⟨_, _, hother, -⟩ | ⟨-, hunits⟩⟩
  · exact absurd hcolumn (hnone _ _)
  · exact absurd ((h _ _ hother.column).trans (h _ _ hfirst.column).symm) hother.differs
  · rw [hunits, h _ _ hfirst.column]

theorem unitsOfColumns_eq_error_iff : unitsOfColumns args opts = .error e ↔
    ∃ first firstItems name items, FirstColumn args opts first firstItems ∧
      FirstMismatch args opts firstItems.length name items ∧
      e = .batchCardinality name firstItems.length items.length := by
  rcases unitsOfColumns_cases args opts with
    ⟨hnone, hunits⟩ | ⟨_, _, hfirst, ⟨_, _, hother, hunits⟩ | ⟨hlength, hunits⟩⟩
  all_goals rw [hunits]
  · exact ⟨nofun, fun ⟨_, _, _, _, hfirst, _⟩ ↦ absurd hfirst.column (hnone _ _)⟩
  · constructor
    · intro h
      cases h
      exact ⟨_, _, _, _, hfirst, hother, rfl⟩
    · rintro ⟨_, _, _, _, hfirst', hother', rfl⟩
      obtain ⟨-, rfl⟩ := hfirst.eq hfirst'
      obtain ⟨rfl, rfl⟩ := hother.eq hother'
      rfl
  · refine ⟨nofun, ?_⟩
    rintro ⟨_, _, _, _, hfirst', hother', -⟩
    obtain ⟨-, rfl⟩ := hfirst.eq hfirst'
    exact absurd (hlength _ _ hother'.column) hother'.differs

def Uneven (args : Context) (opts : BindOptions) : Prop :=
  ∃ name items name' items', IsColumn args opts name items ∧ IsColumn args opts name' items' ∧
    items.length ≠ items'.length

theorem exists_error_iff_uneven :
    (∃ e, unitsOfColumns args opts = .error e) ↔ Uneven args opts := by
  rcases unitsOfColumns_cases args opts with
    ⟨hnone, hunits⟩ | ⟨_, _, hfirst, ⟨_, _, hother, hunits⟩ | ⟨hlength, hunits⟩⟩
  all_goals rw [hunits]
  · exact ⟨nofun, fun ⟨_, _, _, _, hcolumn, _⟩ ↦ absurd hcolumn (hnone _ _)⟩
  · exact ⟨fun _ ↦ ⟨_, _, _, _, hother.column, hfirst.column, hother.differs⟩, fun _ ↦ ⟨_, rfl⟩⟩
  · refine ⟨nofun, fun ⟨_, _, _, _, hcolumn, hcolumn', hne⟩ ↦ ?_⟩
    exact absurd ((hlength _ _ hcolumn).trans (hlength _ _ hcolumn').symm) hne

end Units

/-- Units are cut unless two columns differ in length. The error is about the first column that
differs from the first, and the units hold each item of each column at its position. -/
theorem columns_transposed (args : Context) (opts : BindOptions) :
    ((∃ e, unitsOfColumns args opts = .error e) ↔ Uneven args opts) ∧
    (∀ e, unitsOfColumns args opts = .error e ↔
      ∃ first firstItems name items, FirstColumn args opts first firstItems ∧
        FirstMismatch args opts firstItems.length name items ∧
        e = .batchCardinality name firstItems.length items.length) ∧
    ((∀ name items, ¬ IsColumn args opts name items) → unitsOfColumns args opts = .ok [args]) ∧
    ∀ n, (∃ name items, IsColumn args opts name items) →
      (∀ name items, IsColumn args opts name items → items.length = n) →
      (∃ units, unitsOfColumns args opts = .ok units) ∧
      ∀ units, unitsOfColumns args opts = .ok units ↔ Transposed args opts n units := by
  refine ⟨exists_error_iff_uneven, fun e ↦ unitsOfColumns_eq_error_iff, unitsOfColumns_of_none,
    fun n hsome h ↦ ?_⟩
  rw [unitsOfColumns_of_length hsome h]
  refine ⟨⟨_, rfl⟩, fun units ↦ ⟨fun heq ↦ ?_, fun htransposed ↦ ?_⟩⟩
  · cases heq
    exact transposed_unitAt h
  · rw [htransposed.eq (transposed_unitAt h)]

example : unitsOfColumns ⟨KeyMap.ofList [("ids", .list [.int 1, .int 2]), ("name", .null),
      ("tags", .list [.int 1]), ("values", .list [])], ∅⟩ { singleParameters := ["tags"] } =
    .error (.batchCardinality "values" 2 0) := by rfl

end QueryCatalog.Batch
