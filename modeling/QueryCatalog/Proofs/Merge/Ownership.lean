import QueryCatalog.Proofs.Merge.Reading

namespace QueryCatalog.Merge

/-- A column of the name feeds the field: it is called like the collection, or its name goes on
behind that with a dot and the field. -/
def Feeds (n : NestedSpec) (column field : String) : Prop :=
  column = n.stem ∧ field = column ∨ field ≠ "" ∧ column = n.stem ++ "." ++ field

/-- The collection at `k` is the first that a column of the name feeds. -/
def Owns (specs : List NestedSpec) (k : Nat) (column field : String) : Prop :=
  (∃ n, specs[k]? = some n ∧ Feeds n column field) ∧
    ∀ j < k, ∀ n, specs[j]? = some n → ∀ f, ¬ Feeds n column f

def NestedLayout.positions (n : NestedLayout) : List Nat := n.columns.map Prod.fst ++ n.identity

def Layout.positions (layout : Layout) : List Nat :=
  layout.identity ++ layout.parent ++ layout.nested.flatMap NestedLayout.positions

structure Divided.Nested (header : List String) (specs : List NestedSpec) (k : Nat)
    (layout : NestedLayout) : Prop where
  ascending : (layout.columns.map Prod.fst).Pairwise (· < ·)
  mem_columns_iff : ∀ i field, (i, field) ∈ layout.columns ↔
    ∃ column, header[i]? = some column ∧ Owns specs k (unquote column) field
  identity_subset : layout.identity ⊆ layout.columns.map Prod.fst

/-- The layout gives each column of the header to the first collection that it feeds, and otherwise
to the entity. -/
structure Divided (header : List String) (spec : Spec) (layout : Layout) : Prop where
  header_eq : layout.header = header
  partition : (layout.parent ++ layout.nested.flatMap fun n ↦ n.columns.map Prod.fst).Perm
    (List.range header.length)
  ascending : layout.parent.Pairwise (· < ·)
  mem_parent_iff : ∀ i, i ∈ layout.parent ↔
    ∃ column, header[i]? = some column ∧ ∀ n ∈ spec.nested, ∀ f, ¬ Feeds n (unquote column) f
  length_nested : layout.nested.length = spec.nested.length
  nested : ∀ k n, layout.nested[k]? = some n → Divided.Nested header spec.nested k n
  lt_length : ∀ i ∈ layout.positions, i < header.length

section Feeding

variable {n : NestedSpec} {column field : String}

theorem afterStem?_eq_some_iff {stem s t : List Char} :
    afterStem? stem s = some t ↔ s = stem ++ '.' :: t := by
  fun_induction afterStem? stem s <;> grind

theorem eq_stem_append_iff : column = n.stem ++ "." ++ field ↔
    afterStem? n.stem.toList column.toList = some field.toList := by
  rw [afterStem?_eq_some_iff, ← String.toList_inj, String.toList_append, String.toList_append,
    List.append_assoc]
  rfl

theorem field?_eq_some_iff : n.field? column = some field ↔ Feeds n column field := by
  rw [Feeds, eq_stem_append_iff, NestedSpec.field?]
  split
  · rename_i hstem
    constructor
    · intro h
      exact Or.inl ⟨hstem, (Option.some.inj h).symm⟩
    · rintro (⟨-, rfl⟩ | ⟨-, hafter⟩)
      · rfl
      · have hlength := congrArg List.length (afterStem?_eq_some_iff.mp hafter)
        simp [hstem] at hlength
  · rename_i hstem
    split
    · rename_i hafter
      simp [hafter, hstem]
    · rename_i t hne hafter
      simp only [hstem, hafter, Option.some.injEq, false_and, false_or]
      constructor
      · rintro rfl
        exact ⟨fun hempty ↦ hne (String.ofList_eq_empty_iff.mp hempty), String.toList_ofList.symm⟩
      · rintro ⟨-, rfl⟩
        exact String.ofList_toList
    · rename_i hafter
      simp [hafter, hstem]

theorem isNone_field?_iff : (n.field? column).isNone ↔ ∀ f, ¬ Feeds n column f := by
  simp only [Option.isNone_iff_eq_none, ← field?_eq_some_iff, Option.eq_none_iff_forall_ne_some, Ne]

theorem isFree_iff {specs : List NestedSpec} :
    isFree specs column ↔ ∀ n ∈ specs, ∀ f, ¬ Feeds n column f := by
  simp only [isFree, List.all_eq_true, isNone_field?_iff]

end Feeding

section Division

variable {specs : List NestedSpec} {header : List String} {c : Collection} {i k : Nat}
  {field : String}

theorem map_fst_claimed (n : NestedSpec) (free : List Column) :
    (claimed n free).map Prod.fst = (free.filter fun e ↦ (n.field? e.2).isSome).map Prod.fst := by
  induction free with
  | nil => rfl
  | cons e free ih =>
    rw [claimed] at ih ⊢
    cases hfield : n.field? e.2 <;> simp [hfield, ih]

theorem perm_ownColumns (all : List Column) (earlier specs : List NestedSpec) :
    ((all.filter fun e ↦ isFree (earlier ++ specs) e.2).map Prod.fst ++
      (collectionsFrom earlier specs).flatMap fun c ↦ (ownColumns all c).map Prod.fst).Perm
      ((all.filter fun e ↦ isFree earlier e.2).map Prod.fst) := by
  induction specs generalizing earlier with
  | nil => simp [collectionsFrom]
  | cons n specs ih =>
    -- the columns of `n` leave the free ones, and the later collections divide the rest
    have hrest := ih (earlier ++ [n])
    rw [List.append_assoc, List.singleton_append, ← unclaimed_filter] at hrest
    rw [collectionsFrom, List.flatMap_cons]
    refine List.perm_append_comm_assoc .. |>.trans ((hrest.append_left _).trans ?_)
    rw [ownColumns, map_fst_claimed, unclaimed, ← List.map_append]
    refine List.Perm.map _ ?_
    simp only [← Option.not_isSome]
    exact List.filter_append_perm ..

theorem mem_headerColumns_iff {name : String} :
    (i, name) ∈ headerColumns header ↔
      ∃ column, header[i]? = some column ∧ unquote column = name := by
  simp [headerColumns, List.mem_zipIdx_iff_getElem?]

theorem mem_ownColumns_iff : (i, field) ∈ ownColumns (headerColumns header) c ↔
    ∃ column, header[i]? = some column ∧ isFree c.earlier (unquote column) ∧
      c.spec.field? (unquote column) = some field := by
  rw [ownColumns, claimed, List.mem_filterMap]
  constructor
  · rintro ⟨e, he, hfield⟩
    obtain ⟨hmem, hfree⟩ := List.mem_filter.mp he
    obtain ⟨f, hf, hpair⟩ := Option.map_eq_some_iff.mp hfield
    obtain ⟨rfl, rfl⟩ := Prod.mk.inj hpair
    obtain ⟨column, hcolumn, hname⟩ := mem_headerColumns_iff.mp hmem
    rw [← hname] at hfree hf
    exact ⟨column, hcolumn, hfree, hf⟩
  · rintro ⟨column, hcolumn, hfree, hf⟩
    refine ⟨(i, unquote column), List.mem_filter.mpr ⟨?_, hfree⟩, ?_⟩
    · exact mem_headerColumns_iff.mpr ⟨column, hcolumn, rfl⟩
    · rw [hf]
      rfl

theorem getElem?_collectionsFrom (earlier specs : List NestedSpec) (k : Nat) :
    (collectionsFrom earlier specs)[k]? =
      specs[k]?.map fun n ↦ ⟨earlier ++ specs.take k, n⟩ := by
  induction specs generalizing earlier k with
  | nil => rfl
  | cons n specs ih =>
    cases k with
    | zero => simp [collectionsFrom]
    | succ k => simp [collectionsFrom, ih, List.append_assoc]

theorem owns_iff {column : String} : Owns specs k column field ↔
    ∃ n, specs[k]? = some n ∧ Feeds n column field ∧ isFree (specs.take k) column := by
  have htake : isFree (specs.take k) column ↔
      ∀ j < k, ∀ n, specs[j]? = some n → ∀ f, ¬ Feeds n column f := by
    rw [isFree_iff]
    constructor
    · intro h j hj n hn
      refine h n (List.mem_of_getElem? (i := j) ?_)
      rw [List.getElem?_take_of_lt hj, hn]
    · intro h n hn
      obtain ⟨j, hj⟩ := List.mem_iff_getElem?.mp hn
      rw [List.getElem?_take, Option.ite_none_right_eq_some] at hj
      exact h j hj.1 n hj.2
  rw [htake, Owns]
  constructor
  · rintro ⟨⟨n, hn, hfeeds⟩, hfirst⟩
    exact ⟨n, hn, hfeeds, hfirst⟩
  · rintro ⟨n, hn, hfeeds, hfirst⟩
    exact ⟨⟨n, hn, hfeeds⟩, hfirst⟩

theorem mem_ownColumns_iff_owns (hc : (collectionsFrom [] specs)[k]? = some c) :
    (i, field) ∈ ownColumns (headerColumns header) c ↔
      ∃ column, header[i]? = some column ∧ Owns specs k (unquote column) field := by
  rw [getElem?_collectionsFrom] at hc
  obtain ⟨n, hn, rfl⟩ := Option.map_eq_some_iff.mp hc
  simp only [mem_ownColumns_iff, owns_iff, hn, List.nil_append, field?_eq_some_iff,
    Option.some.injEq, exists_eq_left', and_comm]

theorem mem_parent_iff (i : Nat) :
    i ∈ (freeColumns header specs).map Prod.fst ↔
      ∃ column, header[i]? = some column ∧ ∀ n ∈ specs, ∀ f, ¬ Feeds n (unquote column) f := by
  rw [List.mem_map]
  constructor
  · rintro ⟨e, he, rfl⟩
    obtain ⟨hmem, hfree⟩ := List.mem_filter.mp he
    obtain ⟨column, hcolumn, hname⟩ := mem_headerColumns_iff.mp hmem
    exact ⟨column, hcolumn, isFree_iff.mp (hname ▸ hfree)⟩
  · rintro ⟨column, hcolumn, hfree⟩
    refine ⟨(i, unquote column), List.mem_filter.mpr ⟨?_, isFree_iff.mpr hfree⟩, rfl⟩
    exact mem_headerColumns_iff.mpr ⟨column, hcolumn, rfl⟩

theorem map_fst_headerColumns (header : List String) :
    (headerColumns header).map Prod.fst = List.range header.length := by
  have hsnd := List.zipIdx_map_snd 0 (header.map unquote)
  rw [List.length_map, ← List.range_eq_range'] at hsnd
  rw [headerColumns, List.map_map, ← hsnd]
  rfl

theorem ascending_filter (p : Column → Bool) (header : List String) :
    (((headerColumns header).filter p).map Prod.fst).Pairwise (· < ·) := by
  have hrange : ((headerColumns header).map Prod.fst).Pairwise (· < ·) := by
    rw [map_fst_headerColumns]
    exact List.pairwise_lt_range
  exact hrange.sublist (List.filter_sublist.map _)

theorem ascending_ownColumns (header : List String) (c : Collection) :
    ((ownColumns (headerColumns header) c).map Prod.fst).Pairwise (· < ·) := by
  rw [ownColumns, map_fst_claimed, List.filter_filter]
  exact ascending_filter _ header

end Division

section Building

variable {header : List String} {spec : Spec} {layout : Layout} {k : Nat}

theorem nestedIdentity_subset {n : NestedSpec} {columns : List (Nat × String)}
    {positions : List Nat} (h : nestedIdentity n columns = .ok positions) :
    positions ⊆ columns.map Prod.fst := by
  unfold nestedIdentity at h
  split at h
  · cases h
    exact List.Subset.refl _
  · intro i hi
    obtain ⟨field, -, hfind⟩ := Outcome.exists_of_forall₂ (Outcome.forall₂_of_mapM h) hi
    split at hfind
    · rename_i c hc
      cases hfind
      exact List.mem_map_of_mem (List.mem_of_find?_eq_some hc)
    · cases hfind

section Layouts

variable {specs : List NestedSpec} {layouts : List NestedLayout}
  (h : nestedLayouts header specs = .ok layouts)

include h

theorem nested_of_nestedLayouts {n : NestedLayout} (hn : layouts[k]? = some n) :
    Divided.Nested header specs k n := by
  obtain ⟨c, hc, hlayout⟩ :=
    Outcome.exists_getElem?_of_forall₂ (Outcome.forall₂_of_mapM h) hn
  obtain ⟨positions, hpositions, rfl⟩ := Outcome.map_eq_ok_iff.mp hlayout
  exact ⟨ascending_ownColumns header c, fun _ _ ↦ mem_ownColumns_iff_owns hc,
    nestedIdentity_subset hpositions⟩

theorem columns_of_nestedLayouts :
    (collectionsFrom [] specs).map (ownColumns (headerColumns header)) =
      layouts.map NestedLayout.columns := by
  rw [← List.forall₂_eq_eq_eq, List.forall₂_map_left_iff, List.forall₂_map_right_iff]
  refine (Outcome.forall₂_of_mapM h).imp fun c n hlayout ↦ ?_
  obtain ⟨positions, -, rfl⟩ := Outcome.map_eq_ok_iff.mp hlayout
  rfl

theorem partition_of_nestedLayouts :
    ((freeColumns header specs).map Prod.fst ++
      layouts.flatMap fun n ↦ n.columns.map Prod.fst).Perm (List.range header.length) := by
  have hperm := perm_ownColumns (headerColumns header) [] specs
  have hcolumns := congrArg (·.flatMap (List.map Prod.fst)) (columns_of_nestedLayouts h)
  simp only [List.flatMap_map] at hcolumns
  rwa [List.nil_append, filter_isFree_nil, map_fst_headerColumns, hcolumns] at hperm

theorem length_of_nestedLayouts : layouts.length = specs.length := by
  have hlength := congrArg List.length (columns_of_nestedLayouts h)
  rw [List.length_map, List.length_map] at hlength
  rw [← hlength, ← List.length_map Collection.spec, map_spec_collectionsFrom]

end Layouts

theorem lt_length_of_entityIdentity {parent : List Column} {positions : List Nat}
    (hparent : ∀ c ∈ parent, c.1 < header.length)
    (h : entityIdentity spec (header.map unquote) parent = .ok positions) :
    ∀ i ∈ positions, i < header.length := by
  unfold entityIdentity at h
  split at h
  · split at h
    · rename_i c hc
      cases h
      simpa using hparent c (List.mem_of_find?_eq_some hc)
    · cases h
      simpa using hparent
  · intro i hi
    obtain ⟨column, -, hfind⟩ := Outcome.exists_of_forall₂ (Outcome.forall₂_of_mapM h) hi
    split at hfind
    · rename_i j hj
      cases hfind
      have hlt := (List.findIdx?_eq_some_iff_getElem.mp hj).1
      rwa [List.length_map] at hlt
    · cases hfind

theorem divided_of_build (h : Layout.build header spec = .ok layout) :
    Divided header spec layout := by
  rw [build_eq] at h
  obtain ⟨layouts, hlayouts, h⟩ := Outcome.bind_eq_ok_iff.mp h
  obtain ⟨positions, hpositions, h⟩ := Outcome.bind_eq_ok_iff.mp h
  cases h
  have hpartition := partition_of_nestedLayouts hlayouts
  have hlt : ∀ {i : Nat}, i ∈ _ → i < header.length :=
    fun hi ↦ List.mem_range.mp (hpartition.mem_iff.mp hi)
  refine ⟨rfl, hpartition, ascending_filter _ header, mem_parent_iff,
    length_of_nestedLayouts hlayouts, fun k n ↦ nested_of_nestedLayouts hlayouts, fun i hi ↦ ?_⟩
  simp only [Layout.positions, List.mem_append, or_assoc] at hi
  rcases hi with hi | hi | hi
  · refine lt_length_of_entityIdentity (fun c hc ↦ ?_) hpositions i hi
    exact hlt (List.mem_append_left _ (List.mem_map_of_mem hc))
  · exact hlt (List.mem_append_left _ hi)
  · obtain ⟨n, hn, hi⟩ := List.mem_flatMap.mp hi
    obtain ⟨k, hk⟩ := List.mem_iff_getElem?.mp hn
    have hcolumn : i ∈ n.columns.map Prod.fst := by
      rcases List.mem_append.mp hi with hi | hi
      · exact hi
      · exact (nested_of_nestedLayouts hlayouts hk).identity_subset hi
    exact hlt (List.mem_append_right _ (List.mem_flatMap.mpr ⟨n, hn, hcolumn⟩))

theorem exists_nestedLayout_error_iff {n : NestedSpec} {columns : List (Nat × String)} :
    (∃ e, nestedLayout n columns = .error e) ↔
      ∃ field ∈ n.identity, ∀ i, (i, field) ∉ columns := by
  simp only [nestedLayout, Outcome.map_eq_error_iff]
  unfold nestedIdentity
  split
  · rename_i hempty
    simp [List.isEmpty_iff.mp hempty]
  · rw [Outcome.exists_mapM_error_iff]
    refine exists_congr fun field ↦ and_congr_right fun _ ↦ ?_
    cases hfind : columns.find? fun c ↦ c.2 == field with
    | some c =>
      have hfield : c.2 = field := by simpa using List.find?_some hfind
      have hmem : (c.1, field) ∈ columns := hfield ▸ List.mem_of_find?_eq_some hfind
      constructor
      · rintro ⟨e, he⟩
        cases he
      · intro h
        exact absurd hmem (h c.1)
    | none =>
      constructor
      · intro _ i hi
        simpa using List.find?_eq_none.mp hfind _ hi
      · intro _
        exact ⟨_, rfl⟩

theorem exists_entityIdentity_error_iff (parent : List Column) :
    (∃ e, entityIdentity spec (header.map unquote) parent = .error e) ↔
      ∃ column ∈ spec.identity, column ∉ header.map unquote := by
  unfold entityIdentity
  split
  · rename_i hempty
    rw [List.isEmpty_iff.mp hempty]
    split <;> simp
  · rw [Outcome.exists_mapM_error_iff]
    refine exists_congr fun column ↦ and_congr_right fun _ ↦ ?_
    cases hfind : (header.map unquote).findIdx? (· == column) with
    | some i =>
      obtain ⟨hi, hname, -⟩ := List.findIdx?_eq_some_iff_getElem.mp hfind
      have hmem : column ∈ header.map unquote := eq_of_beq hname ▸ List.getElem_mem hi
      constructor
      · rintro ⟨e, he⟩
        cases he
      · intro h
        exact absurd hmem h
    | none =>
      constructor
      · intro _ hmem
        simpa using List.findIdx?_eq_none_iff.mp hfind _ hmem
      · intro _
        exact ⟨_, rfl⟩

theorem exists_nestedLayouts_error_iff {specs : List NestedSpec} :
    (∃ e, nestedLayouts header specs = .error e) ↔
      ∃ k n, specs[k]? = some n ∧ ∃ field ∈ n.identity,
        ∀ column ∈ header, ¬ Owns specs k (unquote column) field := by
  simp only [nestedLayouts, Outcome.exists_mapM_error_iff, exists_nestedLayout_error_iff]
  constructor
  · rintro ⟨c, hc, field, hfield, hnone⟩
    obtain ⟨k, hk⟩ := List.mem_iff_getElem?.mp hc
    obtain ⟨n, hn, rfl⟩ := Option.map_eq_some_iff.mp (getElem?_collectionsFrom [] specs k ▸ hk)
    refine ⟨k, n, hn, field, hfield, fun column hcolumn howns ↦ ?_⟩
    obtain ⟨i, hi⟩ := List.mem_iff_getElem?.mp hcolumn
    exact hnone i ((mem_ownColumns_iff_owns hk).mpr ⟨column, hi, howns⟩)
  · rintro ⟨k, n, hn, field, hfield, hnone⟩
    have hk : (collectionsFrom [] specs)[k]? = some ⟨specs.take k, n⟩ := by
      rw [getElem?_collectionsFrom, hn]
      rfl
    refine ⟨_, List.mem_of_getElem? hk, field, hfield, fun i hi ↦ ?_⟩
    obtain ⟨column, hcolumn, howns⟩ := (mem_ownColumns_iff_owns hk).mp hi
    exact hnone column (List.mem_of_getElem? hcolumn) howns

theorem exists_build_error_iff : (∃ e, Layout.build header spec = .error e) ↔
    (∃ column ∈ spec.identity, column ∉ header.map unquote) ∨
      ∃ k n, spec.nested[k]? = some n ∧ ∃ field ∈ n.identity,
        ∀ column ∈ header, ¬ Owns spec.nested k (unquote column) field := by
  rw [build_eq, ← exists_nestedLayouts_error_iff,
    ← exists_entityIdentity_error_iff (freeColumns header spec.nested)]
  simp only [Outcome.bind_eq_error_iff]
  cases nestedLayouts header spec.nested <;> simp

end Building

end QueryCatalog.Merge
