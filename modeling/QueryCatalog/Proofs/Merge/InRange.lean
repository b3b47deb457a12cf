import QueryCatalog.Merge.Checked
import QueryCatalog.Proofs.Merge.Grouping
import QueryCatalog.Proofs.Merge.Ownership

namespace QueryCatalog.Merge

variable {values : List Value} {n : NestedLayout} {layout : Layout} {spec : Spec} {st : State}

theorem getElem?_of_lt {i : Nat} (h : i < values.length) :
    values[i]? = some (values[i]?.getD .null) := by
  rw [List.getElem?_eq_getElem h]
  rfl

theorem ofValues?_eq {positions : List Nat} (h : ∀ i ∈ positions, i < values.length) :
    Key.ofValues? values positions = some (Key.ofValues values positions) := by
  refine Outcome.mapM_eq_map fun i hi ↦ ?_
  rw [getElem?_of_lt (h i hi)]
  rfl

theorem element?_eq (hne : n.columns ≠ []) (h : ∀ i ∈ n.columns.map Prod.fst, i < values.length) :
    element? values n = some (element n values) := by
  obtain ⟨c, columns, hcolumns⟩ := List.exists_cons_of_ne_nil hne
  rw [element?, element]
  cases hscalar : n.scalar with
  | true =>
    have hc := h c.1 (by simp [hcolumns])
    rw [hcolumns]
    exact getElem?_of_lt hc
  | false =>
    have hfields : n.columns.mapM (fun c ↦ values[c.1]?.map (c.2, ·)) =
        some (n.columns.map fun c ↦ (c.2, values[c.1]?.getD .null)) := by
      refine Outcome.mapM_eq_map fun c hc ↦ ?_
      rw [getElem?_of_lt (h c.1 (List.mem_map_of_mem hc))]
      rfl
    simp only [hfields]
    rfl

theorem addElement?_eq (h : ∀ i ∈ n.positions, i < values.length) (seen : List Key)
    (properties : KeyMap Value) : addElement? values n seen properties =
      let key := Key.ofValues values n.identity
      if n.columns.isEmpty || key.isAllNull || seen.contains key then some (seen, properties)
      else some (key :: seen, push properties n.property (element n values)) := by
  obtain ⟨hcolumns, hidentity⟩ := List.forall_mem_append.mp h
  rw [addElement?]
  cases hempty : n.columns.isEmpty with
  | true => rfl
  | false =>
    have hne : n.columns ≠ [] := List.isEmpty_eq_false_iff.mp hempty
    simp only [ofValues?_eq hidentity, element?_eq hne hcolumns, Bool.false_eq_true, if_false,
      Bool.false_or, bind, Option.bind]
    split <;> rfl

theorem addElements?_eq {layouts : List NestedLayout}
    (h : ∀ n ∈ layouts, ∀ i ∈ n.positions, i < values.length) (seens : List (List Key))
    (properties : KeyMap Value) : addElements? values layouts seens properties =
      some (addElements values layouts seens properties) := by
  induction layouts generalizing seens properties with
  | nil => rfl
  | cons n layouts ih =>
    obtain ⟨hn, hlayouts⟩ := List.forall_mem_cons.mp h
    cases seens with
    | nil => rfl
    | cons seen seens =>
      rw [addElements?, addElements, addElement?_eq hn]
      dsimp only
      cases n.columns.isEmpty || (Key.ofValues values n.identity).isAllNull ||
          seen.contains (Key.ofValues values n.identity) with
      | true => simp [ih hlayouts]
      | false => simp [ih hlayouts]

structure Layout.InRange (layout : Layout) (width : Nat) : Prop where
  values : ∀ i ∈ layout.positions, i < width
  names : ∀ i ∈ layout.parent, i < layout.header.length

theorem append?_eq (h : layout.InRange values.length) (e : OpenEntity) :
    e.append? values layout = some (e.append layout values) := by
  have hnested : ∀ n ∈ layout.nested, ∀ i ∈ n.positions, i < values.length :=
    fun n hn i hi ↦ h.values i (List.mem_append_right _ (List.mem_flatMap.mpr ⟨n, hn, hi⟩))
  rw [OpenEntity.append?, addElements?_eq hnested]
  rfl

theorem start?_eq (h : layout.InRange values.length) (key : Key) :
    OpenEntity.start? values key layout = some (OpenEntity.start key layout values) := by
  have hcolumns : (layout.parent.mapM fun i ↦ do
      let name ← layout.header[i]?
      let v ← values[i]?
      return (unquote name, v)) =
        some (layout.parent.map fun i ↦
          (unquote (layout.header[i]?.getD ""), values[i]?.getD .null)) := by
    refine Outcome.mapM_eq_map fun i hi ↦ ?_
    have hvalue := h.values i (List.mem_append_left _ (List.mem_append_right _ hi))
    rw [getElem?_of_lt hvalue, List.getElem?_eq_getElem (h.names i hi)]
    rfl
  rw [OpenEntity.start?, hcolumns]
  exact append?_eq h _

theorem take?_eq (h : layout.InRange values.length) (st : State) (row : Nat) :
    State.take? values st layout row = some (st.take layout row values) := by
  have hidentity : ∀ i ∈ layout.identity, i < values.length :=
    fun i hi ↦ h.values i (List.mem_append_left _ (List.mem_append_left _ hi))
  simp only [State.take?, State.take, ofValues?_eq hidentity, start?_eq h, append?_eq h, bind,
    Option.bind]
  cases st.current? with
  | none =>
    dsimp only
    split <;> rfl
  | some e =>
    dsimp only
    split
    · rfl
    · split <;> rfl

theorem inRange_of_build {header : List String} (h : Layout.build header spec = .ok layout) :
    layout.InRange header.length := by
  have hdivided := divided_of_build h
  refine ⟨hdivided.lt_length, fun i hi ↦ ?_⟩
  rw [hdivided.header_eq]
  exact hdivided.lt_length i (List.mem_append_left _ (List.mem_append_right _ hi))

theorem feed?_eq (h : Laid spec st) (row : Result Row) :
    st.feed? spec row = some (st.feed spec row) := by
  cases row with
  | error e => rfl
  | ok r =>
    have hfor : State.layoutFor { st with row := st.row + 1 } spec r.columns = _ :=
      h.layoutFor r.columns
    simp only [State.feed?, State.feed, hfor]
    split
    · rfl
    · rename_i hwidth
      have hwidth := not_not.mp hwidth
      cases hlayout : Layout.build r.columns spec with
      | error e => rfl
      | ok layout => exact take?_eq (hwidth ▸ inRange_of_build hlayout) _ _

theorem layout?_take (st : State) (layout : Layout) (row : Nat) (values : List Value) :
    (st.take layout row values).2.layout? = st.layout? := by
  rw [State.take]
  split
  · split
    · rfl
    · split <;> rfl
  · split <;> rfl

theorem Laid.after_feed (h : Laid spec st) (row : Result Row) : Laid spec (st.feed spec row).2 := by
  cases row with
  | error e => exact h
  | ok r =>
    have hfor : State.layoutFor { st with row := st.row + 1 } spec r.columns = _ :=
      h.layoutFor r.columns
    simp only [State.feed, hfor]
    split
    · exact h
    · cases hlayout : Layout.build r.columns spec with
      | error e => exact h
      | ok layout =>
        intro layout' hlayout'
        rw [layout?_take] at hlayout'
        obtain rfl := Option.some.inj hlayout'
        rwa [(divided_of_build hlayout).header_eq]

theorem collect?_eq {rows : List (Result Row)} (h : Laid spec st) :
    collect? spec st rows = some (collect spec st rows) := by
  induction rows generalizing st with
  | nil =>
    rw [collect?, collect]
    cases st.finish.1 <;> rfl
  | cons row rows ih =>
    have hrest := ih (h.after_feed row)
    rw [collect?, collect, feed?_eq h]
    generalize st.feed spec row = p at hrest
    obtain ⟨out, st⟩ := p
    cases out with
    | none => exact hrest
    | some out =>
      cases out with
      | error e => rfl
      | ok v => simp [hrest]

/-- A layout that is built divides the columns of its header, and a row of that width is merged
with every read in range; only an identity column that is not there keeps a layout from being
built; and so no merge reads out of range. -/
theorem layout_divides_columns (header : List String) (spec : Spec) :
    (∀ layout, Layout.build header spec = .ok layout → Divided header spec layout ∧
      ∀ st row values, values.length = header.length →
        State.take? values st layout row = some (st.take layout row values)) ∧
    ((∃ e, Layout.build header spec = .error e) ↔
      (∃ column ∈ spec.identity, column ∉ header.map unquote) ∨
        ∃ k n, spec.nested[k]? = some n ∧ ∃ field ∈ n.identity,
          ∀ column ∈ header, ¬ Owns spec.nested k (unquote column) field) ∧
    ∀ rows, mergeAll? spec rows = some (mergeAll spec rows) := by
  refine ⟨fun layout hlayout ↦ ⟨divided_of_build hlayout, fun st row values hwidth ↦ ?_⟩,
    exists_build_error_iff, fun rows ↦ collect?_eq nofun⟩
  exact take?_eq (hwidth ▸ inRange_of_build hlayout) st row

/-- A name that comes twice, a quoted one, and a stem with nothing behind the dot. -/
def overlappingHeader : List String := ["id", "\"tags\"", "tags.id", "tags.", "id", "tags.id"]

def overlappingSpec : Spec :=
  ⟨["id"], [⟨"tags", "tags", ["id"], false⟩, ⟨"again", "tags", [], true⟩]⟩

theorem overlapping_columns_divided :
    ∃ layout, Layout.build overlappingHeader overlappingSpec = .ok layout ∧
      layout.parent = [0, 3, 4] ∧
      layout.nested.map NestedLayout.columns = [[(1, "tags"), (2, "id"), (5, "id")], []] ∧
      Divided overlappingHeader overlappingSpec layout ∧
      State.take? (List.replicate 6 .null) {} layout 0 =
        some (State.take {} layout 0 (List.replicate 6 .null)) := by
  have hlayout : Layout.build overlappingHeader overlappingSpec =
      .ok ⟨overlappingHeader, [0], [0, 3, 4],
        [⟨"tags", false, [(1, "tags"), (2, "id"), (5, "id")], [2]⟩, ⟨"again", true, [], []⟩]⟩ := rfl
  have hdivides := (layout_divides_columns overlappingHeader overlappingSpec).1 _ hlayout
  exact ⟨_, hlayout, rfl, rfl, hdivides.1, hdivides.2 {} 0 _ rfl⟩

end QueryCatalog.Merge
