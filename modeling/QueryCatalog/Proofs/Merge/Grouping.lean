import QueryCatalog.Proofs.KeyMap
import QueryCatalog.Proofs.Merge.Reading

namespace QueryCatalog.Merge

/-- The element that a row adds to a collection, unless an earlier row of the entity added it. -/
def newElement? (earlier : List Row) (r : Row) (c : Collection) : Option Value :=
  if (c.key r).isAllNull ∨ c.key r ∈ earlier.map c.key then none else some (c.element r)

def newElements (spec : Spec) (earlier : List Row) (r : Row) (property : String) : List Value :=
  (spec.collections.filter fun c ↦ c.spec.property == property).filterMap (newElement? earlier r)

def elements (spec : Spec) (group : List Row) (property : String) : List Value :=
  group.zipIdx.flatMap fun e ↦ newElements spec (group.take e.2) e.1 property

def propertiesOf (spec : Spec) (own : List Cell) (group : List Row) : KeyMap Value :=
  .ofList (own ++ spec.nested.map fun n ↦ (n.property, .list (elements spec group n.property)))

def firstCells (spec : Spec) (group : List Row) : List Cell := group.head?.elim [] (ownCells spec)

/-- The entity of all rows with one key: its own columns are those of the first row. -/
def groupEntity (spec : Spec) (group : List Row) : Value :=
  .ofProperties (propertiesOf spec (firstCells spec group) group)

def grouping (spec : Spec) (rows : List Row) : List Value :=
  (rows.map (entityKey spec)).eraseDups.map fun k ↦
    groupEntity spec (rows.filter fun r ↦ entityKey spec r == k)

/-- Places of one key stand together: a key that comes again comes next. -/
def Contiguous : List Key → Prop
  | [] => True
  | k :: keys => (k ∈ keys → keys.head? = some k) ∧ Contiguous keys

instance decidableContiguous : DecidablePred Contiguous
  | [] => inferInstanceAs (Decidable True)
  | k :: keys =>
    have := decidableContiguous keys
    inferInstanceAs (Decidable ((k ∈ keys → keys.head? = some k) ∧ Contiguous keys))

variable {spec : Spec} {group rows : List Row} {r : Row} {own : List Cell}

section Push

def pushAll (properties : KeyMap Value) (l : List Cell) : KeyMap Value :=
  l.foldl (fun m e ↦ push m e.1 e.2) properties

variable {m : KeyMap Value} {k : String} {items : List Value}

theorem get?_push_self (h : m.get? k = some (.list items)) (v : Value) :
    (push m k v).get? k = some (.list (items ++ [v])) := by
  rw [push, h]
  exact KeyMap.get?_insert_self ..

theorem get?_push_of_ne {name : String} (h : k ≠ name) (v : Value) :
    (push m name v).get? k = m.get? k := by
  unfold push
  split
  · exact KeyMap.get?_insert_of_ne m h _
  · rfl

theorem get?_pushAll_of_forall_ne {l : List Cell} (h : ∀ e ∈ l, e.1 ≠ k) :
    (pushAll m l).get? k = m.get? k := by
  induction l generalizing m with
  | nil => rfl
  | cons e l ih =>
    obtain ⟨he, hl⟩ := List.forall_mem_cons.mp h
    rw [pushAll, List.foldl_cons, ← pushAll, ih hl, get?_push_of_ne he.symm]

theorem get?_pushAll {l : List Cell} (h : m.get? k = some (.list items)) :
    (pushAll m l).get? k =
      some (.list (items ++ (l.filter fun e ↦ e.1 == k).map Prod.snd)) := by
  induction l generalizing m items with
  | nil =>
    rw [List.filter_nil, List.map_nil, List.append_nil]
    exact h
  | cons e l ih =>
    obtain ⟨name, v⟩ := e
    rw [pushAll, List.foldl_cons, ← pushAll]
    by_cases hk : name = k
    · subst hk
      rw [ih (get?_push_self h v), List.filter_cons_of_pos (by simp), List.map_cons,
        List.append_assoc]
      rfl
    · have hpush := (get?_push_of_ne (Ne.symm hk) v).trans h
      rw [ih hpush, List.filter_cons_of_neg (by simpa using hk)]

end Push

theorem elements_concat (spec : Spec) (group : List Row) (r : Row) (property : String) :
    elements spec (group ++ [r]) property =
      elements spec group property ++ newElements spec group r property := by
  rw [elements, List.zipIdx_append, List.flatMap_append]
  refine congrArg₂ List.append ?_ ?_
  · refine List.flatMap_congr fun e he ↦ ?_
    have hlt := (List.mem_zipIdx he).2.1
    rw [List.take_append_of_le_length (by omega)]
  · simp

def additions (earlier : List Row) (r : Row) (cs : List Collection) : List Cell :=
  cs.filterMap fun c ↦ (newElement? earlier r c).map fun v ↦ (c.spec.property, v)

theorem get?_propertiesOf_of_mem {k : String} (hk : k ∈ spec.nested.map NestedSpec.property) :
    (propertiesOf spec own group).get? k = some (.list (elements spec group k)) := by
  obtain ⟨n, hn, rfl⟩ := List.mem_map.mp hk
  rw [propertiesOf, KeyMap.ofList, KeyMap.insertAll_append]
  refine KeyMap.get?_insertAll_of_mem _ (List.mem_map.mpr ⟨n, hn, rfl⟩) fun e he hkey ↦ ?_
  obtain ⟨n', -, rfl⟩ := List.mem_map.mp he
  change n'.property = n.property at hkey
  rw [← hkey]

theorem get?_propertiesOf_of_notMem {k : String}
    (hk : k ∉ spec.nested.map NestedSpec.property) :
    (propertiesOf spec own group).get? k = (KeyMap.ofList own).get? k := by
  rw [propertiesOf, KeyMap.ofList, KeyMap.insertAll_append]
  refine KeyMap.get?_insertAll_of_forall_ne _ fun e he hkey ↦ hk ?_
  obtain ⟨n, hn, rfl⟩ := List.mem_map.mp he
  exact List.mem_map.mpr ⟨n, hn, hkey⟩

theorem filter_additions (earlier : List Row) (r : Row) (cs : List Collection) (k : String) :
    ((additions earlier r cs).filter fun e ↦ e.1 == k).map Prod.snd =
      (cs.filter fun c ↦ c.spec.property == k).filterMap (newElement? earlier r) := by
  induction cs with
  | nil => rfl
  | cons c cs ih =>
    unfold additions at ih ⊢
    cases hnew : newElement? earlier r c <;> by_cases hk : c.spec.property = k <;>
      simp [hnew, hk, ih]

theorem property_of_mem_additions {earlier : List Row} {e : Cell}
    (h : e ∈ additions earlier r spec.collections) : e.1 ∈ spec.nested.map NestedSpec.property := by
  obtain ⟨c, hc, hnew⟩ := List.mem_filterMap.mp h
  obtain ⟨v, -, rfl⟩ := Option.map_eq_some_iff.mp hnew
  rw [← map_spec_collectionsFrom [] spec.nested, List.map_map]
  exact List.mem_map.mpr ⟨c, hc, rfl⟩

theorem propertiesOf_concat (spec : Spec) (own : List Cell) (group : List Row) (r : Row) :
    propertiesOf spec own (group ++ [r]) =
      pushAll (propertiesOf spec own group) (additions group r spec.collections) := by
  -- a row changes the properties that hold collections, and no other
  refine KeyMap.ext_get? fun k ↦ ?_
  by_cases hk : k ∈ spec.nested.map NestedSpec.property
  · rw [get?_propertiesOf_of_mem hk, get?_pushAll (get?_propertiesOf_of_mem hk),
      filter_additions, elements_concat]
    rfl
  · have hne : ∀ e ∈ additions group r spec.collections, e.1 ≠ k := by
      intro e he hkey
      rw [← hkey] at hk
      exact hk (property_of_mem_additions he)
    rw [get?_propertiesOf_of_notMem hk, get?_pushAll_of_forall_ne hne,
      get?_propertiesOf_of_notMem hk]

/-- The keys that a collection has are those of the rows so far; a key without anything in it is
never asked for. -/
def SeenBy (group : List Row) (c : Collection) (seen : List Key) : Prop :=
  ∀ k : Key, k.isAllNull = false → (k ∈ seen ↔ k ∈ group.map c.key)

theorem NestedReads.key_eq {c : Collection} {layout : NestedLayout} (h : NestedReads r c layout) :
    Key.ofValues r.values layout.identity = c.key r := by
  rw [Collection.key, ← h.key, List.map_map]
  rfl

theorem NestedReads.element_eq {c : Collection} {layout : NestedLayout}
    (h : NestedReads r c layout) : element layout r.values = c.element r := by
  rw [Collection.element, ← h.fields, ← h.scalar]
  unfold element
  cases layout.scalar with
  | false => rfl
  | true => cases layout.columns <;> rfl

theorem NestedReads.isAllNull_of_isEmpty {c : Collection} {layout : NestedLayout}
    (h : NestedReads r c layout) (hempty : layout.columns.isEmpty) :
    (c.key r).isAllNull = true := by
  have hfields : c.fields r = [] := by
    rw [← h.fields, List.isEmpty_iff.mp hempty, List.map_nil]
  have hvalues : c.identityValues r = [] := by
    rw [Collection.identityValues, hfields]
    split
    · rfl
    · exact List.filterMap_eq_nil_iff.mpr fun _ _ ↦ rfl
  rw [Collection.key, hvalues]
  rfl

theorem newElement?_eq_none_iff {earlier : List Row} {c : Collection} :
    newElement? earlier r c = none ↔
      (c.key r).isAllNull = true ∨ c.key r ∈ earlier.map c.key := by
  unfold newElement?
  split
  · rename_i h
    exact iff_of_true rfl h
  · rename_i h
    exact iff_of_false (Option.some_ne_none _) h

theorem element_of_newElement? {earlier : List Row} {c : Collection} {v : Value}
    (h : newElement? earlier r c = some v) : c.element r = v := by
  unfold newElement? at h
  split at h
  · cases h
  · exact Option.some.inj h

theorem skip_iff {c : Collection} {layout : NestedLayout} {seen : List Key}
    (hreads : NestedReads r c layout) (hseen : SeenBy group c seen) :
    (layout.columns.isEmpty || (c.key r).isAllNull || seen.contains (c.key r)) = true ↔
      newElement? group r c = none := by
  rw [newElement?_eq_none_iff, Bool.or_eq_true, Bool.or_eq_true, List.contains_iff_mem]
  cases hnull : (c.key r).isAllNull with
  | true => simp
  | false =>
    have hcolumns : layout.columns.isEmpty = false := by
      by_contra hempty
      rw [hreads.isAllNull_of_isEmpty (Bool.of_not_eq_false hempty)] at hnull
      cases hnull
    rw [hcolumns, hseen _ hnull]
    simp

theorem SeenBy.skipped {c : Collection} {seen : List Key} (h : SeenBy group c seen)
    (hnew : newElement? group r c = none) : SeenBy (group ++ [r]) c seen := by
  intro k hk
  rw [h k hk, List.map_append, List.mem_append, List.map_singleton, List.mem_singleton]
  refine ⟨Or.inl, fun hmem ↦ hmem.elim id fun hkey ↦ ?_⟩
  rw [hkey] at hk ⊢
  rcases newElement?_eq_none_iff.mp hnew with hnull | hmem
  · rw [hnull] at hk
    cases hk
  · exact hmem

theorem SeenBy.added {c : Collection} {seen : List Key} (h : SeenBy group c seen) :
    SeenBy (group ++ [r]) c (c.key r :: seen) := by
  intro k hk
  rw [List.mem_cons, h k hk, List.map_append, List.mem_append, List.map_singleton,
    List.mem_singleton, or_comm]

theorem addElements_eq {cs : List Collection} {layouts : List NestedLayout}
    {seens : List (List Key)} (hreads : List.Forall₂ (NestedReads r) cs layouts)
    (hseen : List.Forall₂ (SeenBy group) cs seens) (properties : KeyMap Value) :
    List.Forall₂ (SeenBy (group ++ [r])) cs (addElements r.values layouts seens properties).1 ∧
      (addElements r.values layouts seens properties).2 =
        pushAll properties (additions group r cs) := by
  induction hreads generalizing seens properties with
  | nil =>
    cases hseen
    exact ⟨.nil, rfl⟩
  | @cons c layout cs layouts hlayout _ ih =>
    cases hseen with
    | @cons _ seen _ seens hc hseens =>
      have hskip := skip_iff hlayout hc
      simp only [addElements, hlayout.key_eq, hlayout.element_eq, hlayout.property]
      cases hnew : newElement? group r c with
      | none =>
        simp only [hskip.mpr hnew, if_true]
        obtain ⟨hseens', hproperties⟩ := ih hseens properties
        refine ⟨.cons (hc.skipped hnew) hseens', ?_⟩
        rw [hproperties, additions, additions, List.filterMap_cons, hnew]
        rfl
      | some v =>
        have hv := element_of_newElement? hnew
        have hadd : (layout.columns.isEmpty || (c.key r).isAllNull ||
            seen.contains (c.key r)) = false := by
          rw [Bool.eq_false_iff, ne_eq, hskip, hnew]
          exact Option.some_ne_none v
        simp only [hadd, Bool.false_eq_true, if_false]
        obtain ⟨hseens', hproperties⟩ := ih hseens (push properties c.spec.property (c.element r))
        refine ⟨.cons hc.added hseens', ?_⟩
        rw [hproperties, additions, additions, List.filterMap_cons, hnew, hv]
        rfl

structure Gathered (spec : Spec) (own : List Cell) (group : List Row) (e : OpenEntity) : Prop where
  properties : e.properties = propertiesOf spec own group
  seen : List.Forall₂ (SeenBy group) spec.collections e.seen

theorem Gathered.append {e : OpenEntity} {layout : Layout} (h : Gathered spec own group e)
    (hreads : Reads spec r layout) :
    Gathered spec own (group ++ [r]) (e.append layout r.values) := by
  obtain ⟨hseen, hproperties⟩ := addElements_eq hreads.nested h.seen e.properties
  refine ⟨?_, hseen⟩
  rw [propertiesOf_concat, ← h.properties]
  exact hproperties

theorem Reads.map_property {layout : Layout} (h : Reads spec r layout) :
    layout.nested.map NestedLayout.property = spec.nested.map NestedSpec.property := by
  have hspec : spec.nested = spec.collections.map Collection.spec :=
    (map_spec_collectionsFrom [] spec.nested).symm
  rw [hspec, List.map_map, ← List.forall₂_eq_eq_eq, List.forall₂_map_left_iff,
    List.forall₂_map_right_iff]
  exact h.nested.flip.imp fun _ _ hreads ↦ hreads.property

theorem Gathered.start {layout : Layout} (key : Key) (hreads : Reads spec r layout) :
    Gathered spec (ownCells spec r) [r] (.start key layout r.values) := by
  let empty : OpenEntity :=
    ⟨key, propertiesOf spec (ownCells spec r) [], layout.nested.map fun _ ↦ []⟩
  have hempty : Gathered spec (ownCells spec r) [] empty := by
    refine ⟨rfl, ?_⟩
    rw [List.forall₂_map_right_iff]
    exact hreads.nested.imp fun _ _ _ _ _ ↦ Iff.rfl
  have hcollections : (layout.nested.map fun n ↦ (n.property, Value.list [])) =
      spec.nested.map fun n ↦ (n.property, Value.list (elements spec [] n.property)) := by
    have hproperties := congrArg (List.map fun name ↦ (name, Value.list [])) hreads.map_property
    rwa [List.map_map, List.map_map] at hproperties
  have hstart : OpenEntity.start key layout r.values = empty.append layout r.values := by
    have hproperties : (KeyMap.ofList (ownCells spec r)).insertAll
        (layout.nested.map fun n ↦ (n.property, .list [])) = empty.properties := by
      rw [hcollections, KeyMap.ofList, ← KeyMap.insertAll_append]
      rfl
    rw [← hreads.own] at hproperties
    exact congrArg (fun m ↦ OpenEntity.append ⟨key, m, empty.seen⟩ layout r.values) hproperties
  rw [hstart]
  exact hempty.append hreads

section Contiguous

variable {keys keys' : List Key} {k k' : Key}

theorem Contiguous.of_append (h : Contiguous (keys ++ keys')) : Contiguous keys' := by
  induction keys with
  | nil => exact h
  | cons k keys ih => exact ih h.2

theorem Contiguous.notMem (h : Contiguous (keys ++ k' :: keys')) (hne : keys ≠ [])
    (hall : ∀ x ∈ keys, x = k) (hk : k ≠ k') : k ∉ k' :: keys' := by
  induction keys with
  | nil => exact absurd rfl hne
  | cons x keys ih =>
    obtain ⟨rfl, hall⟩ := List.forall_mem_cons.mp hall
    obtain ⟨hnext, hkeys⟩ := h
    cases keys with
    | nil => exact fun hmem ↦ hk (Option.some.inj (hnext hmem)).symm
    | cons y keys => exact ih hkeys (List.cons_ne_nil y keys) hall

end Contiguous

theorem grouping_append {k : Key} (hne : group ≠ []) (hgroup : ∀ r ∈ group, entityKey spec r = k)
    (hrows : k ∉ rows.map (entityKey spec)) :
    grouping spec (group ++ rows) = groupEntity spec group :: grouping spec rows := by
  have hkeys : ((group ++ rows).map (entityKey spec)).eraseDups =
      k :: (rows.map (entityKey spec)).eraseDups := by
    obtain ⟨first, others, rfl⟩ := List.exists_cons_of_ne_nil hne
    obtain ⟨hfirst, hothers⟩ := List.forall_mem_cons.mp hgroup
    rw [List.cons_append, List.map_cons, List.eraseDups_cons, hfirst, List.map_append,
      List.filter_append, List.filter_eq_nil_iff.mpr, List.filter_eq_self.mpr, List.nil_append]
    · intro x hx
      have hxk : x ≠ k := fun heq ↦ hrows (heq ▸ hx)
      simpa using hxk
    · intro x hx
      obtain ⟨r, hr, rfl⟩ := List.mem_map.mp hx
      simp [hothers r hr]
  have hfilter : ((group ++ rows).filter fun r ↦ entityKey spec r == k) = group := by
    rw [List.filter_append, List.filter_eq_self.mpr, List.filter_eq_nil_iff.mpr, List.append_nil]
    · exact fun r hr hk ↦ hrows (List.mem_map.mpr ⟨r, hr, eq_of_beq hk⟩)
    · exact fun r hr ↦ beq_iff_eq.mpr (hgroup r hr)
  rw [grouping, hkeys, List.map_cons, hfilter]
  refine congrArg _ (List.map_congr_left fun k' hk' ↦ ?_)
  have hmem := List.mem_eraseDups.mp hk'
  have hnone : (group.filter fun r ↦ entityKey spec r == k') = [] := by
    refine List.filter_eq_nil_iff.mpr fun r hr hk ↦ hrows ?_
    rw [← hgroup r hr, eq_of_beq hk]
    exact hmem
  rw [List.filter_append, hnone, List.nil_append]

def Laid (spec : Spec) (st : State) : Prop :=
  ∀ layout, st.layout? = some layout → Layout.build layout.header spec = .ok layout

theorem Laid.layoutFor {st : State} (h : Laid spec st) (header : List String) :
    st.layoutFor spec header = Layout.build header spec := by
  unfold State.layoutFor
  split
  · rename_i layout hlayout
    split
    · rename_i hheader
      rw [← hheader, h layout hlayout]
    · rfl
  · rfl

theorem Laid.feed {st : State} {layout : Layout} (h : Laid spec st)
    (hwidth : r.values.length = r.columns.length)
    (hlayout : Layout.build r.columns spec = .ok layout) :
    st.feed spec (.ok r) =
      State.take { st with row := st.row + 1, layout? := some layout } layout st.row r.values := by
  have hfor : State.layoutFor { st with row := st.row + 1 } spec r.columns = .ok layout :=
    (h.layoutFor r.columns).trans hlayout
  simp only [State.feed, hwidth, ne_eq, not_true_eq_false, if_false, hfor]

/-- The merge has taken all rows of a group, and no row of another key since. -/
structure Opened (spec : Spec) (group : List Row) (e : OpenEntity) (st : State) : Prop where
  laid : Laid spec st
  current : st.current? = some e
  nonempty : group ≠ []
  key : ∀ r ∈ group, entityKey spec r = e.key
  gathered : Gathered spec (firstCells spec group) group e

theorem Reads.key_eq {layout : Layout} (h : Reads spec r layout) :
    Key.ofValues r.values layout.identity = entityKey spec r := by
  rw [entityKey, ← h.key, List.map_map]
  rfl

namespace Opened

variable {e : OpenEntity} {st : State} {layout : Layout}

theorem value_eq (h : Opened spec group e st) : e.value = groupEntity spec group := by
  rw [OpenEntity.value, h.gathered.properties]
  rfl

theorem start (st : State) (hlayout : Layout.build r.columns spec = .ok layout)
    (hreads : Reads spec r layout) :
    Opened spec [r] (.start (entityKey spec r) layout r.values)
      { st with layout? := some layout,
                current? := some (.start (entityKey spec r) layout r.values) } where
  laid := by
    rintro _ ⟨⟩
    rwa [hreads.header]
  current := rfl
  nonempty := List.cons_ne_nil r []
  key := fun _ hmem ↦ congrArg _ (List.mem_singleton.mp hmem)
  gathered := .start (entityKey spec r) hreads

theorem append (h : Opened spec group e st) (hlayout : Layout.build r.columns spec = .ok layout)
    (hreads : Reads spec r layout) (hkey : e.key = entityKey spec r) :
    Opened spec (group ++ [r]) (e.append layout r.values)
      { st with layout? := some layout, current? := some (e.append layout r.values) } where
  laid := by
    rintro _ ⟨⟩
    rwa [hreads.header]
  current := rfl
  nonempty := List.append_ne_nil_of_left_ne_nil h.nonempty [r]
  key := by
    intro r' hmem
    rcases List.mem_append.mp hmem with hmem | hmem
    · exact h.key r' hmem
    · rw [List.mem_singleton.mp hmem]
      exact hkey.symm
  gathered := by
    have hfirst : firstCells spec (group ++ [r]) = firstCells spec group := by
      rw [firstCells, List.head?_append_of_ne_nil _ h.nonempty]
      rfl
    rw [hfirst]
    exact h.gathered.append hreads

theorem feed_same (h : Opened spec group e st) (hwidth : r.values.length = r.columns.length)
    (hlayout : Layout.build r.columns spec = .ok layout) (hkey : e.key = entityKey spec r) :
    ∃ e' st', st.feed spec (.ok r) = (none, st') ∧ st'.closed = st.closed ∧
      Opened spec (group ++ [r]) e' st' := by
  have hreads := reads_of_build hwidth hlayout
  have hcounted : Opened spec group e { st with row := st.row + 1 } := { h with }
  refine ⟨_, _, ?_, ?_, hcounted.append hlayout hreads hkey⟩
  · rw [h.laid.feed hwidth hlayout]
    simp only [State.take, h.current, hreads.key_eq, hkey, if_true]
  · rfl

theorem feed_other (h : Opened spec group e st) (hwidth : r.values.length = r.columns.length)
    (hlayout : Layout.build r.columns spec = .ok layout) (hkey : e.key ≠ entityKey spec r)
    (hclosed : entityKey spec r ∉ st.closed) :
    ∃ e' st', st.feed spec (.ok r) = (some (.ok (groupEntity spec group)), st') ∧
      st'.closed = e.key :: st.closed ∧ Opened spec [r] e' st' := by
  have hreads := reads_of_build hwidth hlayout
  refine ⟨_, _, ?_, rfl, .start { st with row := st.row + 1, closed := e.key :: st.closed }
    hlayout hreads⟩
  have hopen : st.closed.contains (entityKey spec r) = false := by
    rwa [← Bool.not_eq_true, List.contains_iff_mem]
  rw [h.laid.feed hwidth hlayout]
  simp only [State.take, h.current, hreads.key_eq, hkey, hopen, h.value_eq, if_false,
    Bool.false_eq_true]

end Opened

theorem feed_first {layout : Layout} (hwidth : r.values.length = r.columns.length)
    (hlayout : Layout.build r.columns spec = .ok layout) :
    ∃ e st, State.feed {} spec (.ok r) = (none, st) ∧ st.closed = [] ∧ Opened spec [r] e st := by
  have hreads := reads_of_build hwidth hlayout
  have hlaid : Laid spec {} := nofun
  refine ⟨_, _, ?_, rfl, .start { row := 1 } hlayout hreads⟩
  rw [hlaid.feed hwidth hlayout]
  simp only [State.take, hreads.key_eq, List.contains_nil, Bool.false_eq_true, if_false]

/-- The rows that are left, together with those of the open entity, merge to their grouping. -/
theorem collect_opened {rest : List Row} {e : OpenEntity} {st : State}
    (hopened : Opened spec group e st)
    (hwidth : ∀ r ∈ rest, r.values.length = r.columns.length)
    (hlayout : ∀ r ∈ rest, ∃ layout, Layout.build r.columns spec = .ok layout)
    (hclosed : ∀ r ∈ rest, entityKey spec r ∉ st.closed)
    (hcontiguous : Contiguous ((group ++ rest).map (entityKey spec))) :
    collect spec st (rest.map .ok) = .ok (grouping spec (group ++ rest)) := by
  -- a row joins the group of the open entity, or begins the next group behind a closed key
  induction rest generalizing group e st with
  | nil =>
    have hnone : e.key ∉ ([] : List Row).map (entityKey spec) := List.not_mem_nil
    rw [grouping_append hopened.nonempty hopened.key hnone, ← hopened.value_eq]
    simp only [List.map_nil, collect, State.finish, hopened.current]
    rfl
  | cons r rest ih =>
    obtain ⟨hwidthr, hwidth⟩ := List.forall_mem_cons.mp hwidth
    obtain ⟨⟨layout, hlayoutr⟩, hlayout⟩ := List.forall_mem_cons.mp hlayout
    obtain ⟨hclosedr, hclosed⟩ := List.forall_mem_cons.mp hclosed
    rw [List.map_cons, collect]
    by_cases hkey : e.key = entityKey spec r
    · obtain ⟨e', st', hfeed, hsame, hopened'⟩ := hopened.feed_same hwidthr hlayoutr hkey
      rw [hfeed]
      rw [List.append_cons] at hcontiguous ⊢
      exact ih hopened' hwidth hlayout (by rwa [hsame]) hcontiguous
    · obtain ⟨e', st', hfeed, hadded, hopened'⟩ :=
        hopened.feed_other hwidthr hlayoutr hkey hclosedr
      rw [List.map_append] at hcontiguous
      have hgone : e.key ∉ (r :: rest).map (entityKey spec) := by
        refine hcontiguous.notMem (by simpa using hopened.nonempty) ?_ hkey
        exact List.forall_mem_map.mpr hopened.key
      have hclosed' : ∀ r' ∈ rest, entityKey spec r' ∉ st'.closed := by
        intro r' hmem hin
        rw [hadded] at hin
        rcases List.mem_cons.mp hin with heq | hin
        · rw [← heq] at hgone
          exact hgone (List.mem_map_of_mem (List.mem_cons_of_mem r hmem))
        · exact hclosed r' hmem hin
      have hrest := ih hopened' hwidth hlayout hclosed' hcontiguous.of_append
      rw [hfeed, grouping_append hopened.nonempty hopened.key hgone]
      simp only [hrest]
      rfl

/-- Where rows of one key stand together, a merge gives the entity of each group of rows. -/
theorem mergeAll_eq_grouping (spec : Spec) (rows : List Row)
    (hwidth : ∀ r ∈ rows, r.values.length = r.columns.length)
    (hlayout : ∀ r ∈ rows, ∃ layout, Layout.build r.columns spec = .ok layout)
    (hcontiguous : Contiguous (rows.map (entityKey spec))) :
    mergeAll spec (rows.map .ok) = .ok (grouping spec rows) := by
  cases rows with
  | nil => rfl
  | cons r rows =>
    obtain ⟨hwidthr, hwidth⟩ := List.forall_mem_cons.mp hwidth
    obtain ⟨⟨layout, hlayoutr⟩, hlayout⟩ := List.forall_mem_cons.mp hlayout
    obtain ⟨e, st, hfeed, hclosed, hopened⟩ := feed_first hwidthr hlayoutr
    rw [mergeAll, List.map_cons, collect, hfeed]
    exact collect_opened hopened hwidth hlayout (by simp [hclosed]) hcontiguous

def orderSpec : Spec where
  nested := [{ property := "tags", stem := "tag", scalar := true },
    { property := "lines", stem := "line", identity := ["sku"] }]

/-- Every tag of the first order stands beside every line of it. The header changes within the
first order, and the second order has neither a tag nor a line. -/
def orderRows : List Row :=
  let header := ["\"id\"", "name", "tag", "line.sku", "line.qty"]
  [⟨header, [.int 1, .string "a", .string "x", .string "s", .int 5]⟩,
    ⟨header, [.int 1, .string "b", .string "y", .string "s", .int 6]⟩,
    ⟨["line.qty", "id", "line.sku", "tag"], [.int 7, .int 1, .string "t", .string "x"]⟩,
    ⟨header, [.int 2, .string "c", .null, .null, .int 8]⟩]

theorem merge_orderRows :
    mergeAll orderSpec (orderRows.map .ok) = .ok
      [.ofProperties (.ofList [("id", .int 1), ("name", .string "a"),
          ("tags", .list [.string "x", .string "y"]),
          ("lines", .list [.ofProperties (.ofList [("sku", .string "s"), ("qty", .int 5)]),
            .ofProperties (.ofList [("sku", .string "t"), ("qty", .int 7)])])]),
        .ofProperties (.ofList [("id", .int 2), ("name", .string "c"), ("tags", .list []),
          ("lines", .list [])])] := by
  have hwidth : ∀ r ∈ orderRows, r.values.length = r.columns.length := by decide
  have hlayout : ∀ r ∈ orderRows, ∃ layout, Layout.build r.columns orderSpec = .ok layout := by
    simp only [orderRows, List.forall_mem_cons]
    exact ⟨⟨_, rfl⟩, ⟨_, rfl⟩, ⟨_, rfl⟩, ⟨_, rfl⟩, nofun⟩
  have hcontiguous : Contiguous (orderRows.map (entityKey orderSpec)) := by decide +kernel
  rw [mergeAll_eq_grouping orderSpec orderRows hwidth hlayout hcontiguous]
  rfl

end QueryCatalog.Merge
