import QueryCatalog.Merge.Stream
import QueryCatalog.Proofs.Outcome

namespace QueryCatalog.Merge

abbrev Cell := String × Value

def cells (r : Row) : List Cell := (r.columns.map unquote).zip r.values

def firstNamed? (name : String) (l : List Cell) : Option Value :=
  (l.find? fun c ↦ c.1 == name).map Prod.snd

def isFree (specs : List NestedSpec) (column : String) : Bool :=
  specs.all fun n ↦ (n.field? column).isNone

def ownCells (spec : Spec) (r : Row) : List Cell := (cells r).filter fun c ↦ isFree spec.nested c.1

def identityValues (spec : Spec) (r : Row) : List Value :=
  if spec.identity.isEmpty then
    match (ownCells spec r).find? fun c ↦ eqIgnoringCase c.1 "id" with
    | some c => [c.2]
    | none => (ownCells spec r).map Prod.snd
  else spec.identity.filterMap fun column ↦ firstNamed? column (cells r)

def entityKey (spec : Spec) (r : Row) : Key := (identityValues spec r).map KeyPart.ofValue

/-- A collection and those declared before it, which claim columns first. -/
structure Collection where
  earlier : List NestedSpec
  spec : NestedSpec

namespace Collection

def fields (c : Collection) (r : Row) : List Cell :=
  ((cells r).filter fun e ↦ isFree c.earlier e.1).filterMap fun e ↦
    (c.spec.field? e.1).map fun field ↦ (field, e.2)

def identityValues (c : Collection) (r : Row) : List Value :=
  if c.spec.identity.isEmpty then (c.fields r).map Prod.snd
  else c.spec.identity.filterMap fun field ↦ firstNamed? field (c.fields r)

def key (c : Collection) (r : Row) : Key := (c.identityValues r).map KeyPart.ofValue

def element (c : Collection) (r : Row) : Value :=
  match c.spec.scalar, c.fields r with
  | true, field :: _ => field.2
  | _, fields => .ofProperties (KeyMap.ofList fields)

end Collection

def collectionsFrom (earlier : List NestedSpec) : List NestedSpec → List Collection
  | [] => []
  | spec :: specs => ⟨earlier, spec⟩ :: collectionsFrom (earlier ++ [spec]) specs

theorem map_spec_collectionsFrom (earlier specs : List NestedSpec) :
    (collectionsFrom earlier specs).map Collection.spec = specs := by
  induction specs generalizing earlier with
  | nil => rfl
  | cons n specs ih => rw [collectionsFrom, List.map_cons, ih]

def Spec.collections (spec : Spec) : List Collection := collectionsFrom [] spec.nested

def valueAt (r : Row) (i : Nat) : Value := r.values[i]?.getD .null

/-- The layout of a collection reads from a row what the collection is to get. -/
structure NestedReads (r : Row) (c : Collection) (layout : NestedLayout) : Prop where
  property : layout.property = c.spec.property
  scalar : layout.scalar = c.spec.scalar
  fields : layout.columns.map (fun e ↦ (e.2, valueAt r e.1)) = c.fields r
  key : layout.identity.map (valueAt r) = c.identityValues r

structure Reads (spec : Spec) (r : Row) (layout : Layout) : Prop where
  header : layout.header = r.columns
  own : layout.parent.map (fun i ↦ (unquote (layout.header[i]?.getD ""), valueAt r i)) =
    ownCells spec r
  key : layout.identity.map (valueAt r) = identityValues spec r
  nested : List.Forall₂ (NestedReads r) spec.collections layout.nested

variable {r : Row}

def cellOf (r : Row) (c : Column) : Cell := (c.2, valueAt r c.1)

def headerColumns (header : List String) : List Column :=
  (header.map unquote).zipIdx.map fun c ↦ (c.2, c.1)

theorem map_cellOf_headerColumns (hwidth : r.values.length = r.columns.length) :
    (headerColumns r.columns).map (cellOf r) = cells r := by
  apply List.ext_getElem
  · simp [headerColumns, cells, hwidth]
  · intro i h _
    have hi : i < r.values.length := by
      simpa [headerColumns, hwidth] using h
    simp [headerColumns, cellOf, cells, valueAt, hi]

theorem unquote_of_mem_headerColumns {header : List String} {c : Column}
    (h : c ∈ headerColumns header) : unquote (header[c.1]?.getD "") = c.2 := by
  obtain ⟨i, hi, rfl⟩ := List.mem_iff_getElem.mp h
  have hi' : i < header.length := by simpa [headerColumns] using hi
  simp [headerColumns, hi']

theorem isFree_append (specs specs' : List NestedSpec) (column : String) :
    isFree (specs ++ specs') column = (isFree specs column && isFree specs' column) :=
  List.all_append

section Division

def ownColumns (all : List Column) (c : Collection) : List (Nat × String) :=
  claimed c.spec (all.filter fun e ↦ isFree c.earlier e.2)

theorem unclaimed_filter (earlier : List NestedSpec) (n : NestedSpec) (all : List Column) :
    unclaimed n (all.filter fun e ↦ isFree earlier e.2) =
      all.filter fun e ↦ isFree (earlier ++ [n]) e.2 := by
  rw [unclaimed, List.filter_filter]
  refine List.filter_congr fun e _ ↦ ?_
  rw [isFree_append, Bool.and_comm]
  simp [isFree]

theorem divide_eq (all : List Column) (earlier specs : List NestedSpec) :
    divide specs (all.filter fun e ↦ isFree earlier e.2) =
      ((collectionsFrom earlier specs).mapM fun c ↦
        nestedLayout c.spec (ownColumns all c)).map
          (·, all.filter fun e ↦ isFree (earlier ++ specs) e.2) := by
  induction specs generalizing earlier with
  | nil =>
    rw [List.append_nil]
    rfl
  | cons n specs ih =>
    rw [divide, unclaimed_filter, ih, collectionsFrom, List.mapM_cons, ownColumns,
      List.append_assoc]
    cases nestedLayout n (claimed n (all.filter fun e ↦ isFree earlier e.2)) with
    | error e => rfl
    | ok layout =>
      cases (collectionsFrom (earlier ++ [n]) specs).mapM fun c ↦
        nestedLayout c.spec (ownColumns all c) <;> rfl

theorem filter_isFree_nil (all : List Column) : (all.filter fun e ↦ isFree [] e.2) = all :=
  List.filter_eq_self.mpr fun _ _ ↦ rfl

def freeColumns (header : List String) (specs : List NestedSpec) : List Column :=
  (headerColumns header).filter fun e ↦ isFree specs e.2

def nestedLayouts (header : List String) (specs : List NestedSpec) : Result (List NestedLayout) :=
  (collectionsFrom [] specs).mapM fun c ↦ nestedLayout c.spec (ownColumns (headerColumns header) c)

theorem build_eq (header : List String) (spec : Spec) : Layout.build header spec =
    nestedLayouts header spec.nested >>= fun nested ↦
      entityIdentity spec (header.map unquote) (freeColumns header spec.nested) >>= fun identity ↦
        .ok ⟨header, identity, (freeColumns header spec.nested).map Prod.fst, nested⟩ := by
  have hdivide := divide_eq (headerColumns header) [] spec.nested
  rw [filter_isFree_nil, List.nil_append] at hdivide
  have hbuild : Layout.build header spec = divide spec.nested (headerColumns header) >>= fun p ↦
      entityIdentity spec (header.map unquote) p.2 >>= fun identity ↦
        .ok ⟨header, identity, p.2.map Prod.fst, p.1⟩ := rfl
  rw [hbuild, hdivide, nestedLayouts]
  cases (collectionsFrom [] spec.nested).mapM fun c ↦
    nestedLayout c.spec (ownColumns (headerColumns header) c) <;> rfl

end Division

theorem map_cellOf_claimed (n : NestedSpec) (free : List Column) :
    (claimed n free).map (fun e ↦ (e.2, valueAt r e.1)) =
      (free.map (cellOf r)).filterMap fun e ↦
        (n.field? e.1).map fun field ↦ (field, e.2) := by
  rw [claimed, List.map_filterMap, List.filterMap_map]
  refine congrArg (free.filterMap ·) (funext fun c ↦ ?_)
  rw [Option.map_map]
  rfl

theorem map_cellOf_filter (hwidth : r.values.length = r.columns.length)
    (specs : List NestedSpec) :
    ((headerColumns r.columns).filter fun e ↦ isFree specs e.2).map (cellOf r) =
      (cells r).filter fun c ↦ isFree specs c.1 := by
  rw [← map_cellOf_headerColumns hwidth, List.filter_map]
  rfl

theorem filterMap_eq_of_forall₂ {α β : Type} {f : α → Option β} {as : List α} {bs : List β}
    (h : List.Forall₂ (fun a b ↦ f a = some b) as bs) : as.filterMap f = bs := by
  induction h with
  | nil => rfl
  | cons hab _ ih => rw [List.filterMap_cons_some hab, ih]

theorem nestedIdentity_reads {n : NestedSpec} {columns : List (Nat × String)}
    {positions : List Nat} (h : nestedIdentity n columns = .ok positions) :
    positions.map (valueAt r) =
      if n.identity.isEmpty then (columns.map fun e ↦ (e.2, valueAt r e.1)).map Prod.snd
      else n.identity.filterMap fun field ↦
        firstNamed? field (columns.map fun e ↦ (e.2, valueAt r e.1)) := by
  unfold nestedIdentity at h
  split at h
  · rename_i hempty
    cases h
    rw [if_pos hempty, List.map_map, List.map_map]
    rfl
  · rename_i hnamed
    rw [if_neg hnamed]
    refine (filterMap_eq_of_forall₂ ?_).symm
    rw [List.forall₂_map_right_iff]
    refine (Outcome.forall₂_of_mapM h).imp fun field i hi ↦ ?_
    split at hi
    · rename_i c hc
      cases hi
      rw [firstNamed?, List.find?_map]
      have hfind : columns.find? ((fun c : Cell ↦ c.1 == field) ∘ fun e ↦ (e.2, valueAt r e.1)) =
          some c := hc
      rw [hfind]
      rfl
    · cases hi

theorem nestedReads_of_nestedLayout {c : Collection} {layout : NestedLayout}
    (hwidth : r.values.length = r.columns.length)
    (h : nestedLayout c.spec (ownColumns (headerColumns r.columns) c) = .ok layout) :
    NestedReads r c layout := by
  obtain ⟨positions, hpositions, rfl⟩ := Outcome.map_eq_ok_iff.mp h
  have hfields : (ownColumns (headerColumns r.columns) c).map (fun e ↦ (e.2, valueAt r e.1)) =
      c.fields r := by
    rw [ownColumns, map_cellOf_claimed, map_cellOf_filter hwidth]
    rfl
  refine ⟨rfl, rfl, hfields, ?_⟩
  rw [nestedIdentity_reads hpositions, hfields]
  rfl

theorem firstNamed?_of_findIdx? {names : List String} {values : List Value} {column : String}
    {i : Nat} (hwidth : values.length = names.length)
    (h : names.findIdx? (· == column) = some i) :
    firstNamed? column (names.zip values) = some (values[i]?.getD .null) := by
  induction names generalizing values i with
  | nil => cases h
  | cons name names ih =>
    cases values with
    | nil => cases hwidth
    | cons v values =>
      rw [List.findIdx?_cons] at h
      rw [firstNamed?, List.zip_cons_cons, List.find?_cons]
      cases hname : name == column with
      | true =>
        rw [hname] at h
        cases h
        rfl
      | false =>
        rw [hname, if_neg Bool.false_ne_true] at h
        obtain ⟨j, hj, rfl⟩ := Option.map_eq_some_iff.mp h
        exact ih (Nat.succ.inj hwidth) hj

theorem entityIdentity_reads {spec : Spec} {parent : List Column} {positions : List Nat}
    (hwidth : r.values.length = r.columns.length)
    (hparent : parent.map (cellOf r) = ownCells spec r)
    (h : entityIdentity spec (r.columns.map unquote) parent = .ok positions) :
    positions.map (valueAt r) = identityValues spec r := by
  unfold entityIdentity at h
  unfold identityValues
  rw [← hparent, List.find?_map]
  split at h
  · rename_i hempty
    rw [if_pos hempty]
    have hfind : parent.find? ((fun c : Cell ↦ eqIgnoringCase c.1 "id") ∘ cellOf r) =
        parent.find? fun c ↦ eqIgnoringCase c.2 "id" := rfl
    rw [hfind]
    split at h
    · rename_i c hc
      cases h
      rw [hc]
      rfl
    · rename_i hnone
      cases h
      rw [hnone, Option.map_none, List.map_map, List.map_map]
      rfl
  · rename_i hnamed
    rw [if_neg hnamed]
    refine (filterMap_eq_of_forall₂ ?_).symm
    rw [List.forall₂_map_right_iff]
    refine (Outcome.forall₂_of_mapM h).imp fun column i hi ↦ ?_
    split at hi
    · rename_i j hj
      cases hi
      exact firstNamed?_of_findIdx? (by rw [List.length_map, hwidth]) hj
    · cases hi

/-- The layout of a header reads from a row what the row says. -/
theorem reads_of_build {spec : Spec} {layout : Layout}
    (hwidth : r.values.length = r.columns.length)
    (h : Layout.build r.columns spec = .ok layout) : Reads spec r layout := by
  rw [build_eq] at h
  obtain ⟨layouts, hlayouts, h⟩ := Outcome.bind_eq_ok_iff.mp h
  obtain ⟨positions, hpositions, h⟩ := Outcome.bind_eq_ok_iff.mp h
  cases h
  have hparent : (freeColumns r.columns spec.nested).map (cellOf r) = ownCells spec r :=
    map_cellOf_filter hwidth spec.nested
  refine ⟨rfl, ?_, entityIdentity_reads hwidth hparent hpositions, ?_⟩
  · rw [← hparent, List.map_map]
    refine List.map_congr_left fun c hc ↦ ?_
    simp only [Function.comp, cellOf, unquote_of_mem_headerColumns (List.mem_of_mem_filter hc)]
  · exact (Outcome.forall₂_of_mapM hlayouts).imp fun _ _ ↦ nestedReads_of_nestedLayout hwidth

end QueryCatalog.Merge
