import QueryCatalog.Merge.Stream

namespace QueryCatalog.Merge

variable (values : List Value)

def Key.ofValues? (positions : List Nat) : Option Key :=
  positions.mapM fun i ↦ values[i]?.map KeyPart.ofValue

def element? (layout : NestedLayout) : Option Value :=
  if layout.scalar then do
    let c ← layout.columns[0]?
    values[c.1]?
  else do
    let fields ← layout.columns.mapM fun c ↦ values[c.1]?.map (c.2, ·)
    return .ofProperties (KeyMap.ofList fields)

/-- Adds the element of a row to one collection. A collection without columns reads nothing. -/
def addElement? (layout : NestedLayout) (seen : List Key) (properties : KeyMap Value) :
    Option (List Key × KeyMap Value) :=
  if layout.columns.isEmpty then some (seen, properties)
  else do
    let key ← Key.ofValues? values layout.identity
    if key.isAllNull || seen.contains key then return (seen, properties)
    let v ← element? values layout
    return (key :: seen, push properties layout.property v)

def addElements? :
    List NestedLayout → List (List Key) → KeyMap Value → Option (List (List Key) × KeyMap Value)
  | layout :: layouts, seen :: seens, properties => do
    let (seen, properties) ← addElement? values layout seen properties
    let (seens, properties) ← addElements? layouts seens properties
    return (seen :: seens, properties)
  | _, seens, properties => some (seens, properties)

namespace OpenEntity

def append? (e : OpenEntity) (layout : Layout) : Option OpenEntity := do
  let (seen, properties) ← addElements? values layout.nested e.seen e.properties
  return ⟨e.key, properties, seen⟩

def start? (key : Key) (layout : Layout) : Option OpenEntity := do
  let columns ← layout.parent.mapM fun i ↦ do
    let name ← layout.header[i]?
    let v ← values[i]?
    return (unquote name, v)
  let collections := layout.nested.map fun n ↦ (n.property, Value.list [])
  let e : OpenEntity :=
    ⟨key, (KeyMap.ofList columns).insertAll collections, layout.nested.map fun _ ↦ []⟩
  e.append? values layout

end OpenEntity

namespace State

def take? (st : State) (layout : Layout) (row : Nat) :
    Option (Option (Result Value) × State) := do
  let key ← Key.ofValues? values layout.identity
  match st.current? with
  | some e =>
    if e.key = key then
      let e ← e.append? values layout
      return (none, { st with current? := some e })
    else if st.closed.contains key then return st.fail (.rowOrder key.display row)
    else
      let start ← OpenEntity.start? values key layout
      return (some (.ok e.value), { st with current? := some start, closed := e.key :: st.closed })
  | none =>
    if st.closed.contains key then return st.fail (.rowOrder key.display row)
    else
      let start ← OpenEntity.start? values key layout
      return (none, { st with current? := some start })

def feed? (st : State) (spec : Spec) (row : Result Row) :
    Option (Option (Result Value) × State) :=
  match row with
  | .error e => some (st.fail e)
  | .ok r =>
    let n := st.row
    let st := { st with row := n + 1 }
    if r.values.length ≠ r.columns.length then
      some (st.fail (.rowWidth n r.values.length r.columns.length))
    else
      match st.layoutFor spec r.columns with
      | .error e => some (st.fail e)
      | .ok layout => take? r.values { st with layout? := some layout } layout n

end State

def collect? (spec : Spec) : State → List (Result Row) → Option (Result (List Value))
  | st, [] =>
    match st.finish.1 with
    | some out => some (out.map fun v ↦ [v])
    | none => some (.ok [])
  | st, row :: rows => do
    match ← st.feed? spec row with
    | (some (.error e), _) => return .error e
    | (some (.ok v), st) => return (← collect? spec st rows).map (v :: ·)
    | (none, st) => collect? spec st rows

def mergeAll? (spec : Spec) (rows : List (Result Row)) : Option (Result (List Value)) :=
  collect? spec {} rows

end QueryCatalog.Merge
