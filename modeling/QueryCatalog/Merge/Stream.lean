import QueryCatalog.Merge.Key
import QueryCatalog.Merge.Layout
import QueryCatalog.Rows.Row

namespace QueryCatalog.Merge

structure OpenEntity where
  key : Key
  properties : KeyMap Value
  /-- For each collection the keys of the elements it has. -/
  seen : List (List Key)

def element (layout : NestedLayout) (values : List Value) : Value :=
  let at' (i : Nat) := values[i]?.getD .null
  match layout.scalar, layout.columns with
  | true, c :: _ => at' c.1
  | _, columns => .ofProperties (KeyMap.ofList (columns.map fun c ↦ (c.2, at' c.1)))

def push (properties : KeyMap Value) (name : String) (v : Value) : KeyMap Value :=
  match properties.get? name with
  | some (.list items) => properties.insert name (.list (items ++ [v]))
  | _ => properties

/-- Adds the elements of a row, one for each collection. An element without key, or with a key
that the collection has already, is left out. -/
def addElements (values : List Value) :
    List NestedLayout → List (List Key) → KeyMap Value → List (List Key) × KeyMap Value
  | layout :: layouts, seen :: seens, properties =>
    let key := Key.ofValues values layout.identity
    let skip := layout.columns.isEmpty || key.isAllNull || seen.contains key
    let seen' := if skip then seen else key :: seen
    let properties' :=
      if skip then properties else push properties layout.property (element layout values)
    let (seens', properties'') := addElements values layouts seens properties'
    (seen' :: seens', properties'')
  | _, seens, properties => (seens, properties)

namespace OpenEntity

def append (e : OpenEntity) (layout : Layout) (values : List Value) : OpenEntity :=
  let (seen, properties) := addElements values layout.nested e.seen e.properties
  ⟨e.key, properties, seen⟩

def start (key : Key) (layout : Layout) (values : List Value) : OpenEntity :=
  let columns := layout.parent.map fun i ↦
    (unquote (layout.header[i]?.getD ""), values[i]?.getD .null)
  let collections := layout.nested.map fun n ↦ (n.property, Value.list [])
  let e : OpenEntity :=
    ⟨key, (KeyMap.ofList columns).insertAll collections, layout.nested.map fun _ ↦ []⟩
  e.append layout values

def value (e : OpenEntity) : Value := .ofProperties e.properties

end OpenEntity

structure State where
  layout? : Option Layout := none
  current? : Option OpenEntity := none
  closed : List Key := []
  row : Nat := 0
  done : Bool := false

namespace State

def fail (st : State) (e : Error) : Option (Result Value) × State :=
  (some (.error e), { st with current? := none, done := true })

/-- The layout for a header, which is built anew only if the header changes. -/
def layoutFor (st : State) (spec : Spec) (header : List String) : Result Layout :=
  match st.layout? with
  | some layout => if layout.header = header then .ok layout else Layout.build header spec
  | none => Layout.build header spec

/-- Takes a row of the right width. A row that starts an entity yields the one before it. -/
def take (st : State) (layout : Layout) (row : Nat) (values : List Value) :
    Option (Result Value) × State :=
  let key := Key.ofValues values layout.identity
  let start := OpenEntity.start key layout values
  match st.current? with
  | some e =>
    if e.key = key then (none, { st with current? := some (e.append layout values) })
    else if st.closed.contains key then st.fail (.rowOrder key.display row)
    else (some (.ok e.value), { st with current? := some start, closed := e.key :: st.closed })
  | none =>
    if st.closed.contains key then st.fail (.rowOrder key.display row)
    else (none, { st with current? := some start })

def feed (st : State) (spec : Spec) (row : Result Row) : Option (Result Value) × State :=
  match row with
  | .error e => st.fail e
  | .ok r =>
    let n := st.row
    let st := { st with row := n + 1 }
    if r.values.length ≠ r.columns.length then
      st.fail (.rowWidth n r.values.length r.columns.length)
    else
      match st.layoutFor spec r.columns with
      | .error e => st.fail e
      | .ok layout => { st with layout? := some layout }.take layout n r.values

def finish (st : State) : Option (Result Value) × State :=
  (st.current?.map fun e ↦ .ok e.value, { st with current? := none, done := true })

end State

structure Stream where
  spec : Spec
  state : State := {}
  rows : List (Result Row)

namespace Stream

def pull (spec : Spec) : State → List (Result Row) →
    Option (Result Value) × State × List (Result Row)
  | st, [] => (st.finish.1, st.finish.2, [])
  | st, row :: rows =>
    match st.feed spec row with
    | (some out, st) => (some out, st, rows)
    | (none, st) => pull spec st rows

/-- The next entity or error. After an error or the end there is nothing more, and no further row
is taken. -/
def next (s : Stream) : Option (Result Value) × Stream :=
  if s.state.done then (none, s)
  else
    let (out, state, rows) := pull s.spec s.state s.rows
    (out, { s with state := state, rows := rows })

end Stream

def collect (spec : Spec) : State → List (Result Row) → Result (List Value)
  | st, [] =>
    match st.finish.1 with
    | some out => out.map fun v ↦ [v]
    | none => .ok []
  | st, row :: rows =>
    match st.feed spec row with
    | (some (.error e), _) => .error e
    | (some (.ok v), st) => (collect spec st rows).map (v :: ·)
    | (none, st) => collect spec st rows

def mergeAll (spec : Spec) (rows : List (Result Row)) : Result (List Value) := collect spec {} rows

end QueryCatalog.Merge
