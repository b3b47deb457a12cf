import QueryCatalog.Value.Basic

namespace QueryCatalog

/-- A row with its header. A row whose width is not that of its header is refused by a merge. -/
structure Row where
  columns : List String
  values : List Value

namespace Row

def ofPairs (pairs : List (String × Value)) : Row := ⟨pairs.map Prod.fst, pairs.map Prod.snd⟩

def pairs (r : Row) : List (String × Value) := r.columns.zip r.values

def get? (r : Row) (column : String) : Option Value := do
  r.values[← r.columns.findIdx? (· == column)]?

/-- The object whose properties are the columns; the last of columns with one name stays. -/
def toObject (r : Row) : Value := .ofProperties (KeyMap.ofList r.pairs)

end Row

namespace Value

mutual

def numEq : Value → Value → Bool
  | null, null => true
  | bool a, bool b => a == b
  | int a, int b => a == b
  | float a, float b => a.numEq b
  | string a, string b => a == b
  | bytes a, bytes b => a == b
  | dateTime a, dateTime b => a == b
  | list a, list b => listNumEq a b
  | object a, object b => propertiesNumEq a b
  | _, _ => false

def listNumEq : List Value → List Value → Bool
  | [], [] => true
  | a :: as, b :: bs => numEq a b && listNumEq as bs
  | _, _ => false

def propertiesNumEq : List (String × Value) → List (String × Value) → Bool
  | [], [] => true
  | (k, a) :: as, (l, b) :: bs => k == l && numEq a b && propertiesNumEq as bs
  | _, _ => false

end

end Value

def Row.numEq (r s : Row) : Bool := r.columns == s.columns && Value.listNumEq r.values s.values

end QueryCatalog
