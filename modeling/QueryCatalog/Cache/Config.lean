import QueryCatalog.Error
import QueryCatalog.Pattern.Parser
import QueryCatalog.Text.Case

namespace QueryCatalog

inductive Transfer
  | copy
  | reference
  deriving DecidableEq, Repr, Inhabited

def Transfer.name : Transfer → String
  | .copy => "Copy"
  | .reference => "Reference"

def Transfer.ofKey? : String → Option Transfer
  | "copy" => some .copy
  | "reference" => some .reference
  | _ => none

/-- The limits of a cache. A time of zero milliseconds is no limit. -/
structure CacheConfig where
  capacity : Nat := 1000
  liveTime : Nat := 0
  idleTime : Nat := 0
  /-- The smallest and the largest number of items of a list that is kept. -/
  minSize : Nat := 0
  maxSize? : Option Nat := none
  transfer : Transfer := .copy
  shards : Nat := 1
  deriving DecidableEq, Repr, Inhabited

namespace CacheConfig

def validate (c : CacheConfig) : Result Unit :=
  if c.capacity = 0 then .error (.config .zeroCapacity)
  else if c.shards = 0 ∨ c.capacity < c.shards then
    .error (.config (.shardCount c.capacity c.shards))
  else
    match c.maxSize? with
    | some maxSize =>
      if maxSize < c.minSize then .error (.config (.sizeLimits c.minSize maxSize)) else .ok ()
    | none => .ok ()

def admits (c : CacheConfig) (size : Nat) : Bool :=
  c.minSize ≤ size && c.maxSize?.all (size ≤ ·)

end CacheConfig

inductive RefreshFilter
  | substring (needle : List Char)
  | pattern (r : Pattern.Regex)
  deriving DecidableEq, Repr

namespace RefreshFilter

def occurs (needle : List Char) : List Char → Bool
  | [] => needle.isEmpty
  | c :: rest => needle.isPrefixOf (c :: rest) || occurs needle rest

def parse (raw : String) : Result RefreshFilter :=
  match raw.toList with
  | 'r' :: 'e' :: ':' :: rest =>
    match Pattern.parse? (String.ofList rest) with
    | some r => .ok (.pattern r)
    | none => .error (.config (.badPattern raw))
  | [] => .error (.config .emptyFilter)
  | _ => .ok (.substring (Text.lower raw).toList)

def matchesName (f : RefreshFilter) (method : String) : Bool :=
  match f with
  | .substring needle => occurs needle (Text.lower method).toList
  | .pattern r => r.occursIn method

def parseAll (raw : List String) : Result (List RefreshFilter) := raw.mapM parse

def anyMatches (filters : List RefreshFilter) (method : String) : Bool :=
  filters.any (·.matchesName method)

end RefreshFilter

end QueryCatalog
