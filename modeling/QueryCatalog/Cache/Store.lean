import QueryCatalog.Binding.Context
import QueryCatalog.Counting
import QueryCatalog.Error
import QueryCatalog.Recency
import QueryCatalog.Text.XXHash

namespace QueryCatalog

structure CacheKey where
  method : String
  args : String
  deriving DecidableEq, Repr, Inhabited

namespace CacheKey

def ofContext (method : String) (ctx : Context) : CacheKey := ⟨method, ctx.taggedText⟩

def ofValue (method : String) (v : Value) : CacheKey := ⟨method, v.taggedText⟩

/-- The hash of the method, a zero byte and the arguments. -/
def fingerprint (k : CacheKey) : UInt64 :=
  XXHash.hash (k.method.toUTF8.toList ++ 0 :: k.args.toUTF8.toList)

def fingerprintText (k : CacheKey) : String :=
  let digits := Nat.toDigits 16 k.fingerprint.toNat
  String.ofList (List.replicate (16 - digits.length) '0' ++ digits)

def display (k : CacheKey) : String := k.method ++ "#" ++ k.fingerprintText

end CacheKey

/-- A value with the times of its insertion and its last use, in milliseconds. The stamp tells
entries apart that were stored under one key. -/
structure CacheEntry (α : Type) where
  stamp : Nat
  value : α
  createdAt : Nat
  lastUsed : Nat

/-- What a machine can lay out: so many shards, each with a table for so many entries, or not. -/
structure Memory where
  holds (shards entries : Nat) : Bool

namespace Memory

def unlimited : Memory := ⟨fun _ _ ↦ true⟩

def allocationLimit : Nat := Nat.pow 2 63 - 1

/-- The slots of a table for so many entries: a power of two, an eighth of which stays free. -/
def tableSlots (entries : Nat) : Nat := Nat.pow 2 (Nat.log2 (8 * entries / 7 - 1) + 1)

/-- All that has addresses of 64 bits. A shard takes eight words at least, and a slot of its table
two words and a byte. -/
def addressable : Memory :=
  ⟨fun shards entries ↦
    64 * shards ≤ allocationLimit && 17 * tableSlots entries ≤ allocationLimit⟩

end Memory

structure Store (α : Type) where
  shardCapacity : Nat
  shards : List (RecencyMap CacheKey (CacheEntry α) shardCapacity)

namespace Store

variable {α : Type}

/-- The number of shards; no shard is without room. -/
def shardCount (capacity shards : Nat) : Nat := min (max shards 1) capacity

/-- An empty store of at most the given capacity. All of it is laid out at once. -/
def create (capacity shards : Nat) (memory : Memory := .unlimited) : Result (Store α) :=
  if capacity = 0 then .error (.config .zeroCapacity)
  else
    let count := shardCount capacity shards
    let shardCapacity := capacity / count
    if shardCapacity = 0 then .error (.config .zeroCapacity)
    else if memory.holds count shardCapacity then
      .ok ⟨shardCapacity, List.replicate count .empty⟩
    else .error .outOfMemory

def capacity (s : Store α) : Nat := s.shardCapacity * s.shards.length

def size (s : Store α) : Nat := total (s.shards.map RecencyMap.size)

def isEmpty (s : Store α) : Bool := s.size == 0

def shardIndex (s : Store α) (k : CacheKey) : Nat := k.fingerprint.toNat % s.shards.length

def shard (s : Store α) (k : CacheKey) : RecencyMap CacheKey (CacheEntry α) s.shardCapacity :=
  s.shards[s.shardIndex k]?.getD .empty

def modifyShard (s : Store α) (k : CacheKey)
    (f : RecencyMap CacheKey (CacheEntry α) s.shardCapacity →
      RecencyMap CacheKey (CacheEntry α) s.shardCapacity) : Store α :=
  ⟨s.shardCapacity, s.shards.modify (s.shardIndex k) f⟩

def peek? (s : Store α) (k : CacheKey) : Option (CacheEntry α) := (s.shard k).peek? k

def get (s : Store α) (k : CacheKey) : Option (CacheEntry α) × Store α :=
  (s.peek? k, s.modifyShard k (·.touch k))

/-- Stores an entry; returns the key of the entry that makes room for it. -/
def insert (s : Store α) (k : CacheKey) (e : CacheEntry α) : Option CacheKey × Store α :=
  (((s.shard k).evicted? k e).map Prod.fst, s.modifyShard k (·.insert k e))

/-- Removes the entry of a key if it is the one with the given stamp. -/
def removeEntry (s : Store α) (k : CacheKey) (stamp : Nat) : Bool × Store α :=
  if (s.peek? k).any (·.stamp == stamp) then (true, s.modifyShard k (·.erase k)) else (false, s)

def clear (s : Store α) : Nat × Store α :=
  (s.size, ⟨s.shardCapacity, s.shards.map fun _ ↦ .empty⟩)

end Store

end QueryCatalog
