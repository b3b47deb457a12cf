namespace QueryCatalog.XXHash

def prime1 : UInt64 := 0x9E3779B185EBCA87
def prime2 : UInt64 := 0xC2B2AE3D27D4EB4F
def prime3 : UInt64 := 0x165667B19E3779F9
def prime4 : UInt64 := 0x85EBCA77C2B2AE63
def prime5 : UInt64 := 0x27D4EB2F165667C5

def rotate (x n : UInt64) : UInt64 := (x <<< n) ||| (x >>> (64 - n))

def word (bytes : List UInt8) : UInt64 := bytes.foldr (fun b n ↦ (n <<< 8) ||| b.toUInt64) 0

def round (acc lane : UInt64) : UInt64 := rotate (acc + lane * prime2) 31 * prime1

structure Lanes where
  a : UInt64
  b : UInt64
  c : UInt64
  d : UInt64

namespace Lanes

def initial : Lanes := ⟨prime1 + prime2, prime2, 0, 0 - prime1⟩

def stripe (l : Lanes) (bytes : List UInt8) : Lanes where
  a := round l.a (word (bytes.take 8))
  b := round l.b (word ((bytes.drop 8).take 8))
  c := round l.c (word ((bytes.drop 16).take 8))
  d := round l.d (word ((bytes.drop 24).take 8))

def merge (acc lane : UInt64) : UInt64 := (acc ^^^ round 0 lane) * prime1 + prime4

def converge (l : Lanes) : UInt64 :=
  let acc := rotate l.a 1 + rotate l.b 7 + rotate l.c 12 + rotate l.d 18
  merge (merge (merge (merge acc l.a) l.b) l.c) l.d

end Lanes

def stripes (l : Lanes) (bytes : List UInt8) : Lanes × List UInt8 :=
  if 32 ≤ bytes.length then stripes (l.stripe (bytes.take 32)) (bytes.drop 32) else (l, bytes)
  termination_by bytes.length

/-- Takes in fewer than 32 bytes: words of eight, then of four, then single bytes. -/
def tail (acc : UInt64) (bytes : List UInt8) : UInt64 :=
  if 8 ≤ bytes.length then
    tail (rotate (acc ^^^ round 0 (word (bytes.take 8))) 27 * prime1 + prime4) (bytes.drop 8)
  else if 4 ≤ bytes.length then
    tail (rotate (acc ^^^ (word (bytes.take 4) * prime1)) 23 * prime2 + prime3) (bytes.drop 4)
  else
    match bytes with
    | [] => acc
    | b :: rest => tail (rotate (acc ^^^ (b.toUInt64 * prime5)) 11 * prime1) rest
  termination_by bytes.length

def avalanche (acc : UInt64) : UInt64 :=
  let acc := (acc ^^^ (acc >>> 33)) * prime2
  let acc := (acc ^^^ (acc >>> 29)) * prime3
  acc ^^^ (acc >>> 32)

def hash (bytes : List UInt8) : UInt64 :=
  let length := bytes.length.toUInt64
  if 32 ≤ bytes.length then
    let (lanes, rest) := stripes .initial bytes
    avalanche (tail (lanes.converge + length) rest)
  else avalanche (tail (prime5 + length) bytes)

end QueryCatalog.XXHash
