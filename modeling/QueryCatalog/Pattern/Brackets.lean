import QueryCatalog.Pattern.Escape

namespace QueryCatalog.Pattern

def asciiClass? (name : List Char) : Option CharClass :=
  let ranges (l : List (Char × Char)) : CharClass :=
    .unions (l.map fun p ↦ .range p.1.toNat p.2.toNat)
  match String.ofList name with
  | "alnum" => some (ranges [('0', '9'), ('A', 'Z'), ('a', 'z')])
  | "alpha" => some (ranges [('A', 'Z'), ('a', 'z')])
  | "ascii" => some .ascii
  | "blank" => some (ranges [('\t', '\t'), (' ', ' ')])
  | "cntrl" => some (.union (.range 0 31) (.range 127 127))
  | "digit" => some (ranges [('0', '9')])
  | "graph" => some (ranges [('!', '~')])
  | "lower" => some (ranges [('a', 'z')])
  | "print" => some (ranges [(' ', '~')])
  | "punct" => some (ranges [('!', '/'), (':', '@'), ('[', '\x60'), ('{', '~')])
  | "space" => some (.union (.range 9 13) (.range 32 32))
  | "upper" => some (ranges [('A', 'Z')])
  | "word" => some (ranges [('0', '9'), ('A', 'Z'), ('_', '_'), ('a', 'z')])
  | "xdigit" => some (ranges [('0', '9'), ('A', 'F'), ('a', 'f')])
  | _ => none

def readAsciiName? : List Char → Option ((Bool × CharClass) × List Char)
  | ':' :: rest =>
    let (negated, rest) := match rest with
      | '^' :: r => (true, r)
      | r => (false, r)
    match rest.dropWhile Char.isLower with
    | ':' :: ']' :: rest' =>
      (asciiClass? (rest.takeWhile Char.isLower)).map fun c ↦ ((negated, c), rest')
    | _ => none
  | _ => none

structure ClassPart where
  set : CharClass
  depth : Nat

namespace ClassPart

def join (items : List ClassPart) : ClassPart :=
  ⟨.unions (items.map set),
    match items with
    | [] => 0
    | [a] => a.depth
    | _ => items.foldl (fun n a ↦ max n a.depth) 0 + 1⟩

end ClassPart

/-- The character that a literal stands for in a class, where it must be of ASCII unless all
characters are meant. -/
def Literal.memberChar? (f : Flags) (l : Literal) : Option Char := do
  let c ← l.char? f
  if !f.unicode && 127 < c.toNat then none else some c

def readClassItem (f : Flags) : List Char → Option (Escape × List Char)
  | [] => none
  | '\\' :: rest => readEscape f rest
  | c :: rest => some (.char ⟨c, false⟩, rest)

/-- The character behind a minus sign that tells whether the sign makes a range. Of a comment it is
the first character that is no blank. -/
def behindMinus? (f : Flags) (s : List Char) : Option Char :=
  if f.ignoreSpace then
    match s.dropWhile Text.isBlank with
    | '#' :: rest => (rest.dropWhile Text.isBlank).head?
    | s => s.head?
  else s.head?

def rangeSign? (f : Flags) : List Char → Option (List Char)
  | '-' :: rest =>
    match behindMinus? f rest with
    | some ']' => none
    | some '-' => none
    | _ => some (skipSpace f rest)
  | _ => none

/-- Reads an item of a class, or a range between two characters. Something must follow. -/
def readClassRange (f : Flags) (s : List Char) : Option (CharClass × List Char) := do
  let (first, rest) ← readClassItem f s
  let rest := skipSpace f rest
  if rest.isEmpty then none
  match rangeSign? f rest with
  | some rest =>
    let (last, rest) ← readClassItem f rest
    match first, last with
    | .char a, .char b =>
      let a ← a.memberChar? f
      let b ← b.memberChar? f
      if a ≤ b then return (.range a.toNat b.toNat, rest) else none
    | _, _ => none
  | none =>
    match first with
    | .char l => return (.single (← l.memberChar? f), rest)
    | .cls c => return (c, rest)
    | .anchor _ => none

inductive SetOp
  | inter | diff | symmDiff

def SetOp.apply (op : SetOp) (f : Flags) (a b : CharClass) : CharClass :=
  let a := foldClass f a
  let b := foldClass f b
  match op with
  | inter => .inter a b
  | diff => .diff a b
  | symmDiff => .symmDiff a b

abbrev Pending := Option (SetOp × ClassPart)

def settle (f : Flags) (left? : Pending) (items : List ClassPart) : ClassPart :=
  let right := ClassPart.join items
  match left? with
  | some (op, left) => ⟨op.apply f left.set right.set, max left.depth right.depth + 1⟩
  | none => right

/-- Reads the minus signs and the closing bracket that stand for themselves at the start of a
class. -/
def readLeading (f : Flags) (s : List Char) : List ClassPart × List Char :=
  match readRun f (· == '-') s with
  | ([], ']' :: rest) => ([⟨.single ']', 0⟩], skipSpace f rest)
  | (signs, rest) => (signs.map fun c ↦ ⟨.single c, 0⟩, rest)

def readClass (bound : Nat) (f : Flags) (s : List Char) : Option (ClassPart × List Char) :=
  match bound with
  | 0 => none
  | bound + 1 => do
    let s := skipSpace f s
    let (negated, s) := match s with
      | '^' :: rest => (true, skipSpace f rest)
      | _ => (false, s)
    let (items, rest) := readLeading f s
    let (part, rest) ← readItems bound f none items rest
    let set ← negateClass? f negated (foldClass f part.set)
    return (⟨set, part.depth + 1⟩, rest)
where
  readItems (bound : Nat) (f : Flags) (left? : Pending) (items : List ClassPart)
      (s : List Char) : Option (ClassPart × List Char) :=
    match bound with
    | 0 => none
    | bound + 1 =>
      match skipSpace f s with
      | [] => none
      | '[' :: rest =>
        match readAsciiName? rest with
        | some ((negated, c), rest) =>
          match negateClass? f negated (foldClass f c) with
          | some c => readItems bound f left? (items ++ [⟨c, 0⟩]) rest
          | none => none
        | none =>
          match readClass bound f rest with
          | some (part, rest) => readItems bound f left? (items ++ [part]) rest
          | none => none
      | ']' :: rest => some (settle f left? items, rest)
      | '&' :: '&' :: rest => readItems bound f (some (.inter, settle f left? items)) [] rest
      | '-' :: '-' :: rest => readItems bound f (some (.diff, settle f left? items)) [] rest
      | '~' :: '~' :: rest => readItems bound f (some (.symmDiff, settle f left? items)) [] rest
      | s =>
        match readClassRange f s with
        | some (c, rest) => readItems bound f left? (items ++ [⟨c, 0⟩]) rest
        | none => none

end QueryCatalog.Pattern
