import QueryCatalog.Template.Item
import QueryCatalog.Template.Token

namespace QueryCatalog.Template.Walk

inductive Stop
  | fault (f : Fault)
  /-- No byte has the index. -/
  | index (i : Nat)
  /-- The cut ends before it starts, behind the text, or inside a character. -/
  | cut (start stop : Nat)
  /-- A loop went on for more rounds than the text has bytes. -/
  | endless
  deriving DecidableEq, Repr

def loop {σ α : Type} (round : σ → Except Stop (σ ⊕ α)) : Nat → σ → Except Stop α
  | 0, _ => .error .endless
  | rounds + 1, s => do
    match ← round s with
    | .inl s => loop round rounds s
    | .inr a => return a

/-- The bytes of a text, each as the character of its number. -/
def octets (text : String) : List Char := text.toByteArray.data.toList.map Char.ofUInt8

section Reading

variable (text : String)

def size : Nat := (octets text).length

def peek (i : Nat) : Option Char := (octets text)[i]?

def byteAt (i : Nat) : Except Stop Char :=
  match peek text i with
  | some b => .ok b
  | none => .error (.index i)

def cut (start stop : Nat) : Except Stop String :=
  if h : start ≤ stop ∧ String.Pos.Raw.IsValid text ⟨start⟩ ∧
      String.Pos.Raw.IsValid text ⟨stop⟩ then
    .ok (String.extract (text.pos ⟨start⟩ h.2.1) (text.pos ⟨stop⟩ h.2.2))
  else .error (.cut start stop)

/-- A loop over the text: one round for each byte, and one to see the end. -/
def loopOver {σ α : Type} (round : σ → Except Stop (σ ⊕ α)) : σ → Except Stop α :=
  loop round (size text + 1)

def skipRound (p : Char → Bool) (pos : Nat) : Except Stop (Nat ⊕ Nat) :=
  if pos < size text then do
    let b ← byteAt text pos
    return if p b then .inl (pos + 1) else .inr pos
  else return .inr pos

def skip (p : Char → Bool) : Nat → Except Stop Nat := loopOver text (skipRound text p)

def skipQuoted (quote : Char) (start : Nat) : Except Stop Nat := do
  let pos ← skip text (· != quote) (start + 1)
  if pos < size text then return pos + 1
  else throw (.fault ⟨start, .unterminatedQuote quote⟩)

def commentRound (start pos : Nat) : Except Stop (Nat ⊕ Nat) :=
  if pos + 1 < size text then do
    if (← byteAt text pos) = '*' then
      if (← byteAt text (pos + 1)) = '/' then return .inr (pos + 2)
    return .inl (pos + 1)
  else throw (.fault ⟨start, .unterminatedComment⟩)

def skipComment (start : Nat) : Except Stop Nat :=
  loopOver text (commentRound text start) (start + 2)

def readWord (start : Nat) : Except Stop (String × Nat) := do
  let pos ← skip text isNameChar start
  return (← cut text start pos, pos)

def pathRound (name : String) (s : List String × Nat) :
    Except Stop ((List String × Nat) ⊕ (List String × Nat)) :=
  if peek text s.2 = some '.' then do
    let (segment, pos) ← readWord text (s.2 + 1)
    if segment.isEmpty then throw (.fault ⟨pos, .emptySegment name⟩)
    return .inl (s.1 ++ [segment], pos)
  else return .inr s

def readParameter (colon : Nat) : Except Stop (Parameter × Nat) := do
  if (peek text (colon + 1)).any isNameStart then
    let (name, pos) ← readWord text (colon + 1)
    let (path, pos) ← loopOver text (pathRound text name) ([], pos)
    return (⟨name, path⟩, pos)
  else throw (.fault ⟨colon, .missingName⟩)

/-- Where the reader of a slot is: how many braces are open, and where the arrow was. -/
structure SlotState where
  pos : Nat
  depth : Nat := 1
  arrow? : Option Nat := none

def slotRound (opening : Nat) (s : SlotState) : Except Stop (SlotState ⊕ SlotState) :=
  match peek text s.pos with
  | none => throw (.fault ⟨opening, .unbalancedOpen⟩)
  | some b =>
    if isQuote b ∧ s.arrow?.isSome then do
      let pos ← skipQuoted text b s.pos
      return .inl { s with pos := pos }
    else if b = '{' then
      if s.arrow?.isNone then throw (.fault ⟨s.pos, .nestedOpen⟩)
      else return .inl { s with pos := s.pos + 1, depth := s.depth + 1 }
    else if b = '}' then
      if s.depth - 1 = 0 then return .inr s
      else return .inl { s with pos := s.pos + 1, depth := s.depth - 1 }
    else if b = '-' ∧ s.arrow?.isNone ∧ peek text (s.pos + 1) = some '>' then
      return .inl { s with pos := s.pos + 2, arrow? := some s.pos }
    else return .inl { s with pos := s.pos + 1 }

def trimmed (piece : String) : String := String.ofList (Text.trim piece.toList)

def slotParts (opening close : Nat) : Option Nat → Except Stop (String × Option String)
  | some arrow => do
    let before ← cut text (opening + 1) arrow
    let after ← cut text (arrow + 2) close
    return (trimmed before, some (trimmed after))
  | none => do
    let before ← cut text (opening + 1) close
    return (trimmed before, none)

def isName (name : String) : Except Stop Bool :=
  if (octets name).isEmpty then return false
  else do
    let b ← byteAt name 0
    return isNameStart b && ((octets name).drop 1).all isNameChar

def readSlot (opening : Nat) : Except Stop (Slot × Nat) := do
  let s ← loopOver text (slotRound text opening) { pos := opening + 1 }
  let (name, default?) ← slotParts text opening s.pos s.arrow?
  if ← isName name then
    return (⟨name, default?, ← cut text opening (s.pos + 1)⟩, s.pos + 1)
  else throw (.fault ⟨opening + 1, .invalidName name⟩)

end Reading

/-- How far the walk has come. A literal that has begun is cut out when something else begins. -/
structure State where
  pos : Nat := 0
  literalStart : Nat := 0
  tokens : List Token := []

section Running

variable (text : String)

def flush (s : State) : Except Stop State :=
  if s.literalStart < s.pos then do
    let piece ← cut text s.literalStart s.pos
    return ⟨s.pos, s.pos, s.tokens ++ [.literal piece]⟩
  else return { s with literalStart := s.pos }

def State.push (s : State) (token : Token) (pos : Nat) : State := ⟨pos, pos, s.tokens ++ [token]⟩

def step (b : Char) (s : State) : Except Stop State :=
  let next := peek text (s.pos + 1)
  if isQuote b then return { s with pos := ← skipQuoted text b s.pos }
  else if b = '-' ∧ next = some '-' then return { s with pos := ← skip text (· != '\n') s.pos }
  else if b = '/' ∧ next = some '*' then return { s with pos := ← skipComment text s.pos }
  else if b = '\\' ∧ next.any isEscapable then do
    let s ← flush text s
    return s.push (.escaped (← byteAt text (s.pos + 1))) (s.pos + 2)
  else if b = ':' ∧ next = some ':' then return { s with pos := s.pos + 2 }
  else if b = ':' then do
    let s ← flush text s
    let (p, pos) ← readParameter text s.pos
    return s.push (.parameter p) pos
  else if b = '{' then do
    let s ← flush text s
    let (v, pos) ← readSlot text s.pos
    return s.push (.slot v) pos
  else if b = '}' then throw (.fault ⟨s.pos, .unbalancedClose⟩)
  else if b = '?' then throw (.fault ⟨s.pos, .positionalMark⟩)
  else return { s with pos := s.pos + 1 }

def round (s : State) : Except Stop (State ⊕ List Token) :=
  if s.pos < size text then do
    let b ← byteAt text s.pos
    return .inl (← step text b s)
  else do
    let s ← flush text s
    return .inr s.tokens

def compile : Except Stop Template := do
  let tokens ← loopOver text (round text) {}
  return ⟨text, tokens⟩

end Running

end QueryCatalog.Template.Walk
