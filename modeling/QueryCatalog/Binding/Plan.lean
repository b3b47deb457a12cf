import QueryCatalog.Binding.Context
import QueryCatalog.Template.Compile

namespace QueryCatalog

/-- A value together with the parameter it comes from, and its place in an expanded list. -/
structure BoundValue where
  value : Value
  label : String
  index? : Option Nat

structure Plan where
  sql : String
  bound : List BoundValue

namespace Plan

def values (p : Plan) : List Value := p.bound.map BoundValue.value

end Plan

namespace Binding

def mark : String := "?"

structure Piece where
  text : String
  bound : List BoundValue

namespace Piece

def ofText (text : String) : Piece := ⟨text, []⟩

end Piece

/-- The text that fills a slot. An empty fragment counts as none where there is a default. -/
def fill (slot : Slot) (ctx : Context) (opts : BindOptions) : Result String :=
  let supplied := match ctx.fragment? slot.name with
    | some fragment => some fragment
    | none =>
      if opts.slotsFromParameters then (ctx.param? slot.name).map Value.display else none
  match supplied, slot.default? with
  | some fragment, none => .ok fragment
  | some fragment, some default => .ok (if fragment.isEmpty then default else fragment)
  | none, some default => .ok default
  | none, none => .error (.missingSlot slot.name)

def fillToken (ctx : Context) (opts : BindOptions) : Token → Result String
  | .slot s => fill s ctx opts
  | token => .ok token.source

def substitute (t : Template) (ctx : Context) (opts : BindOptions) : Result String :=
  (t.tokens.mapM (fillToken ctx opts)).map String.join

def compile (text : String) : Result Template := (Template.compile text).mapError .template

/-- Walks a path from a value. A null on the way is the value of the whole path. -/
def walk (resolver : Resolver) (p : Parameter) (v : Value) : List String → Result Value
  | [] => .ok v
  | segment :: rest =>
    if v.isNull then .ok v
    else
      match resolver v segment with
      | some v' => walk resolver p v' rest
      | none => .error (.unresolvedPath p.name p.dottedPath segment)

def base (p : Parameter) (ctx : Context) (opts : BindOptions) (now : Int) : Result Value :=
  if opts.timestamped ∧ p.name = timestampName then .ok (.dateTime now)
  else
    match ctx.param? p.name with
    | some v => .ok v
    | none => .error (.missingParameter p.name)

def resolve (resolver : Resolver) (p : Parameter) (ctx : Context) (opts : BindOptions)
    (now : Int) : Result Value := do
  walk resolver p (← base p ctx opts now) p.path

def numbered (label : String) (items : List Value) : List BoundValue :=
  items.zipIdx.map fun e ↦ ⟨e.1, label, some e.2⟩

/-- The marks of a value: one for each item of a list that is expanded, and one for any other
value. An empty list has no mark and is written as null. -/
def expand (p : Parameter) (opts : BindOptions) (v : Value) : Piece :=
  match v.items?, opts.isSingle p with
  | some [], false => .ofText "NULL"
  | some items, false =>
    ⟨opts.listSeparator.intercalate (items.map fun _ ↦ mark), numbered p.label items⟩
  | _, _ => ⟨mark, [⟨v, p.label, none⟩]⟩

/-- What a token becomes. A slot that a fragment brought in stays as it is written. -/
def render (resolver : Resolver) (ctx : Context) (opts : BindOptions) (now : Int) :
    Token → Result Piece
  | .literal text => .ok (.ofText text)
  | .escaped c => .ok (.ofText c.toString)
  | .slot s => .ok (.ofText s.source)
  | .parameter p => (resolve resolver p ctx opts now).map (expand p opts)

def assemble (pieces : List Piece) : Plan :=
  ⟨String.join (pieces.map Piece.text), pieces.flatMap Piece.bound⟩

def renderAll (resolver : Resolver) (t : Template) (ctx : Context) (opts : BindOptions)
    (now : Int) : Result Plan :=
  (t.tokens.mapM (render resolver ctx opts now)).map assemble

def checkReserved (ctx : Context) (opts : BindOptions) : Result Unit :=
  if opts.timestamped ∧ ctx.params.contains timestampName then
    .error (.reservedParameter timestampName)
  else .ok ()

def filled (t : Template) (ctx : Context) (opts : BindOptions) : Result Template :=
  if t.hasSlots then do compile (← substitute t ctx opts) else .ok t

def bind (resolver : Resolver) (t : Template) (ctx : Context) (opts : BindOptions)
    (now : Int) : Result Plan := do
  checkReserved ctx opts
  renderAll resolver (← filled t ctx opts) ctx opts now

end Binding

end QueryCatalog
