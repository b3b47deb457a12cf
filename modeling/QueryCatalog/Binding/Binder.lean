import QueryCatalog.Binding.Plan
import QueryCatalog.Recency

namespace QueryCatalog

def filledCapacity : Nat := 256

structure Binder where
  resolver : Resolver
  templates : Template.Memo := {}
  filled : RecencyMap String Template filledCapacity := .empty

namespace Binder

/-- The template of a filled text, which is compiled only if it is not kept. -/
def compileFilled (b : Binder) (text : String) : Result Template × Binder :=
  match b.filled.peek? text with
  | some t => (.ok t, { b with filled := b.filled.touch text })
  | none =>
    match Binding.compile text with
    | .ok t => (.ok t, { b with filled := b.filled.insert text t })
    | .error e => (.error e, b)

def fill (b : Binder) (t : Template) (ctx : Context) (opts : BindOptions) :
    Result Template × Binder :=
  if t.hasSlots then
    match Binding.substitute t ctx opts with
    | .ok text => b.compileFilled text
    | .error e => (.error e, b)
  else (.ok t, b)

def bind (b : Binder) (t : Template) (ctx : Context) (opts : BindOptions) (now : Int) :
    Result Plan × Binder :=
  match Binding.checkReserved ctx opts with
  | .error e => (.error e, b)
  | .ok () =>
    match b.fill t ctx opts with
    | (.error e, b) => (.error e, b)
    | (.ok t, b) => (Binding.renderAll b.resolver t ctx opts now, b)

def template (b : Binder) (text : String) : Result Template × Binder :=
  let (result, templates) := b.templates.get text
  (result.mapError .template, { b with templates := templates })

end Binder

end QueryCatalog
