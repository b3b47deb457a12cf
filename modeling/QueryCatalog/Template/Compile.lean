import QueryCatalog.KeyMap
import QueryCatalog.Template.Item
import QueryCatalog.Template.Token

namespace QueryCatalog.Template

def scan (s : List Char) : Except Fault (List Item) :=
  match s with
  | [] => .ok []
  | c :: cs =>
    match _h : Item.read c cs with
    | .error f => .error f
    | .ok (item, rest) =>
      match scan rest with
      | .error f => .error (f.shift (byteLength item.source))
      | .ok items => .ok (item :: items)
  termination_by s.length
  decreasing_by exact Item.length_lt_of_read _h

theorem flatten_source_of_scan {s : List Char} {items : List Item} (h : scan s = .ok items) :
    (items.map Item.source).flatten = s := by
  fun_induction scan s generalizing items with
  | case1 => cases h; rfl
  | case2 => simp at h
  | case3 => simp at h
  | case4 c cs item rest hr items' hs ih =>
    cases h
    simp [ih hs, Item.source_append_of_read hr]

/-- Adds literal text in front of tokens, into a literal that is already there. -/
def addText (text : String) : List Token → List Token
  | .literal t :: tokens => .literal (text ++ t) :: tokens
  | tokens => .literal text :: tokens

def addItem (item : Item) (tokens : List Token) : List Token :=
  match item with
  | .escape c => .escaped c :: tokens
  | .parameter name path => .parameter ⟨String.ofList name, path.map String.ofList⟩ :: tokens
  | .slot before after? =>
    .slot ⟨String.ofList (Text.trim before), after?.map fun s ↦ String.ofList (Text.trim s),
      String.ofList item.source⟩ :: tokens
  | _ => addText (String.ofList item.source) tokens

def tokensOf (items : List Item) : List Token := items.foldr addItem []

def compile (text : String) : Except Fault Template :=
  (scan text.toList).map fun items ↦ ⟨text, tokensOf items⟩

structure Memo where
  templates : KeyMap Template := ∅
  hits : Nat := 0
  compiles : Nat := 0
  /-- Compiled templates that were given up for one that was there already. -/
  discarded : Nat := 0
  deriving Inhabited

namespace Memo

def size (m : Memo) : Nat := m.templates.size

def lookup? (m : Memo) (text : String) : Option Template := m.templates.get? text

/-- Keeps the template of a text, unless another call has put one there in the meantime: then that
one is given out and the new one is dropped. -/
def keep (m : Memo) (text : String) (t : Template) : Template × Memo :=
  match m.lookup? text with
  | some kept => (kept, { m with discarded := m.discarded + 1 })
  | none => (t, { m with templates := m.templates.insert text t })

def get (m : Memo) (text : String) : Except Fault Template × Memo :=
  match m.lookup? text with
  | some t => (.ok t, { m with hits := m.hits + 1 })
  | none =>
    match compile text with
    | .error f => (.error f, m)
    | .ok t =>
      let (kept, m) := { m with compiles := m.compiles + 1 }.keep text t
      (.ok kept, m)

/-- The counters go on. -/
def clear (m : Memo) : Memo := { m with templates := ∅ }

end Memo

end QueryCatalog.Template
