import QueryCatalog.Binding.Context
import QueryCatalog.Proofs.Json.Reading

namespace QueryCatalog

namespace Binary64

def oneNaN (x : Binary64) : Binary64 := if x.isNaN then nan else x

def oneNonFinite (x : Binary64) : Binary64 := if x.isFinite then x else nan

variable {x : Binary64}

theorem isFinite_eq (x : Binary64) : x.isFinite = (!x.isNaN && !x.isInfinite) := by
  unfold isFinite isNaN isInfinite bne
  cases x.exponentField == 2047 <;> cases x.fraction == 0 <;> rfl

theorem oneNonFinite_oneNonFinite (x : Binary64) :
    x.oneNonFinite.oneNonFinite = x.oneNonFinite := by
  by_cases h : x.isFinite = true
  · have hx : x.oneNonFinite = x := if_pos h
    rw [hx, hx]
  · have hx : x.oneNonFinite = nan := if_neg h
    rw [hx]
    rfl

theorem oneNonFinite_oneNaN (x : Binary64) : x.oneNaN.oneNonFinite = x.oneNonFinite := by
  unfold oneNaN
  split
  · rename_i hnan
    have hfinite : x.isFinite = false := by
      rw [isFinite_eq, hnan]
      rfl
    rw [oneNonFinite, oneNonFinite, hfinite]
    rfl
  · rfl

theorem oneNonFinite_of_not_infinite (h : x.isInfinite = false) : x.oneNonFinite = x.oneNaN := by
  unfold oneNonFinite oneNaN
  rw [isFinite_eq, h]
  cases x.isNaN <;> rfl

end Binary64

namespace Value

mutual

def mapFloats (f : Binary64 → Binary64) : Value → Value
  | null => null
  | bool b => bool b
  | int i => int i
  | float x => float (f x)
  | string s => string s
  | bytes data => bytes data
  | dateTime ns => dateTime ns
  | list items => list (mapListFloats f items)
  | object properties => object (mapPropertyFloats f properties)

def mapListFloats (f : Binary64 → Binary64) : List Value → List Value
  | [] => []
  | item :: items => mapFloats f item :: mapListFloats f items

def mapPropertyFloats (f : Binary64 → Binary64) : List (String × Value) → List (String × Value)
  | [] => []
  | (name, value) :: properties => (name, mapFloats f value) :: mapPropertyFloats f properties

end

section Legible

open Json

theorem legibleItems_bytes (data : List UInt8) :
    legibleItems (data.map fun b ↦ .number (.integer b.toNat)) =
      data.map fun b ↦ .number (.integer b.toNat) := by
  induction data with
  | nil => rfl
  | cons b data ih => exact congrArg (_ :: ·) ih

theorem legible_oneNonFinite (x : Binary64) :
    (number (.real x.oneNonFinite)).legible = (number (.real x)).legible := by
  unfold Binary64.oneNonFinite legible
  split <;> rfl

theorem legible_real_congr {x y : Binary64} (h : x.oneNonFinite = y.oneNonFinite) :
    (number (.real x)).legible = (number (.real y)).legible := by
  rw [← legible_oneNonFinite x, h, legible_oneNonFinite]

variable {f : Binary64 → Binary64}

mutual

theorem legible_mapFloats (hf : ∀ x, (f x).oneNonFinite = x.oneNonFinite) :
    ∀ v : Value, (v.mapFloats f).tagged.legible = v.tagged.legible
  | null | bool _ | int _ | string _ | bytes _ | dateTime _ => rfl
  | float x => congrArg (tag "Float") (legible_real_congr (hf x))
  | list items => congrArg (fun l ↦ tag "List" (.array l)) (legible_mapListFloats hf items)
  | object properties =>
    congrArg (fun l ↦ tag "Object" (.object l)) (legible_mapPropertyFloats hf properties)

theorem legible_mapListFloats (hf : ∀ x, (f x).oneNonFinite = x.oneNonFinite) :
    ∀ items : List Value,
    legibleItems (listTagged (mapListFloats f items)) = legibleItems (listTagged items)
  | [] => rfl
  | item :: items =>
    congrArg₂ List.cons (legible_mapFloats hf item) (legible_mapListFloats hf items)

theorem legible_mapPropertyFloats (hf : ∀ x, (f x).oneNonFinite = x.oneNonFinite) :
    ∀ properties : List (String × Value),
    legibleMembers (propertiesTagged (mapPropertyFloats f properties)) =
      legibleMembers (propertiesTagged properties)
  | [] => rfl
  | (name, value) :: properties =>
    congrArg₂ (fun v l ↦ (name, v) :: l) (legible_mapFloats hf value)
      (legible_mapPropertyFloats hf properties)

end

end Legible

section Untag

def byteOf : Json → UInt8
  | .number (.integer i) => i.toNat.toUInt8
  | _ => 0

mutual

/-- The value of a tagged document. What is not finite stands there as null. -/
def untag : Json → Value
  | .object [(_, .string name), (_, content)] => untagContent name content
  | _ => null

def untagContent (name : String) : Json → Value
  | .null => float .nan
  | .bool b => bool b
  | .number (.integer i) => if name = "Int" then int (Int64.ofInt i) else dateTime i
  | .number (.real x) => float x
  | .string s => string s
  | .array items => if name = "Bytes" then bytes (items.map byteOf) else list (untagItems items)
  | .object members => object (untagMembers members)

def untagItems : List Json → List Value
  | [] => []
  | item :: items => untag item :: untagItems items

def untagMembers : List (String × Json) → List (String × Value)
  | [] => []
  | (name, value) :: members => (name, untag value) :: untagMembers members

end

theorem map_byteOf (data : List UInt8) :
    (data.map fun b ↦ Json.number (.integer b.toNat)).map byteOf = data := by
  have hbyte (b : UInt8) : byteOf (.number (.integer b.toNat)) = b := UInt8.ofNat_toNat
  induction data with
  | nil => rfl
  | cons b data ih => exact congrArg₂ List.cons (hbyte b) ih

mutual

theorem untag_tagged : ∀ v : Value, untag v.tagged.legible = v.mapFloats .oneNonFinite
  | null | bool _ | string _ => rfl
  | int i => congrArg int (Int64.ofInt_toInt i)
  | bytes data => by
    show bytes ((Json.legibleItems _).map byteOf) = _
    rw [legibleItems_bytes, map_byteOf]
    rfl
  | dateTime _ => rfl
  | float x => by
    show untagContent "Float" (Json.number (.real x)).legible = float x.oneNonFinite
    unfold Json.legible Binary64.oneNonFinite
    split <;> rfl
  | list items => congrArg list (untagItems_tagged items)
  | object properties => congrArg object (untagMembers_tagged properties)

theorem untagItems_tagged : ∀ items : List Value,
    untagItems (Json.legibleItems (listTagged items)) = mapListFloats .oneNonFinite items
  | [] => rfl
  | item :: items => congrArg₂ List.cons (untag_tagged item) (untagItems_tagged items)

theorem untagMembers_tagged : ∀ properties : List (String × Value),
    untagMembers (Json.legibleMembers (propertiesTagged properties)) =
      mapPropertyFloats .oneNonFinite properties
  | [] => rfl
  | (name, value) :: properties =>
    congrArg₂ (fun v l ↦ (name, v) :: l) (untag_tagged value) (untagMembers_tagged properties)

end

end Untag

theorem mapPropertyFloats_eq_map (f : Binary64 → Binary64) (properties : List (String × Value)) :
    mapPropertyFloats f properties = properties.map fun e ↦ (e.1, e.2.mapFloats f) := by
  induction properties with
  | nil => rfl
  | cons e properties ih => exact congrArg (_ :: ·) ih

theorem tagged_legible_iff (v w : Value) : v.tagged.legible = w.tagged.legible ↔
    v.mapFloats .oneNonFinite = w.mapFloats .oneNonFinite := by
  constructor
  · intro h
    rw [← untag_tagged, h, untag_tagged]
  · intro h
    rw [← legible_mapFloats Binary64.oneNonFinite_oneNonFinite v, h,
      legible_mapFloats Binary64.oneNonFinite_oneNonFinite]

theorem propertiesTagged_legible_iff (l l' : List (String × Value)) :
    Json.legibleMembers (propertiesTagged l) = Json.legibleMembers (propertiesTagged l') ↔
      mapPropertyFloats .oneNonFinite l = mapPropertyFloats .oneNonFinite l' := by
  constructor
  · intro h
    rw [← untagMembers_tagged, h, untagMembers_tagged]
  · intro h
    rw [← legible_mapPropertyFloats Binary64.oneNonFinite_oneNonFinite l, h,
      legible_mapPropertyFloats Binary64.oneNonFinite_oneNonFinite]

theorem taggedText_eq_iff (v w : Value) : v.taggedText = w.taggedText ↔
    v.mapFloats .oneNonFinite = w.mapFloats .oneNonFinite := by
  rw [taggedText, taggedText, Json.compact_eq_iff, tagged_legible_iff]

section Floats

mutual

def floats : Value → List Binary64
  | float x => [x]
  | list items => listFloats items
  | object properties => propertyFloats properties
  | _ => []

def listFloats : List Value → List Binary64
  | [] => []
  | item :: items => floats item ++ listFloats items

def propertyFloats : List (String × Value) → List Binary64
  | [] => []
  | (_, value) :: properties => floats value ++ propertyFloats properties

end

variable {f g : Binary64 → Binary64}

mutual

theorem mapFloats_congr : ∀ {v : Value}, (∀ x ∈ v.floats, f x = g x) → v.mapFloats f = v.mapFloats g
  | null, _ | bool _, _ | int _, _ | string _, _ | bytes _, _ | dateTime _, _ => rfl
  | float x, h => congrArg float (h x (List.mem_singleton_self x))
  | list _, h => congrArg list (mapListFloats_congr h)
  | object _, h => congrArg object (mapPropertyFloats_congr h)

theorem mapListFloats_congr : ∀ {items : List Value}, (∀ x ∈ listFloats items, f x = g x) →
    mapListFloats f items = mapListFloats g items
  | [], _ => rfl
  | _ :: _, h =>
    congrArg₂ List.cons (mapFloats_congr fun x hx ↦ h x (List.mem_append_left _ hx))
      (mapListFloats_congr fun x hx ↦ h x (List.mem_append_right _ hx))

theorem mapPropertyFloats_congr : ∀ {properties : List (String × Value)},
    (∀ x ∈ propertyFloats properties, f x = g x) →
    mapPropertyFloats f properties = mapPropertyFloats g properties
  | [], _ => rfl
  | (name, _) :: _, h =>
    congrArg₂ (fun v l ↦ (name, v) :: l)
      (mapFloats_congr fun x hx ↦ h x (List.mem_append_left _ hx))
      (mapPropertyFloats_congr fun x hx ↦ h x (List.mem_append_right _ hx))

end

mutual

theorem mapFloats_id : ∀ v : Value, v.mapFloats id = v
  | null | bool _ | int _ | float _ | string _ | bytes _ | dateTime _ => rfl
  | list items => congrArg list (mapListFloats_id items)
  | object properties => congrArg object (mapPropertyFloats_id properties)

theorem mapListFloats_id : ∀ items : List Value, mapListFloats id items = items
  | [] => rfl
  | item :: items => congrArg₂ List.cons (mapFloats_id item) (mapListFloats_id items)

theorem mapPropertyFloats_id :
    ∀ properties : List (String × Value), mapPropertyFloats id properties = properties
  | [] => rfl
  | (name, value) :: properties =>
    congrArg₂ (fun v l ↦ (name, v) :: l) (mapFloats_id value) (mapPropertyFloats_id properties)

end

end Floats

end Value

namespace Context

def mapFloats (f : Binary64 → Binary64) (ctx : Context) : Context :=
  { ctx with params := ctx.params.map fun _ v ↦ v.mapFloats f }

def floats (ctx : Context) : List Binary64 := Value.propertyFloats ctx.params.entries

variable {f g : Binary64 → Binary64} {ctx ctx' : Context}

theorem entries_mapFloats (f : Binary64 → Binary64) (ctx : Context) :
    (ctx.mapFloats f).params.entries = Value.mapPropertyFloats f ctx.params.entries :=
  (Value.mapPropertyFloats_eq_map f ctx.params.entries).symm

theorem mapFloats_eq_iff : ctx.mapFloats f = ctx'.mapFloats g ↔
    Value.mapPropertyFloats f ctx.params.entries = Value.mapPropertyFloats g ctx'.params.entries ∧
      ctx.fragments = ctx'.fragments := by
  rw [← entries_mapFloats, ← entries_mapFloats]
  constructor
  · intro h
    exact ⟨congrArg (·.params.entries) h, congrArg (·.fragments) h⟩
  · rintro ⟨hparams, hfragments⟩
    have hparams' : (ctx.mapFloats f).params = (ctx'.mapFloats g).params := KeyMap.ext hparams
    exact congrArg₂ Context.mk hparams' hfragments

theorem mapFloats_congr (h : ∀ x ∈ ctx.floats, f x = g x) : ctx.mapFloats f = ctx.mapFloats g :=
  mapFloats_eq_iff.mpr ⟨Value.mapPropertyFloats_congr h, rfl⟩

theorem legibleMembers_fragments (fragments : List (String × String)) :
    Json.legibleMembers (fragments.map fun e ↦ (e.1, .string e.2)) =
      fragments.map fun e ↦ (e.1, .string e.2) := by
  induction fragments with
  | nil => rfl
  | cons e fragments ih => exact congrArg (_ :: ·) ih

theorem fragmentMembers_injective :
    Function.Injective fun e : String × String ↦ (e.1, Json.string e.2) := by
  intro e e' h
  obtain ⟨hname, hfragment⟩ := Prod.mk.inj h
  exact Prod.ext hname (Json.string.inj hfragment)

theorem taggedText_eq_iff (ctx ctx' : Context) : ctx.taggedText = ctx'.taggedText ↔
    ctx.mapFloats .oneNonFinite = ctx'.mapFloats .oneNonFinite := by
  have hlegible (c : Context) : c.tagged.legible = .object
      [("params", .object (Json.legibleMembers (Value.propertiesTagged c.params.entries))),
        ("defines", .object (c.fragments.entries.map fun e ↦ (e.1, .string e.2)))] := by
    rw [← legibleMembers_fragments]
    rfl
  rw [taggedText, taggedText, Json.compact_eq_iff, hlegible, hlegible, mapFloats_eq_iff]
  simp only [Json.object.injEq, List.cons.injEq, Prod.mk.injEq, true_and, and_true]
  rw [Value.propertiesTagged_legible_iff,
    (List.map_injective_iff.mpr fragmentMembers_injective).eq_iff,
    ← KeyMap.ext_iff]

/-- Equality of contexts with numbers compared by their bits, except that all that is not a number
is one. -/
def SameData (ctx ctx' : Context) : Prop := ctx.mapFloats .oneNaN = ctx'.mapFloats .oneNaN

theorem SameData.oneNonFinite (h : SameData ctx ctx') :
    ctx.mapFloats .oneNonFinite = ctx'.mapFloats .oneNonFinite := by
  rw [mapFloats_eq_iff, ← Value.propertiesTagged_legible_iff]
  obtain ⟨hparams, hfragments⟩ := mapFloats_eq_iff.mp h
  have hkeep := Value.legible_mapPropertyFloats Binary64.oneNonFinite_oneNaN
  refine ⟨?_, hfragments⟩
  rw [← hkeep ctx.params.entries, hparams, hkeep]

theorem sameData_iff (h : ∀ x ∈ ctx.floats ++ ctx'.floats, x.isInfinite = false) :
    SameData ctx ctx' ↔ ctx.mapFloats .oneNonFinite = ctx'.mapFloats .oneNonFinite := by
  have hctx : ctx.mapFloats .oneNonFinite = ctx.mapFloats .oneNaN :=
    mapFloats_congr fun x hx ↦ Binary64.oneNonFinite_of_not_infinite
      (h x (List.mem_append_left _ hx))
  have hctx' : ctx'.mapFloats .oneNonFinite = ctx'.mapFloats .oneNaN :=
    mapFloats_congr fun x hx ↦ Binary64.oneNonFinite_of_not_infinite
      (h x (List.mem_append_right _ hx))
  rw [hctx, hctx', SameData]

end Context

end QueryCatalog
