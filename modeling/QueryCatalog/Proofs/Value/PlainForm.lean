import Mathlib.Algebra.Ring.Int.Defs
import QueryCatalog.Value.Plain

namespace QueryCatalog

/-- Whole numbers of 64 bits with a sign. Floating point numbers are finite in every text. -/
def JsonNumber.Fits : JsonNumber → Prop
  | integer i => -2 ^ 63 ≤ i ∧ i < 2 ^ 63
  | real x => x.isFinite = true

namespace Json

mutual

def numbers : Json → List JsonNumber
  | number n => [n]
  | array items => itemNumbers items
  | object members => memberNumbers members
  | _ => []

def itemNumbers : List Json → List JsonNumber
  | [] => []
  | item :: items => numbers item ++ itemNumbers items

def memberNumbers : List (String × Json) → List JsonNumber
  | [] => []
  | (_, value) :: members => numbers value ++ memberNumbers members

end

end Json

namespace Value

mutual

def plainForm : Value → Value
  | float x => if x.isFinite then float x else null
  | bytes data => list (data.map fun b ↦ int (Int64.ofNat b.toNat))
  | dateTime ns =>
    if -2 ^ 63 ≤ ns ∧ ns < 2 ^ 63 then int (Int64.ofInt ns) else string (toString ns)
  | list items => list (plainItems items)
  | object properties => object (plainProperties properties)
  | v => v

def plainItems : List Value → List Value
  | [] => []
  | item :: items => plainForm item :: plainItems items

def plainProperties : List (String × Value) → List (String × Value)
  | [] => []
  | (name, value) :: properties => (name, plainForm value) :: plainProperties properties

end

theorem fitsInt_iff (i : Int) : fitsInt i = true ↔ -2 ^ 63 ≤ i ∧ i < 2 ^ 63 := by
  rw [fitsInt, Bool.and_eq_true, decide_eq_true_eq, decide_eq_true_eq]
  rfl

theorem toInt_bounds (i : Int64) : -2 ^ 63 ≤ i.toInt ∧ i.toInt < 2 ^ 63 :=
  ⟨i.le_toInt, i.toInt_lt⟩

theorem ofNumber_integer {i : Int} (h : -2 ^ 63 ≤ i ∧ i < 2 ^ 63) :
    ofNumber (.integer i) = int (Int64.ofInt i) :=
  if_pos ((fitsInt_iff i).mpr h)

section Documents

theorem toJson_float_ne_integer (x : Binary64) (i : Int) :
    (float x).toJson ≠ .number (.integer i) := by
  rw [toJson]
  split <;> nofun

theorem toJson_ofNumber_iff (n : JsonNumber) : (ofNumber n).toJson = .number n ↔ n.Fits := by
  cases n with
  | integer i =>
    by_cases h : -2 ^ 63 ≤ i ∧ i < 2 ^ 63
    · rw [ofNumber_integer h, toJson, Int64.toInt_ofInt_of_le h.1 h.2]
      exact iff_of_true rfl h
    · rw [ofNumber, if_neg (mt (fitsInt_iff i).mp h)]
      exact iff_of_false (toJson_float_ne_integer _ i) h
  | real x =>
    show (float x).toJson = _ ↔ x.isFinite = true
    rw [toJson]
    split
    · exact iff_of_true rfl ‹_›
    · exact iff_of_false nofun ‹_›

mutual

theorem toJson_ofJson_iff : ∀ j : Json, (ofJson j).toJson = j ↔ ∀ n ∈ j.numbers, n.Fits
  | .null | .bool _ | .string _ => iff_of_true rfl nofun
  | .number n => (toJson_ofNumber_iff n).trans List.forall_mem_singleton.symm
  | .array items => (Json.array.injEq ..).to_iff.trans (listToJson_listOfJson_iff items)
  | .object members =>
    (Json.object.injEq ..).to_iff.trans (propertiesToJson_propertiesOfJson_iff members)

theorem listToJson_listOfJson_iff : ∀ items : List Json,
    listToJson (listOfJson items) = items ↔ ∀ n ∈ Json.itemNumbers items, n.Fits
  | [] => iff_of_true rfl nofun
  | item :: items => by
    rw [listOfJson, listToJson, Json.itemNumbers, List.forall_mem_append, List.cons.injEq,
      toJson_ofJson_iff item, listToJson_listOfJson_iff items]

theorem propertiesToJson_propertiesOfJson_iff : ∀ members : List (String × Json),
    propertiesToJson (propertiesOfJson members) = members ↔
      ∀ n ∈ Json.memberNumbers members, n.Fits
  | [] => iff_of_true rfl nofun
  | (name, value) :: members => by
    rw [propertiesOfJson, propertiesToJson, Json.memberNumbers, List.forall_mem_append,
      List.cons.injEq, Prod.mk.injEq, eq_self, true_and, toJson_ofJson_iff value,
      propertiesToJson_propertiesOfJson_iff members]

end

end Documents

section Values

theorem listOfJson_bytes (data : List UInt8) :
    listOfJson (data.map fun b ↦ .number (.integer b.toNat)) =
      data.map fun b ↦ int (Int64.ofNat b.toNat) := by
  induction data with
  | nil => rfl
  | cons b data ih =>
    have hlt := b.toNat_lt
    have hbyte : ofNumber (.integer b.toNat) = int (Int64.ofNat b.toNat) :=
      ofNumber_integer (by omega)
    exact congrArg₂ List.cons hbyte ih

theorem ofJson_instantToJson (ns : Int) :
    ofJson (instantToJson ns) = (dateTime ns).plainForm := by
  rw [instantToJson, plainForm]
  by_cases h : -2 ^ 63 ≤ ns ∧ ns < 2 ^ 63
  · rw [if_pos ((fitsInt_iff ns).mpr h), if_pos h]
    exact ofNumber_integer h
  · rw [if_neg (mt (fitsInt_iff ns).mp h), if_neg h]
    rfl

mutual

theorem ofJson_toJson : ∀ v : Value, ofJson v.toJson = v.plainForm
  | null | bool _ | string _ => rfl
  | int i => (ofNumber_integer (toInt_bounds i)).trans (congrArg int (Int64.ofInt_toInt i))
  | float x => by
    rw [toJson, plainForm]
    split <;> rfl
  | bytes data => congrArg list (listOfJson_bytes data)
  | dateTime ns => ofJson_instantToJson ns
  | list items => congrArg list (listOfJson_listToJson items)
  | object properties => congrArg object (propertiesOfJson_propertiesToJson properties)

theorem listOfJson_listToJson : ∀ items : List Value,
    listOfJson (listToJson items) = plainItems items
  | [] => rfl
  | item :: items => congrArg₂ List.cons (ofJson_toJson item) (listOfJson_listToJson items)

theorem propertiesOfJson_propertiesToJson : ∀ properties : List (String × Value),
    propertiesOfJson (propertiesToJson properties) = plainProperties properties
  | [] => rfl
  | (name, value) :: properties =>
    congrArg₂ (fun v l ↦ (name, v) :: l) (ofJson_toJson value)
      (propertiesOfJson_propertiesToJson properties)

end

theorem fits_byteNumbers (data : List UInt8) :
    ∀ n ∈ Json.itemNumbers (data.map fun b ↦ .number (.integer b.toNat)), n.Fits := by
  induction data with
  | nil => nofun
  | cons b data ih =>
    have hlt := b.toNat_lt
    have hbyte : (JsonNumber.integer b.toNat).Fits := ⟨by omega, by omega⟩
    exact List.forall_mem_cons.mpr ⟨hbyte, ih⟩

mutual

theorem fits_toJson : ∀ v : Value, ∀ n ∈ v.toJson.numbers, n.Fits
  | null | bool _ | string _ => nofun
  | int i => List.forall_mem_singleton.mpr (toInt_bounds i)
  | float x => by
    rw [toJson]
    split
    · exact List.forall_mem_singleton.mpr ‹_›
    · nofun
  | bytes data => fits_byteNumbers data
  | dateTime ns => by
    rw [toJson, instantToJson]
    split
    · exact List.forall_mem_singleton.mpr ((fitsInt_iff ns).mp ‹_›)
    · nofun
  | list items => fits_listToJson items
  | object properties => fits_propertiesToJson properties

theorem fits_listToJson : ∀ items : List Value,
    ∀ n ∈ Json.itemNumbers (listToJson items), n.Fits
  | [] => nofun
  | item :: items => List.forall_mem_append.mpr ⟨fits_toJson item, fits_listToJson items⟩

theorem fits_propertiesToJson : ∀ properties : List (String × Value),
    ∀ n ∈ Json.memberNumbers (propertiesToJson properties), n.Fits
  | [] => nofun
  | (_, value) :: properties =>
    List.forall_mem_append.mpr ⟨fits_toJson value, fits_propertiesToJson properties⟩

end

theorem toJson_plainForm (v : Value) : v.plainForm.toJson = v.toJson := by
  rw [← ofJson_toJson]
  exact (toJson_ofJson_iff v.toJson).mpr (fits_toJson v)

theorem plainForm_plainForm (v : Value) : v.plainForm.plainForm = v.plainForm := by
  rw [← ofJson_toJson v.plainForm, toJson_plainForm, ofJson_toJson]

end Values

/-- Reading a document and writing it are inverse on the documents whose numbers fit, which are the
documents of values, and on the values in plain form, which are the values of these documents. -/
theorem documents_are_plain_values :
    (∀ j : Json, (ofJson j).toJson = j ↔ ∀ n ∈ j.numbers, n.Fits) ∧
    (∀ v : Value, ofJson v.toJson = v.plainForm) ∧
    (∀ v : Value, v.plainForm.plainForm = v.plainForm) ∧
    ∀ v : Value, ∀ n ∈ v.toJson.numbers, n.Fits :=
  ⟨toJson_ofJson_iff, ofJson_toJson, plainForm_plainForm, fits_toJson⟩

example : (list [bytes [255], dateTime (2 ^ 63), dateTime (-2 ^ 63), float .nan]).plainForm =
    list [list [int 255], string "9223372036854775808", int (-9223372036854775808), null] := by
  rfl

end Value

end QueryCatalog
