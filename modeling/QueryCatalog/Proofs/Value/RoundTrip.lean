import QueryCatalog.Proofs.KeyMap
import QueryCatalog.Proofs.Value.Tagging

namespace QueryCatalog

def fitsWord (i : Int) : Bool := -Int.pow 2 63 ≤ i && i < Int.pow 2 64

namespace Json

mutual

def nesting : Json → Nat
  | array items => itemsNesting items + 1
  | object members => membersNesting members + 1
  | _ => 0

def itemsNesting : List Json → Nat
  | [] => 0
  | item :: items => max (nesting item) (itemsNesting items)

def membersNesting : List (String × Json) → Nat
  | [] => 0
  | (_, value) :: members => max (nesting value) (membersNesting members)

end

end Json

namespace Value

mutual

def isOrdered : Value → Bool
  | list items => listOrdered items
  | object properties =>
    decide ((properties.map Prod.fst).Pairwise (· < ·)) && propertiesOrdered properties
  | _ => true

def listOrdered : List Value → Bool
  | [] => true
  | item :: items => isOrdered item && listOrdered items

def propertiesOrdered : List (String × Value) → Bool
  | [] => true
  | (_, value) :: properties => isOrdered value && propertiesOrdered properties

end

mutual

def instants : Value → List Int
  | dateTime ns => [ns]
  | list items => listInstants items
  | object properties => propertyInstants properties
  | _ => []

def listInstants : List Value → List Int
  | [] => []
  | item :: items => instants item ++ listInstants items

def propertyInstants : List (String × Value) → List Int
  | [] => []
  | (_, value) :: properties => instants value ++ propertyInstants properties

end

end Value

/-- Whole numbers beyond 64 bits are read as floating point numbers. -/
theorem Numeral.toNumber?_ofInt (i : Int) : (ofInt i).toNumber? =
    if fitsWord i then some (.integer i) else (ofInt i).real?.map .real := by
  have hsize : natOf (ofInt i).whole = i.natAbs := natOf_toDigits _
  have hwhole : (ofInt i).isWhole = true := rfl
  have hsign : (ofInt i).negative = decide (i < 0) := rfl
  have hfits : fitsWord i = decide (-9223372036854775808 ≤ i ∧ i < 18446744073709551616) :=
    (Bool.decide_and ..).symm
  -- The bounds as numerals, for `omega`.
  have h63 : Nat.pow 2 63 = 9223372036854775808 := rfl
  have h64 : Nat.pow 2 64 = 18446744073709551616 := rfl
  simp only [toNumber?, hsize, hwhole, hsign, hfits, h63, h64, Bool.true_and, Bool.and_eq_true,
    Bool.not_eq_true', decide_eq_true_eq, decide_eq_false_iff_not]
  split_ifs with hunsigned hrange hrange hsigned
  · rw [Int.natAbs_of_nonneg (by omega)]
  · omega
  · rw [Int.ofNat_natAbs_of_nonpos (by omega), Int.neg_neg]
  · omega
  · omega
  · rfl

namespace Value

theorem readInteger?_ofInt (i : Int) :
    readInteger? (.number (.ofInt i)) = if fitsWord i then some i else none := by
  rw [readInteger?, Numeral.toNumber?_ofInt]
  by_cases h : fitsWord i = true
  · rw [if_pos h, if_pos h]
  · rw [if_neg h, if_neg h]
    cases (Numeral.ofInt i).real? <;> rfl

theorem readByte?_toNat (b : UInt8) : readByte? (.number (.ofInt b.toNat)) = some b := by
  have hlt := b.toNat_lt
  have hfits : fitsWord b.toNat = true := by
    have hrange : (-9223372036854775808 : Int) ≤ b.toNat ∧
        (b.toNat : Int) < 18446744073709551616 := by
      omega
    simpa [fitsWord] using hrange
  rw [readByte?, readInteger?_ofInt, if_pos hfits, Option.bind_eq_bind, Option.bind_some,
    if_pos (by omega), Int.toNat_natCast]
  exact congrArg some UInt8.ofNat_toNat

theorem readMembers?_memberSources (members : List (String × Json)) :
    readMembers? (Json.memberSources members) =
      some (members.map fun m ↦ (m.1, m.2.source)) := by
  induction members with
  | nil => rfl
  | cons m members ih =>
    rw [readMembers?] at ih
    rw [readMembers?, Json.memberSources, List.mapM_cons, ih, StringPiece.text?_ofString]
    rfl

theorem readKind?_name (depth : Nat) (kind : Kind) :
    readKind? depth false (.string (StringPiece.ofString kind.name)) = some kind := by
  rw [readKind?, StringPiece.text?_ofString]
  exact Kind.ofName?_name kind

theorem readTag?_tag (depth : Nat) (kind : Kind) (content : Json) :
    readTag? depth false (tag kind.name content).source =
      some ⟨kind, some content.source, false⟩ := by
  rw [tag, Json.source, readTag?, readMembers?_memberSources]
  show (readKind? depth false (.string (StringPiece.ofString kind.name))).bind _ = _
  rw [readKind?_name]
  rfl

theorem nesting_tag (name : String) (content : Json) :
    (tag name content).nesting = content.nesting + 1 := by
  simp [tag, Json.nesting, Json.membersNesting]

theorem ofTagged?_tag (depth : Nat) (kind : Kind) (content : Json) :
    ofTagged? (depth + 2) false (tag kind.name content).source =
      readNested? (ofTagged? depth false) ⟨kind, some content.source, false⟩ := by
  rw [ofTagged?, readTag?_tag]
  rfl

theorem exists_add_two {name : String} {content : Json} {depth : Nat}
    (h : (tag name content).nesting ≤ depth) (hcontent : 0 < content.nesting) :
    ∃ rest, depth = rest + 2 ∧ content.nesting ≤ rest + 1 := by
  rw [nesting_tag] at h
  exact ⟨depth - 2, by omega, by omega⟩

theorem ofTagged?_flat {depth : Nat} (kind : Kind) {content : Json}
    (hdepth : (tag kind.name content).nesting ≤ depth) (hflat : content.nesting = 0) :
    ofTagged? depth false (tag kind.name content).source = readLeaf? kind content.source := by
  have hnested : readNested? (ofTagged? (depth - 2) false) ⟨kind, some content.source, false⟩ =
      readLeaf? kind content.source := by
    cases content with
    | array items => cases hflat
    | object members => cases hflat
    | number n =>
      cases n with
      | integer i => rfl
      | real x =>
        unfold Json.source
        split <;> rfl
    | _ => rfl
  match depth, hdepth with
  | 1, _ =>
    rw [ofTagged?, readTag?_tag]
    rfl
  | depth + 2, _ =>
    rw [ofTagged?_tag]
    exact hnested

theorem readLeaf?_dateTime (ns : Int) :
    readLeaf? .dateTime (.number (.ofInt ns)) =
      if fitsWord ns then some (dateTime ns) else none := by
  show (readInteger? (.number (.ofInt ns))).map dateTime = _
  rw [readInteger?_ofInt]
  split <;> rfl

theorem readLeaf?_int (i : Int64) : readLeaf? .int (.number (.ofInt i.toInt)) = some (int i) := by
  have hlow := i.le_toInt
  have hhigh := i.toInt_lt
  have hrange : fitsWord i.toInt = true ∧ fitsInt i.toInt = true := by
    simp only [fitsWord, fitsInt, Bool.and_eq_true, decide_eq_true_eq]
    exact ⟨⟨hlow, hhigh.trans (by decide)⟩, hlow, hhigh⟩
  show (readInteger? (.number (.ofInt i.toInt))).bind _ = _
  rw [readInteger?_ofInt, if_pos hrange.1, Option.bind_some, if_pos hrange.2, Int64.ofInt_toInt]
  rfl

theorem mapM_readByte? (data : List UInt8) :
    (Json.itemSources (data.map fun b ↦ .number (.integer b.toNat))).mapM readByte? =
      some data := by
  induction data with
  | nil => rfl
  | cons b data ih =>
    rw [List.map_cons, Json.itemSources, List.mapM_cons, ih]
    show (readByte? (.number (.ofInt b.toNat))).bind _ = _
    rw [readByte?_toNat]
    rfl

theorem if_all_append {α : Type} (l l' : List Int) (a : α) :
    (if (l ++ l').all fitsWord then some a else none) =
      if l.all fitsWord then if l'.all fitsWord then some a else none else none := by
  rw [List.all_append]
  cases l.all fitsWord <;> rfl

mutual

theorem ofTagged?_source : ∀ (v : Value) {depth : Nat}, v.isOrdered = true → v.floats = [] →
    v.tagged.nesting ≤ depth →
    ofTagged? depth false v.tagged.source = if v.instants.all fitsWord then some v else none
  | null, 0, _, _, hdepth => nomatch hdepth
  | null, 1, _, _, _ => rfl
  | null, _ + 2, _, _, _ => rfl
  | bool b, depth, _, _, hdepth => ofTagged?_flat .bool hdepth rfl
  | int i, depth, _, _, hdepth => (ofTagged?_flat .int hdepth rfl).trans (readLeaf?_int i)
  | float x, _, _, hfloats, _ => nomatch hfloats
  | string s, depth, _, _, hdepth => by
    refine (ofTagged?_flat .string hdepth rfl).trans ?_
    show (StringPiece.text? (StringPiece.ofString s)).map string = _
    rw [StringPiece.text?_ofString]
    rfl
  | bytes data, depth, _, _, hdepth => by
    obtain ⟨rest, rfl, -⟩ := exists_add_two hdepth (Nat.succ_pos _)
    refine (ofTagged?_tag rest .bytes _).trans ?_
    show ((Json.itemSources _).mapM readByte?).map bytes = _
    rw [mapM_readByte?]
    rfl
  | dateTime ns, depth, _, _, hdepth => by
    refine (ofTagged?_flat .dateTime hdepth rfl).trans ((readLeaf?_dateTime ns).trans ?_)
    show _ = if (fitsWord ns && true) = true then _ else _
    rw [Bool.and_true]
  | list items, depth, hordered, hfloats, hdepth => by
    obtain ⟨rest, rfl, hrest⟩ := exists_add_two hdepth (Nat.succ_pos _)
    refine (ofTagged?_tag rest .list _).trans ?_
    show Option.map list ((Json.itemSources (listTagged items)).mapM (ofTagged? rest false)) = _
    rw [mapM_itemSources items hordered hfloats (Nat.le_of_succ_le_succ hrest), instants]
    split <;> rfl
  | object properties, depth, hordered, hfloats, hdepth => by
    obtain ⟨rest, rfl, hrest⟩ := exists_add_two hdepth (Nat.succ_pos _)
    obtain ⟨hsorted, hinner⟩ := Bool.and_eq_true_iff.mp hordered
    refine (ofTagged?_tag rest .object _).trans ?_
    show Option.bind (readMembers? (Json.memberSources (propertiesTagged properties))) _ = _
    rw [readMembers?_memberSources, Option.bind_some,
      mapM_memberSources properties hinner hfloats (Nat.le_of_succ_le_succ hrest), instants]
    split
    · -- The reader sorts the properties; they are in order already.
      show some (object (KeyMap.ofList properties).entries) = _
      rw [KeyMap.entries_ofList (of_decide_eq_true hsorted)]
    · rfl

theorem mapM_itemSources : ∀ (items : List Value) {depth : Nat}, listOrdered items = true →
    listFloats items = [] → Json.itemsNesting (listTagged items) ≤ depth →
    (Json.itemSources (listTagged items)).mapM (ofTagged? depth false) =
      if (listInstants items).all fitsWord then some items else none
  | [], _, _, _, _ => rfl
  | item :: items, depth, hordered, hfloats, hdepth => by
    obtain ⟨hitem, hitems⟩ := Bool.and_eq_true_iff.mp hordered
    obtain ⟨hfloat, hfloats⟩ := List.append_eq_nil_iff.mp hfloats
    obtain ⟨hfirst, hrest⟩ := Nat.max_le.mp hdepth
    rw [listTagged, Json.itemSources, List.mapM_cons, mapM_itemSources items hitems hfloats hrest,
      ofTagged?_source item hitem hfloat hfirst, listInstants, if_all_append]
    split_ifs <;> rfl

theorem mapM_memberSources : ∀ (properties : List (String × Value)) {depth : Nat},
    propertiesOrdered properties = true → propertyFloats properties = [] →
    Json.membersNesting (propertiesTagged properties) ≤ depth →
    ((propertiesTagged properties).map fun m ↦ (m.1, m.2.source)).mapM
        (fun m ↦ (ofTagged? depth false m.2).map (m.1, ·)) =
      if (propertyInstants properties).all fitsWord then some properties else none
  | [], _, _, _, _ => rfl
  | (name, value) :: properties, depth, hordered, hfloats, hdepth => by
    obtain ⟨hvalue, hproperties⟩ := Bool.and_eq_true_iff.mp hordered
    obtain ⟨hfloat, hfloats⟩ := List.append_eq_nil_iff.mp hfloats
    obtain ⟨hfirst, hrest⟩ := Nat.max_le.mp hdepth
    rw [propertiesTagged, List.map_cons, List.mapM_cons,
      mapM_memberSources properties hproperties hfloats hrest,
      ofTagged?_source value hvalue hfloat hfirst, propertyInstants, if_all_append]
    split_ifs <;> rfl

end

/-- Values that tagged text can hold without loss, instants apart: objects have their properties in
order, there are no floating point numbers, and brackets are nested less than 128 deep. -/
structure Plain (v : Value) : Prop where
  ordered : v.isOrdered = true
  noFloats : v.floats = []
  shallow : v.tagged.nesting < 128

theorem parseTagged?_taggedText {v : Value} (h : v.Plain) :
    parseTagged? v.taggedText = if v.instants.all fitsWord then some v else none := by
  rw [parseTagged?, taggedText, Json.parse?_compact]
  exact ofTagged?_source v h.ordered h.noFloats (Nat.le_of_lt_succ h.shallow)

end Value

namespace Context

def instants (ctx : Context) : List Int := Value.propertyInstants ctx.params.entries

structure Plain (ctx : Context) : Prop where
  ordered : Value.propertiesOrdered ctx.params.entries = true
  noFloats : ctx.floats = []
  shallow : ctx.tagged.nesting < 128

theorem mapM_fragmentSources (fragments : List (String × String)) :
    ((fragments.map fun e ↦ (e.1, Json.string e.2)).map fun m ↦ (m.1, m.2.source)).mapM
        (fun m ↦ match m.2 with
          | .string s => (StringPiece.text? s).map (m.1, ·)
          | _ => none) = some fragments := by
  induction fragments with
  | nil => rfl
  | cons e fragments ih =>
    rw [List.map_cons, List.map_cons, List.mapM_cons, ih]
    show ((StringPiece.text? (StringPiece.ofString e.2)).map _).bind _ = _
    rw [StringPiece.text?_ofString]
    rfl

theorem readFragments?_source (fragments : KeyMap String) (depth : Nat) :
    readFragments? (depth + 1)
      (Json.object (fragments.entries.map fun e ↦ (e.1, .string e.2))).source = some fragments := by
  rw [Json.source, readFragments?, Value.readMembers?_memberSources]
  have hread := congrArg (Option.map KeyMap.ofList) (mapM_fragmentSources fragments.entries)
  rw [Option.map_some, KeyMap.ofList_entries] at hread
  exact (Option.map_eq_bind).symm.trans hread

theorem readParams?_source (params : KeyMap Value) {depth : Nat}
    (hordered : Value.propertiesOrdered params.entries = true)
    (hfloats : Value.propertyFloats params.entries = [])
    (hdepth : Json.membersNesting (Value.propertiesTagged params.entries) ≤ depth) :
    readParams? (depth + 1) (Json.object (Value.propertiesTagged params.entries)).source =
      if (Value.propertyInstants params.entries).all fitsWord then some params else none := by
  rw [Json.source, readParams?, Value.readMembers?_memberSources]
  show Option.bind (List.mapM _ _) _ = _
  rw [Value.mapM_memberSources _ hordered hfloats hdepth]
  split
  · show some (KeyMap.ofList params.entries) = _
    rw [KeyMap.ofList_entries]
  · rfl

theorem ofTagged?_source (ctx : Context) {depth : Nat}
    (hordered : Value.propertiesOrdered ctx.params.entries = true) (hfloats : ctx.floats = [])
    (hdepth : Json.membersNesting (Value.propertiesTagged ctx.params.entries) ≤ depth) :
    ofTagged? (depth + 2) ctx.tagged.source =
      if ctx.instants.all fitsWord then some ctx else none := by
  rw [tagged, Json.source, ofTagged?, Value.readMembers?_memberSources]
  show Option.bind (readParams? (depth + 1) (Json.object _).source) (fun params ↦
    Option.bind (readFragments? (depth + 1) (Json.object _).source) fun fragments ↦
      some (Context.mk params fragments)) = _
  rw [readParams?_source ctx.params hordered hfloats hdepth, readFragments?_source, instants]
  split <;> rfl

theorem parseTagged?_taggedText {ctx : Context} (h : ctx.Plain) :
    parseTagged? ctx.taggedText = if ctx.instants.all fitsWord then some ctx else none := by
  have hdepth : Json.membersNesting (Value.propertiesTagged ctx.params.entries) ≤ 125 := by
    have hshallow := h.shallow
    simp only [tagged, Json.nesting, Json.membersNesting] at hshallow
    omega
  rw [parseTagged?, taggedText, Json.parse?_compact]
  exact ofTagged?_source ctx h.ordered h.noFloats hdepth

end Context

theorem eq_of_reads_back {α : Type} {text : α → String} {read : String → Option α} {a b : α}
    (ha : read (text a) = some a) (hb : read (text b) = some b) (h : text a = text b) : a = b := by
  rw [h, hb] at ha
  exact (Option.some.inj ha).symm

/-- Values and contexts read back as they were if all their instants are numbers of 64 bits, and
are refused otherwise; so those that read back are told apart by their text. -/
theorem taggedText_reads_back :
    (∀ v : Value, v.Plain →
      Value.parseTagged? v.taggedText = if v.instants.all fitsWord then some v else none) ∧
    (∀ ctx : Context, ctx.Plain →
      Context.parseTagged? ctx.taggedText = if ctx.instants.all fitsWord then some ctx else none) ∧
    (∀ v w : Value, v.Plain → w.Plain → v.instants.all fitsWord = true →
      w.instants.all fitsWord = true → v.taggedText = w.taggedText → v = w) ∧
    ∀ ctx ctx' : Context, ctx.Plain → ctx'.Plain → ctx.instants.all fitsWord = true →
      ctx'.instants.all fitsWord = true → ctx.taggedText = ctx'.taggedText → ctx = ctx' := by
  have hvalue {v : Value} (h : v.Plain) (hfits : v.instants.all fitsWord = true) :
      Value.parseTagged? v.taggedText = some v := by
    rw [Value.parseTagged?_taggedText h, if_pos hfits]
  have hcontext {ctx : Context} (h : ctx.Plain) (hfits : ctx.instants.all fitsWord = true) :
      Context.parseTagged? ctx.taggedText = some ctx := by
    rw [Context.parseTagged?_taggedText h, if_pos hfits]
  refine ⟨fun v ↦ Value.parseTagged?_taggedText, fun ctx ↦ Context.parseTagged?_taggedText, ?_, ?_⟩
  · intro v w hv hw hfits hfits'
    exact eq_of_reads_back (hvalue hv hfits) (hvalue hw hfits')
  · intro ctx ctx' hctx hctx' hfits hfits'
    exact eq_of_reads_back (hcontext hctx hfits) (hcontext hctx' hfits')

def stamped (ns : Int) : Value :=
  .object [("at", .dateTime ns), ("tags", .list [.string "\"é\"", .bytes [0, 255], .null])]

theorem plain_stamped (ns : Int) : (stamped ns).Plain where
  ordered := show (decide (["at", "tags"].Pairwise (· < ·)) && true) = true by decide
  noFloats := rfl
  shallow := show 6 < 128 by decide

/-- The last instant that reads back and the one after it; two objects and a context. -/
theorem stamped_reads_back :
    Value.parseTagged? (stamped 18446744073709551615).taggedText =
        some (stamped 18446744073709551615) ∧
      Value.parseTagged? (stamped 18446744073709551616).taggedText = none ∧
      Context.parseTagged? (Context.empty.setParam "row" (stamped 0)).taggedText =
        some (Context.empty.setParam "row" (stamped 0)) := by
  obtain ⟨hvalue, hcontext, -, -⟩ := taggedText_reads_back
  have hrow : (Context.empty.setParam "row" (stamped 0)).Plain := ⟨rfl, rfl, by decide⟩
  exact ⟨hvalue _ (plain_stamped _), hvalue _ (plain_stamped _), hcontext _ hrow⟩

end QueryCatalog
