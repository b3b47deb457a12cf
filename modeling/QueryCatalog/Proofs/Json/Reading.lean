import QueryCatalog.Proofs.Json.Numerals

namespace QueryCatalog

namespace StringPiece

def ofChar (c : Char) : StringPiece :=
  if c.toNat < 32 ∧ c ≠ '\n' ∧ c ≠ '\r' ∧ c ≠ '\t' ∧ c.toNat ≠ 8 ∧ c.toNat ≠ 12 then .unit c.toNat
  else .char c

theorem decode_ofChar_cons (c : Char) (pieces : List StringPiece) :
    decode (ofChar c :: pieces) = (decode pieces).map (c :: ·) := by
  unfold ofChar
  split
  · rename_i hc
    conv_lhs => unfold decode
    rw [if_neg (by omega), if_neg (by omega), Char.ofNat_toNat]
  · rfl

theorem decode_map_ofChar (l : List Char) : decode (l.map ofChar) = some l := by
  induction l with
  | nil => rfl
  | cons c l ih =>
    rw [List.map_cons, decode_ofChar_cons, ih]
    rfl

def ofString (s : String) : List StringPiece := s.toList.map ofChar

theorem text?_ofString (s : String) : text? (ofString s) = some s := by
  rw [text?, ofString, decode_map_ofChar, Option.map_some, String.ofList_toList]

end StringPiece

namespace JsonSource

theorem hexValue?_hexDigit : ∀ n < 16, hexValue? (Json.hexDigit n) = some n := by decide

theorem readString_cons {c : Char} (hquote : c ≠ '\"') (hescape : c ≠ '\\') (hlow : ¬ c.toNat < 32)
    (rest : List Char) :
    readString (c :: rest) = (readString rest).map fun p ↦ (.char c :: p.1, p.2) := by
  rw [readString.eq_def]
  split
  · contradiction
  · rename_i heq
    exact absurd (List.cons.inj heq).1 hquote
  · rename_i heq
    exact absurd (List.cons.inj heq).1 hescape
  · rename_i heq
    exact absurd (List.cons.inj heq).1 hescape
  · rename_i heq
    obtain ⟨rfl, rfl⟩ := List.cons.inj heq
    rw [if_neg (not_or.mpr ⟨hescape, hlow⟩)]
    cases readString rest <;> rfl

theorem readString_unit {n : Nat} (hn : n < 256) (rest : List Char) :
    readString
        ('\\' :: 'u' :: '0' :: '0' :: Json.hexDigit (n / 16) :: Json.hexDigit (n % 16) :: rest) =
      (readString rest).map fun p ↦ (.unit n :: p.1, p.2) := by
  have hhigh := hexValue?_hexDigit (n / 16) (by omega)
  have hlow := hexValue?_hexDigit (n % 16) (by omega)
  have hzero : hexValue? '0' = some 0 := rfl
  have hsum : 0 * 4096 + 0 * 256 + n / 16 * 16 + n % 16 = n := by omega
  rw [readString, hhigh, hlow, hzero]
  simp only [Option.bind_eq_bind, Option.bind_some, hsum]
  cases readString rest <;> rfl

theorem readString_simple {a d : Char} (ha : a ≠ 'u') (hd : simpleEscape? a = some d)
    (rest : List Char) :
    readString ('\\' :: a :: rest) = (readString rest).map fun p ↦ (.char d :: p.1, p.2) := by
  rw [readString.eq_def]
  split
  · contradiction
  · rename_i heq
    cases heq
  · rename_i heq
    cases heq
    exact absurd rfl ha
  · rename_i heq
    cases heq
    rw [hd]
    cases readString rest <;> rfl
  · rename_i hnot heq
    cases heq
    exact (hnot _ _ rfl rfl).elim

theorem readString_escape (c : Char) (rest : List Char) :
    readString (Json.escape c ++ rest) =
      (readString rest).map fun p ↦ (StringPiece.ofChar c :: p.1, p.2) := by
  have hchar {n : Nat} (h : c.toNat = n) : c = Char.ofNat n := by rw [← h, Char.ofNat_toNat]
  unfold Json.escape
  split_ifs with hquote hescape hnewline hreturn htab hback hfeed hlow
  · rw [hquote]
    exact readString_simple (by decide) rfl rest
  · rw [hescape]
    exact readString_simple (by decide) rfl rest
  · rw [hnewline]
    exact readString_simple (by decide) rfl rest
  · rw [hreturn]
    exact readString_simple (by decide) rfl rest
  · rw [htab]
    exact readString_simple (by decide) rfl rest
  · rw [hchar hback]
    exact readString_simple (by decide) rfl rest
  · rw [hchar hfeed]
    exact readString_simple (by decide) rfl rest
  · rw [StringPiece.ofChar, if_pos ⟨hlow, hnewline, hreturn, htab, hback, hfeed⟩]
    exact readString_unit (by omega) rest
  · rw [StringPiece.ofChar, if_neg fun h ↦ hlow h.1]
    exact readString_cons hquote hescape hlow rest

theorem readString_escapes (l rest : List Char) :
    readString (l.flatMap Json.escape ++ '\"' :: rest) = some (l.map StringPiece.ofChar, rest) := by
  induction l with
  | nil => rfl
  | cons c l ih =>
    rw [List.flatMap_cons, List.append_assoc, readString_escape, ih]
    rfl

theorem readString_tail (s : String) (rest : List Char) :
    readString (s.toList.flatMap Json.escape ++ ['\"'] ++ rest) =
      some (StringPiece.ofString s, rest) := by
  rw [List.append_assoc]
  exact readString_escapes s.toList rest

theorem skipBlanks_cons {c : Char} (hc : isBlank c = false) (rest : List Char) :
    skipBlanks (c :: rest) = c :: rest :=
  List.dropWhile_cons_of_neg (by rw [hc]; exact Bool.false_ne_true)

theorem isBlank_of_isDigit {c : Char} (hc : c.isDigit = true) : isBlank c = false := by
  rw [Bool.eq_false_iff]
  intro hblank
  have hblanks : c = ' ' ∨ c = '\n' ∨ c = '\t' ∨ c = '\r' := by
    simpa [isBlank, or_assoc] using hblank
  rcases hblanks with rfl | rfl | rfl | rfl <;> cases hc

theorem readValue_digit {c : Char} (hc : c.isDigit = true) (rest : List Char) (bound : Nat) :
    readValue (bound + 1) (c :: rest) =
      (readNumeral false (c :: rest)).map fun p ↦ (.number p.1, p.2) := by
  rw [readValue, skipBlanks_cons (isBlank_of_isDigit hc)]
  split <;> first
    | rfl
    | rename_i heq
      cases heq
      cases hc

theorem readValue_array {c : Char} (hblank : isBlank c = false) (hc : c ≠ ']') (rest : List Char)
    (bound : Nat) :
    readValue (bound + 1) ('[' :: c :: rest) =
      (readItems bound (c :: rest)).map fun p ↦ (.array p.1, p.2) := by
  rw [readValue, skipBlanks_cons rfl]
  -- The outer match is on a literal: it reduces, but no rewriting sees it.
  conv_lhs => whnf
  rw [skipBlanks_cons hblank]
  split
  · rename_i heq
    exact absurd (List.cons.inj heq).1 hc
  · rfl

theorem readValue_number {n : Numeral} (h : n.WellFormed) {rest : List Char}
    (hrest : EndsNumeral rest) (bound : Nat) :
    readValue (bound + 1) (n.text ++ rest) = some (.number n, rest) := by
  have hread := readNumeral_text h hrest
  unfold Numeral.text
  cases hnegative : n.negative with
  | true =>
    rw [hnegative] at hread
    show (readNumeral true (n.unsignedText ++ rest)).map _ = _
    rw [hread]
    rfl
  | false =>
    rw [hnegative] at hread
    obtain ⟨c, tail, htext, hc⟩ := h.exists_cons_unsigned
    show readValue _ (n.unsignedText ++ rest) = _
    rw [htext, List.cons_append, readValue_digit hc, ← List.cons_append, ← htext, hread]
    rfl

end JsonSource

theorem endsNumeral_cons {c : Char} {rest : List Char} (hc : c = ',' ∨ c = ']' ∨ c = '}') :
    EndsNumeral (c :: rest) := by
  rintro _ ⟨⟩
  rcases hc with rfl | rfl | rfl <;> decide

namespace Json

mutual

def source : Json → JsonSource
  | null => .null
  | bool b => .bool b
  | number (.integer i) => .number (.ofInt i)
  | number (.real x) => if x.isFinite then .number (.ofReal x) else .null
  | string s => .string (StringPiece.ofString s)
  | array items => .array (itemSources items)
  | object members => .object (memberSources members)

def itemSources : List Json → List JsonSource
  | [] => []
  | item :: items => source item :: itemSources items

def memberSources : List (String × Json) → List (List StringPiece × JsonSource)
  | [] => []
  | (name, value) :: members => (StringPiece.ofString name, source value) :: memberSources members

end

theorem write_number (n : JsonNumber) :
    (∃ m : Numeral, m.WellFormed ∧ (number n).write = m.text ∧ (number n).source = .number m) ∨
      (number n).write = ['n', 'u', 'l', 'l'] ∧ (number n).source = .null := by
  cases n with
  | integer i =>
    exact Or.inl ⟨.ofInt i, Numeral.wellFormed_ofInt i, (Numeral.text_ofInt i).symm, rfl⟩
  | real x =>
    by_cases hx : x.isFinite = true
    · exact Or.inl ⟨.ofReal x, Numeral.wellFormed_ofReal x,
        (if_pos hx).trans (Numeral.text_ofReal x).symm, if_pos hx⟩
    · exact Or.inr ⟨if_neg hx, if_neg hx⟩

/-- The text of a document starts neither with white space nor with a closing bracket. -/
theorem exists_cons_write (j : Json) :
    ∃ c rest, j.write = c :: rest ∧ JsonSource.isBlank c = false ∧ c ≠ ']' := by
  cases j with
  | null => exact ⟨_, _, rfl, by decide, by decide⟩
  | bool b => cases b <;> exact ⟨_, _, rfl, by decide, by decide⟩
  | string s => exact ⟨_, _, rfl, by decide, by decide⟩
  | array items => cases items <;> exact ⟨_, _, rfl, by decide, by decide⟩
  | object members => cases members <;> exact ⟨_, _, rfl, by decide, by decide⟩
  | number n =>
    rcases write_number n with ⟨m, hm, hwrite, -⟩ | ⟨hwrite, -⟩
    · obtain ⟨c, rest, htext, hc⟩ := hm.exists_cons_text
      refine ⟨c, rest, hwrite.trans htext, ?_⟩
      rcases hc with rfl | hc
      · decide
      · refine ⟨JsonSource.isBlank_of_isDigit hc, ?_⟩
        rintro rfl
        cases hc
    · exact ⟨_, _, hwrite, by decide, by decide⟩

open JsonSource

structure ReadsBack (bound : Nat) : Prop where
  value : ∀ (j : Json) (rest : List Char), j.write.length ≤ bound → EndsNumeral rest →
    readValue bound (j.write ++ rest) = some (j.source, rest)
  items : ∀ (item : Json) (items : List Json) (rest : List Char),
    (item.write ++ writeItems items).length ≤ bound →
    readItems bound (item.write ++ writeItems items ++ rest) =
      some (item.source :: itemSources items, rest)
  members : ∀ (m : String × Json) (members : List (String × Json)) (rest : List Char),
    (writeMember m ++ writeMembers members).length ≤ bound →
    readMembers bound (writeMember m ++ writeMembers members ++ rest) =
      some (memberSources (m :: members), rest)

namespace ReadsBack

variable {bound : Nat}

theorem zero : ReadsBack 0 where
  value j rest hbound := by
    obtain ⟨c, tail, hwrite, -⟩ := exists_cons_write j
    rw [hwrite] at hbound
    cases hbound
  items item items rest hbound := by
    obtain ⟨c, tail, hwrite, -⟩ := exists_cons_write item
    rw [hwrite] at hbound
    cases hbound
  members m members rest hbound := by
    obtain ⟨name, value⟩ := m
    cases hbound

theorem value_succ (h : ReadsBack bound) (j : Json) (rest : List Char)
    (hbound : j.write.length ≤ bound + 1) (hrest : EndsNumeral rest) :
    readValue (bound + 1) (j.write ++ rest) = some (j.source, rest) := by
  cases j with
  | null => rfl
  | bool b => cases b <;> rfl
  | number n =>
    rcases write_number n with ⟨m, hm, hwrite, hsource⟩ | ⟨hwrite, hsource⟩
    · rw [hwrite, hsource]
      exact readValue_number hm hrest bound
    · rw [hwrite, hsource]
      rfl
  | string s =>
    show (readString (s.toList.flatMap escape ++ ['\"'] ++ rest)).map _ = _
    rw [readString_tail]
    rfl
  | array items =>
    cases items with
    | nil => rfl
    | cons item items =>
      obtain ⟨c, text, hitem, hblank, hclose⟩ := exists_cons_write item
      have hitems := h.items item items rest (Nat.le_of_succ_le_succ hbound)
      show readValue _ ('[' :: (item.write ++ writeItems items ++ rest)) = _
      rw [hitem, List.cons_append, List.cons_append] at hitems ⊢
      rw [readValue_array hblank hclose, hitems]
      rfl
  | object members =>
    cases members with
    | nil => rfl
    | cons m members =>
      obtain ⟨name, value⟩ := m
      have hmembers := h.members (name, value) members rest (Nat.le_of_succ_le_succ hbound)
      show (readMembers bound (writeMember (name, value) ++ writeMembers members ++ rest)).map _ = _
      rw [hmembers]
      rfl

theorem items_succ (h : ReadsBack bound) (item : Json) (items : List Json) (rest : List Char)
    (hbound : (item.write ++ writeItems items).length ≤ bound + 1) :
    readItems (bound + 1) (item.write ++ writeItems items ++ rest) =
      some (item.source :: itemSources items, rest) := by
  rw [List.length_append] at hbound
  rw [List.append_assoc, readItems]
  cases items with
  | nil =>
    have hitem := h.value item (']' :: rest) (Nat.le_of_succ_le_succ hbound)
      (endsNumeral_cons (Or.inr (Or.inl rfl)))
    show (readValue bound (item.write ++ ']' :: rest)).bind _ = _
    rw [hitem]
    rfl
  | cons next items =>
    have hlength : (writeItems (next :: items)).length =
        (next.write ++ writeItems items).length + 1 := rfl
    have hitem := h.value item (',' :: (next.write ++ writeItems items ++ rest)) (by omega)
      (endsNumeral_cons (Or.inl rfl))
    have hitems := h.items next items rest (by omega)
    show (readValue bound
      (item.write ++ ',' :: (next.write ++ writeItems items ++ rest))).bind _ = _
    rw [hitem]
    show (readItems bound (next.write ++ writeItems items ++ rest)).bind _ = _
    rw [hitems]
    rfl

theorem readMembers_name (name : String) (value : Json) (rest : List Char) :
    readMembers (bound + 1) (writeMember (name, value) ++ rest) =
      (readValue bound (value.write ++ rest)).bind fun p ↦
        match skipBlanks p.2 with
        | ',' :: rest' => (readMembers bound rest').map fun q ↦
            ((StringPiece.ofString name, p.1) :: q.1, q.2)
        | '}' :: rest' => some ([(StringPiece.ofString name, p.1)], rest')
        | _ => none := by
  have hname := readString_tail name (':' :: (value.write ++ rest))
  have htext : writeMember (name, value) ++ rest = '\"' :: (name.toList.flatMap escape ++ ['\"'] ++
      ':' :: (value.write ++ rest)) := by
    rw [writeMember, writeString, List.append_assoc, List.cons_append]
    rfl
  rw [htext, readMembers]
  show (readString _).bind _ = _
  rw [hname]
  show (readValue bound (value.write ++ rest)).bind _ = _
  refine congrArg _ (funext fun p ↦ ?_)
  dsimp only
  generalize skipBlanks p.2 = rest'
  split
  · rename_i rest'
    show _ = (readMembers bound rest').map _
    cases readMembers bound rest' <;> rfl
  · rfl
  · grind

theorem members_succ (h : ReadsBack bound) (m : String × Json) (members : List (String × Json))
    (rest : List Char) (hbound : (writeMember m ++ writeMembers members).length ≤ bound + 1) :
    readMembers (bound + 1) (writeMember m ++ writeMembers members ++ rest) =
      some (memberSources (m :: members), rest) := by
  obtain ⟨name, value⟩ := m
  have hmember : (writeMember (name, value)).length = (writeString name).length + 1 +
      value.write.length := by
    rw [writeMember, List.length_append, List.length_cons]
    omega
  rw [List.length_append, hmember] at hbound
  rw [List.append_assoc, readMembers_name]
  cases members with
  | nil =>
    show (readValue bound (value.write ++ '}' :: rest)).bind _ = _
    rw [h.value value _ (by omega) (endsNumeral_cons (Or.inr (Or.inr rfl)))]
    rfl
  | cons next members =>
    have hlength : (writeMembers (next :: members)).length =
        (writeMember next ++ writeMembers members).length + 1 := rfl
    show (readValue bound
      (value.write ++ ',' :: (writeMember next ++ writeMembers members ++ rest))).bind _ = _
    rw [h.value value _ (by omega) (endsNumeral_cons (Or.inl rfl))]
    show (readMembers bound (writeMember next ++ writeMembers members ++ rest)).map _ = _
    rw [h.members next members rest (by omega)]
    rfl

theorem all (bound : Nat) : ReadsBack bound := by
  induction bound with
  | zero => exact zero
  | succ bound ih => exact ⟨ih.value_succ, ih.items_succ, ih.members_succ⟩

end ReadsBack

theorem parse?_compact (j : Json) : JsonSource.parse? j.compact = some j.source := by
  have hbound : j.write.length ≤ 2 * j.compact.length + 2 := by
    rw [compact, String.length_ofList]
    omega
  have hread := (ReadsBack.all _).value j [] hbound nofun
  rw [List.append_nil] at hread
  rw [JsonSource.parse?, compact, String.toList_ofList, ← compact, hread]
  rfl

mutual

/-- The document with null in place of each number that JSON lacks. -/
def legible : Json → Json
  | null => null
  | bool b => bool b
  | number (.integer i) => number (.integer i)
  | number (.real x) => if x.isFinite then number (.real x) else null
  | string s => string s
  | array items => array (legibleItems items)
  | object members => object (legibleMembers members)

def legibleItems : List Json → List Json
  | [] => []
  | item :: items => legible item :: legibleItems items

def legibleMembers : List (String × Json) → List (String × Json)
  | [] => []
  | (name, value) :: members => (name, legible value) :: legibleMembers members

end

mutual

theorem write_legible : ∀ j : Json, j.legible.write = j.write
  | null => rfl
  | bool _ => rfl
  | number (.integer _) => rfl
  | number (.real x) => by
    unfold legible
    split
    · rfl
    · rename_i hx
      exact (if_neg hx).symm
  | string _ => rfl
  | array [] => rfl
  | array (item :: items) =>
    congrArg₂ (fun t t' ↦ '[' :: t ++ t') (write_legible item) (writeItems_legible items)
  | object [] => rfl
  | object ((name, value) :: members) =>
    congrArg₂ (fun t t' ↦ '{' :: (writeString name ++ ':' :: t) ++ t') (write_legible value)
      (writeMembers_legible members)

theorem writeItems_legible : ∀ items, writeItems (legibleItems items) = writeItems items
  | [] => rfl
  | item :: items =>
    congrArg₂ (fun t t' ↦ ',' :: t ++ t') (write_legible item) (writeItems_legible items)

theorem writeMembers_legible : ∀ members,
    writeMembers (legibleMembers members) = writeMembers members
  | [] => rfl
  | (name, value) :: members =>
    congrArg₂ (fun t t' ↦ ',' :: (writeString name ++ ':' :: t) ++ t') (write_legible value)
      (writeMembers_legible members)

end

noncomputable def numberOf (n : Numeral) : JsonNumber :=
  if n.isWhole then .integer (if n.negative then -Numeral.natOf n.whole else Numeral.natOf n.whole)
  else .real (Function.invFun Numeral.ofReal n)

theorem numberOf_ofInt (i : Int) : numberOf (.ofInt i) = .integer i := by
  have hsize : Numeral.natOf (Numeral.ofInt i).whole = i.natAbs := Numeral.natOf_toDigits _
  have hsign : (Numeral.ofInt i).negative = decide (i < 0) := rfl
  have hwhole : (Numeral.ofInt i).isWhole = true := rfl
  rw [numberOf, if_pos hwhole, hsize, hsign]
  congr 1
  split
  · rename_i hneg
    rw [decide_eq_true_eq] at hneg
    omega
  · rename_i hneg
    rw [decide_eq_true_eq] at hneg
    omega

theorem numberOf_ofReal (x : Binary64) : numberOf (.ofReal x) = .real x := by
  rw [numberOf, Numeral.isWhole_ofReal, if_neg Bool.false_ne_true,
    Function.leftInverse_invFun (fun _ _ ↦ Numeral.ofReal_injective)]

mutual

noncomputable def ofReading : JsonSource → Json
  | .null => null
  | .bool b => bool b
  | .number n => number (numberOf n)
  | .string s => string ((StringPiece.text? s).getD "")
  | .array items => array (itemsOfReading items)
  | .object members => object (membersOfReading members)

noncomputable def itemsOfReading : List JsonSource → List Json
  | [] => []
  | item :: items => ofReading item :: itemsOfReading items

noncomputable def membersOfReading : List (List StringPiece × JsonSource) → List (String × Json)
  | [] => []
  | (name, value) :: members =>
    ((StringPiece.text? name).getD "", ofReading value) :: membersOfReading members

end

theorem getD_text?_ofString (s : String) :
    (StringPiece.text? (StringPiece.ofString s)).getD "" = s := by
  rw [StringPiece.text?_ofString, Option.getD_some]

mutual

theorem ofReading_source : ∀ j : Json, ofReading j.source = j.legible
  | null => rfl
  | bool _ => rfl
  | number (.integer i) => congrArg number (numberOf_ofInt i)
  | number (.real x) => by
    unfold source legible
    split
    · exact congrArg number (numberOf_ofReal x)
    · rfl
  | string s => congrArg string (getD_text?_ofString s)
  | array items => congrArg array (itemsOfReading_sources items)
  | object members => congrArg object (membersOfReading_sources members)

theorem itemsOfReading_sources : ∀ items, itemsOfReading (itemSources items) = legibleItems items
  | [] => rfl
  | item :: items => congrArg₂ List.cons (ofReading_source item) (itemsOfReading_sources items)

theorem membersOfReading_sources : ∀ members,
    membersOfReading (memberSources members) = legibleMembers members
  | [] => rfl
  | (name, value) :: members =>
    congrArg₂ List.cons (Prod.ext (getD_text?_ofString name) (ofReading_source value))
      (membersOfReading_sources members)

end

/-- Documents with one text differ at most in the numbers that JSON lacks. -/
theorem compact_eq_iff (j k : Json) : j.compact = k.compact ↔ j.legible = k.legible := by
  constructor
  · intro h
    have hsource : j.source = k.source := by
      apply Option.some.inj
      rw [← parse?_compact, h, parse?_compact]
    rw [← ofReading_source, hsource, ofReading_source]
  · intro h
    rw [compact, compact, ← write_legible j, h, write_legible]

end Json

end QueryCatalog
