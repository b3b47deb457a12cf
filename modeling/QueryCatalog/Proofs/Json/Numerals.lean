import QueryCatalog.Json.Decode
import QueryCatalog.Proofs.Binary64.Shortest

namespace QueryCatalog

section Digits

variable {n : Nat} {digits rest : List Char}

theorem head?_toDigits (hn : n ≠ 0) : (Nat.toDigits 10 n).head? ≠ some '0' := by
  induction n using Nat.strongRecOn with
  | ind n ih =>
    rcases Nat.lt_or_ge n 10 with hlt | hge
    · rw [Nat.toDigits_of_lt_base hlt]
      intro h
      have hdigit : ∀ n < 10, n.digitChar = '0' → n = 0 := by decide
      exact hn (hdigit n hlt (Option.some.inj h))
    · rw [Nat.toDigits_of_base_le (by decide) hge,
        List.head?_append_of_ne_nil _ Nat.toDigits_ne_nil]
      exact ih (n / 10) (Nat.div_lt_self (by omega) (by decide)) (by omega)

theorem isDigit_toDigits (n : Nat) : ∀ c ∈ Nat.toDigits 10 n, c.isDigit = true :=
  fun _ ↦ Nat.isDigit_of_mem_toDigits (by decide) le_rfl

theorem isDigit_replicate_zero (n : Nat) : ∀ c ∈ List.replicate n '0', c.isDigit = true := by
  intro c hc
  rw [List.eq_of_mem_replicate hc]
  rfl

end Digits

namespace Numeral

variable {n : Numeral} {rest : List Char}

theorem natOf_eq_ofDigitChars (digits : List Char) :
    natOf digits = Nat.ofDigitChars 10 digits 0 := Nat.ofDigitChars_eq_foldl.symm

theorem natOf_toDigits (n : Nat) : natOf (Nat.toDigits 10 n) = n := by
  rw [natOf_eq_ofDigitChars, Nat.ofDigitChars_ten_toDigits]

theorem natOf_append (l l' : List Char) :
    natOf (l ++ l') = 10 ^ l'.length * natOf l + natOf l' := by
  rw [natOf_eq_ofDigitChars, Nat.ofDigitChars_append, Nat.ofDigitChars_eq_ofDigitChars_zero]
  rfl

theorem natOf_replicate_zero (n : Nat) : natOf (List.replicate n '0') = 0 := by
  rw [natOf_eq_ofDigitChars, Nat.ofDigitChars_replicate_zero, Nat.mul_zero]

def power (n : Numeral) : Int :=
  match n.exponent? with
  | none => 0
  | some (negative, digits) => if negative then -natOf digits else natOf digits

def size (n : Numeral) : ℚ := natOf (n.whole ++ n.fraction) * 10 ^ (n.power - n.fraction.length)

def fractionText (n : Numeral) : List Char :=
  if n.fraction = [] then [] else '.' :: n.fraction

def exponentText (n : Numeral) : List Char :=
  match n.exponent? with
  | none => []
  | some (negative, digits) => 'e' :: (if negative then '-' else '+') :: digits

def unsignedText (n : Numeral) : List Char := n.whole ++ (n.fractionText ++ n.exponentText)

def text (n : Numeral) : List Char := (if n.negative then ['-'] else []) ++ n.unsignedText

structure WellFormed (n : Numeral) : Prop where
  whole : ∀ c ∈ n.whole, c.isDigit = true
  nonempty : n.whole ≠ []
  leading : n.whole.head? = some '0' → n.whole.length = 1
  fraction : ∀ c ∈ n.fraction, c.isDigit = true
  exponent : ∀ e ∈ n.exponent?, e.2 ≠ [] ∧ ∀ c ∈ e.2, c.isDigit = true

theorem WellFormed.exists_cons_unsigned (h : n.WellFormed) :
    ∃ c rest, n.unsignedText = c :: rest ∧ c.isDigit = true := by
  obtain ⟨c, whole, hwhole⟩ := List.exists_cons_of_ne_nil h.nonempty
  refine ⟨c, whole ++ (n.fractionText ++ n.exponentText), ?_, ?_⟩
  · rw [unsignedText, hwhole]
    rfl
  · exact h.whole c (by rw [hwhole]; exact List.mem_cons_self ..)

theorem WellFormed.exists_cons_text (h : n.WellFormed) :
    ∃ c rest, n.text = c :: rest ∧ (c = '-' ∨ c.isDigit = true) := by
  unfold text
  cases n.negative with
  | true => exact ⟨_, _, rfl, Or.inl rfl⟩
  | false =>
    obtain ⟨c, rest, htext, hc⟩ := h.exists_cons_unsigned
    exact ⟨c, rest, htext, Or.inr hc⟩

end Numeral

/-- A text that does not go on with a numeral. -/
def EndsNumeral (rest : List Char) : Prop :=
  ∀ c ∈ rest.head?, c.isDigit = false ∧ c ≠ '.' ∧ c ≠ 'e' ∧ c ≠ 'E'

namespace JsonSource

variable {digits rest : List Char}

theorem takeDigits_append (hdigits : ∀ c ∈ digits, c.isDigit = true)
    (hrest : ∀ c ∈ rest.head?, c.isDigit = false) :
    takeDigits (digits ++ rest) = (digits, rest) := by
  have htake : rest.takeWhile Char.isDigit = [] := by
    cases rest with
    | nil => rfl
    | cons c rest => rw [List.takeWhile_cons_of_neg (by rw [hrest c rfl]; exact Bool.false_ne_true)]
  have hdrop : rest.dropWhile Char.isDigit = rest := by
    cases rest with
    | nil => rfl
    | cons c rest => rw [List.dropWhile_cons_of_neg (by rw [hrest c rfl]; exact Bool.false_ne_true)]
  rw [takeDigits, List.takeWhile_append_of_pos hdigits, List.dropWhile_append_of_pos hdigits, htake,
    hdrop, List.append_nil]

theorem readFraction_of_ends (hrest : ∀ c ∈ rest.head?, c ≠ '.') :
    readFraction rest = some ([], rest) := by
  cases rest with
  | nil => rfl
  | cons c rest =>
    have hc := hrest c rfl
    unfold readFraction
    split
    · rename_i heq
      cases heq
      exact absurd rfl hc
    · rfl

theorem readExponent_of_ends (hrest : EndsNumeral rest) :
    readExponent rest = some (none, rest) := by
  cases rest with
  | nil => rfl
  | cons c rest =>
    obtain ⟨-, -, he, hE⟩ := hrest c rfl
    exact if_neg (not_or.mpr ⟨he, hE⟩)

theorem readExponent_text {negative : Bool} (hne : digits ≠ [])
    (hdigits : ∀ c ∈ digits, c.isDigit = true) (hrest : EndsNumeral rest) :
    readExponent ('e' :: (if negative then '-' else '+') :: digits ++ rest) =
      some (some (negative, digits), rest) := by
  have htake := takeDigits_append hdigits fun c hc ↦ (hrest c hc).1
  have hempty : digits.isEmpty = false := by
    rwa [List.isEmpty_eq_false_iff]
  cases negative <;> simp [readExponent, htake, hempty]

variable {n : Numeral}

theorem readExponent_exponentText (h : n.WellFormed) (hrest : EndsNumeral rest) :
    readExponent (n.exponentText ++ rest) = some (n.exponent?, rest) := by
  unfold Numeral.exponentText
  cases he : n.exponent? with
  | none => exact readExponent_of_ends hrest
  | some e =>
    obtain ⟨hne, hdigits⟩ := h.exponent e he
    exact readExponent_text hne hdigits hrest

theorem head_exponentText (hrest : EndsNumeral rest) :
    ∀ c ∈ (n.exponentText ++ rest).head?, c.isDigit = false ∧ c ≠ '.' := by
  unfold Numeral.exponentText
  cases n.exponent? with
  | none =>
    intro c hc
    obtain ⟨hdigit, hpoint, -⟩ := hrest c hc
    exact ⟨hdigit, hpoint⟩
  | some e =>
    rintro c hc
    cases hc
    decide

theorem readFraction_fractionText (h : n.WellFormed) (hrest : EndsNumeral rest) :
    readFraction (n.fractionText ++ (n.exponentText ++ rest)) =
      some (n.fraction, n.exponentText ++ rest) := by
  have hhead := head_exponentText (n := n) hrest
  unfold Numeral.fractionText
  split
  · rename_i hnil
    rw [hnil]
    exact readFraction_of_ends fun c hc ↦ (hhead c hc).2
  · rename_i hne
    have htake := takeDigits_append h.fraction fun c hc ↦ (hhead c hc).1
    rw [List.cons_append, readFraction, htake]
    exact if_neg (by rwa [List.isEmpty_iff])

theorem head_fractionText (hrest : EndsNumeral rest) :
    ∀ c ∈ (n.fractionText ++ (n.exponentText ++ rest)).head?, c.isDigit = false := by
  unfold Numeral.fractionText
  split
  · exact fun c hc ↦ (head_exponentText hrest c hc).1
  · rintro c hc
    cases hc
    decide

theorem readNumeral_text (h : n.WellFormed) (hrest : EndsNumeral rest) :
    readNumeral n.negative (n.unsignedText ++ rest) = some (n, rest) := by
  have hempty : n.whole.isEmpty = false := by
    rw [List.isEmpty_eq_false_iff]
    exact h.nonempty
  have hleading : (n.whole.head? == some '0' && n.whole.length != 1) = false := by
    rw [Bool.and_eq_false_iff]
    by_cases hzero : n.whole.head? = some '0'
    · exact Or.inr (by simp [h.leading hzero])
    · exact Or.inl (by simp [hzero])
  rw [readNumeral, Numeral.unsignedText, List.append_assoc, List.append_assoc,
    takeDigits_append h.whole (head_fractionText hrest)]
  simp only [hempty, hleading, Bool.or_self, Bool.false_eq_true, if_false, Option.bind_eq_bind,
    readFraction_fractionText h hrest, Option.bind_some, readExponent_exponentText h hrest]
  rfl

end JsonSource

namespace Numeral

def ofInt (i : Int) : Numeral := ⟨decide (i < 0), Nat.toDigits 10 i.natAbs, [], none⟩

def ofPlace (negative : Bool) (digits : List Char) (place : Int) : Numeral :=
  if place ≤ 0 then ⟨negative, ['0'], List.replicate (-place).toNat '0' ++ digits, none⟩
  else if (digits.length : Int) ≤ place then
    ⟨negative, digits ++ List.replicate (place - digits.length).toNat '0', ['0'], none⟩
  else ⟨negative, digits.take place.toNat, digits.drop place.toNat, none⟩

def ofExponent (negative : Bool) (digits : List Char) (exponent : Int) : Numeral :=
  ⟨negative, digits.take 1, digits.drop 1,
    some (decide (exponent < 0), Nat.toDigits 10 exponent.natAbs)⟩

def ofReal (x : Binary64) : Numeral :=
  let d := x.shortest Json.realLayout.tie
  let digits := Nat.toDigits 10 d.digits
  let place := d.exponent + digits.length
  if x.isZero then ⟨x.isNegative, ['0'], ['0'], none⟩
  else if Json.realLayout.positional place then ofPlace x.isNegative digits place
  else ofExponent x.isNegative digits (place - 1)

theorem wellFormed_toDigits (n : Nat) (negative : Bool) :
    WellFormed ⟨negative, Nat.toDigits 10 n, [], none⟩ := by
  refine ⟨isDigit_toDigits n, Nat.toDigits_ne_nil, ?_, nofun, nofun⟩
  intro hhead
  rcases Nat.eq_zero_or_pos n with rfl | hpos
  · rfl
  · exact absurd hhead (head?_toDigits (by omega))

theorem wellFormed_ofInt (i : Int) : (ofInt i).WellFormed := wellFormed_toDigits _ _

theorem toList_repr (n : Nat) : (Nat.repr n).toList = Nat.toDigits 10 n := by
  rw [Nat.repr_eq_ofList_toDigits, String.toList_ofList]

theorem text_ofInt (i : Int) : (ofInt i).text = (toString i).toList := by
  have htoString : toString i = i.repr := rfl
  rw [htoString, Int.repr_eq_if]
  unfold text unsignedText ofInt fractionText exponentText
  by_cases hneg : i < 0
  · have hsize : (-i).toNat = i.natAbs := by omega
    rw [if_neg (not_le.mpr hneg), String.toList_append, toList_repr, hsize]
    simp [hneg]
  · have hsize : i.toNat = i.natAbs := by omega
    rw [if_pos (not_lt.mp hneg), toList_repr, hsize]
    simp [hneg]

section Layouts

variable {negative : Bool} {digits : List Char} {place : Int}

theorem wellFormed_ofPlace (hdigits : ∀ c ∈ digits, c.isDigit = true) (hne : digits ≠ [])
    (hhead : digits.head? ≠ some '0') : (ofPlace negative digits place).WellFormed := by
  unfold ofPlace
  split
  · refine ⟨?_, nofun, fun _ ↦ rfl, ?_, nofun⟩
    · exact isDigit_replicate_zero 1
    · intro c hc
      exact (List.mem_append.mp hc).elim (isDigit_replicate_zero _ c) (hdigits c)
  · rename_i hplace
    split
    · refine ⟨?_, ?_, ?_, isDigit_replicate_zero 1, nofun⟩
      · intro c hc
        exact (List.mem_append.mp hc).elim (hdigits c) (isDigit_replicate_zero _ c)
      · exact List.append_ne_nil_of_left_ne_nil hne _
      · intro h
        rw [List.head?_append_of_ne_nil _ hne] at h
        exact absurd h hhead
    · have hpos : place.toNat ≠ 0 := by omega
      refine ⟨fun c hc ↦ hdigits c (List.mem_of_mem_take hc), ?_, ?_,
        fun c hc ↦ hdigits c (List.mem_of_mem_drop hc), nofun⟩
      · rw [ne_eq, List.take_eq_nil_iff, not_or]
        exact ⟨hpos, hne⟩
      · intro h
        rw [List.head?_take, if_neg hpos] at h
        exact absurd h hhead

theorem size_ofPlace : (ofPlace negative digits place).size =
    natOf digits * 10 ^ (place - digits.length) := by
  unfold ofPlace
  split
  · have hnat : natOf (['0'] ++ (List.replicate (-place).toNat '0' ++ digits)) = natOf digits := by
      rw [natOf_append, natOf_append, natOf_replicate_zero]
      show _ * 0 + _ = _
      omega
    unfold size power
    dsimp only
    rw [hnat]
    congr 2
    rw [List.length_append, List.length_replicate]
    omega
  · split
    · rename_i hle
      have hnat : natOf (digits ++ List.replicate (place - digits.length).toNat '0' ++ ['0']) =
          10 * (10 ^ (place - digits.length).toNat * natOf digits) := by
        rw [natOf_append, natOf_append, natOf_replicate_zero, List.length_replicate]
        rfl
      unfold size power
      dsimp only
      obtain ⟨zeros, hzeros⟩ := Int.eq_ofNat_of_zero_le (Int.sub_nonneg_of_le hle)
      rw [hnat, hzeros, Int.toNat_natCast, zpow_natCast]
      push_cast
      norm_num
      ring
    · unfold size power
      dsimp only
      rw [List.take_append_drop]
      congr 2
      rw [List.length_drop]
      omega

theorem isWhole_ofPlace (hne : digits ≠ []) : (ofPlace negative digits place).isWhole = false := by
  have hfraction : (ofPlace negative digits place).fraction ≠ [] := by
    unfold ofPlace
    split
    · exact List.append_ne_nil_of_right_ne_nil _ hne
    · split
      · exact List.cons_ne_nil '0' []
      · rw [ne_eq, List.drop_eq_nil_iff]
        omega
  rw [isWhole, List.isEmpty_eq_false_iff.mpr hfraction, Bool.false_and]

theorem wellFormed_ofExponent (hdigits : ∀ c ∈ digits, c.isDigit = true) (hne : digits ≠ [])
    (hhead : digits.head? ≠ some '0') : (ofExponent negative digits place).WellFormed := by
  refine ⟨fun c hc ↦ hdigits c (List.mem_of_mem_take hc), ?_, ?_,
    fun c hc ↦ hdigits c (List.mem_of_mem_drop hc), ?_⟩
  · rw [ofExponent, ne_eq, List.take_eq_nil_iff, not_or]
    exact ⟨one_ne_zero, hne⟩
  · intro h
    rw [ofExponent, List.head?_take, if_neg one_ne_zero] at h
    exact absurd h hhead
  · rintro e he
    cases he
    exact ⟨Nat.toDigits_ne_nil, isDigit_toDigits _⟩

theorem size_ofExponent (hne : digits ≠ []) : (ofExponent negative digits (place - 1)).size =
    natOf digits * 10 ^ (place - digits.length) := by
  have hlength := List.length_pos_of_ne_nil hne
  unfold size power ofExponent
  dsimp only
  rw [List.take_append_drop, natOf_toDigits, List.length_drop]
  congr 2
  split
  · rename_i hneg
    rw [decide_eq_true_eq] at hneg
    omega
  · rename_i hneg
    rw [decide_eq_true_eq] at hneg
    omega

theorem unsignedText_ofPlace (hne : digits ≠ []) : (ofPlace negative digits place).unsignedText =
    (Binary64.writePositional Json.realLayout.wholeEnd (String.ofList digits) place).toList := by
  unfold ofPlace Binary64.writePositional Binary64.zeros Json.realLayout
  rw [String.length_ofList]
  split
  · unfold unsignedText fractionText exponentText
    dsimp only
    rw [if_neg (List.append_ne_nil_of_right_ne_nil _ hne)]
    simp
  · split
    · unfold unsignedText fractionText exponentText
      simp
    · rename_i hlt
      have hdrop : digits.drop place.toNat ≠ [] := by
        rw [ne_eq, List.drop_eq_nil_iff]
        omega
      unfold unsignedText fractionText exponentText
      dsimp only
      rw [if_neg hdrop]
      simp

theorem unsignedText_ofExponent : (ofExponent negative digits place).unsignedText =
    (Binary64.writeScientific (String.ofList digits) place).toList := by
  unfold ofExponent Binary64.writeScientific unsignedText fractionText exponentText
  simp only [String.toList_ofList, String.toList_append, toList_repr, List.append_assoc,
    decide_eq_true_eq]
  have hempty : (String.ofList (digits.drop 1)).isEmpty = true ↔ digits.drop 1 = [] := by
    rw [String.isEmpty_iff, ← String.toList_inj, String.toList_ofList]
    rfl
  congr 2
  · simp only [hempty]
    split
    · rfl
    · rw [String.toList_append, String.toList_ofList (l := digits.drop 1)]
      rfl
  · split <;> rfl

end Layouts

section Reals

variable {x y : Binary64}

theorem digits_ne_zero (hx : x.isZero = false) (tie : Binary64.Tie) :
    (x.shortest tie).digits ≠ 0 := by
  intro hzero
  have hpos := Binary64.shortest_value_pos tie hx
  rw [Binary64.Decimal.value, hzero, Nat.cast_zero, zero_mul] at hpos
  exact lt_irrefl _ hpos

theorem value_eq (d : Binary64.Decimal) :
    d.value = natOf (Nat.toDigits 10 d.digits) *
      10 ^ (d.exponent + (Nat.toDigits 10 d.digits).length -
        (Nat.toDigits 10 d.digits).length) := by
  rw [natOf_toDigits, add_sub_cancel_right]
  rfl

theorem wellFormed_ofReal (x : Binary64) : (ofReal x).WellFormed := by
  unfold ofReal
  dsimp only
  split
  · exact ⟨isDigit_replicate_zero 1, nofun, fun _ ↦ rfl, isDigit_replicate_zero 1, nofun⟩
  · rename_i hzero
    rw [Bool.not_eq_true] at hzero
    have hhead := head?_toDigits (digits_ne_zero hzero Json.realLayout.tie)
    split
    · exact wellFormed_ofPlace (isDigit_toDigits _) Nat.toDigits_ne_nil hhead
    · exact wellFormed_ofExponent (isDigit_toDigits _) Nat.toDigits_ne_nil hhead

/-- A floating point number shows a point or an exponent. -/
theorem isWhole_ofReal (x : Binary64) : (ofReal x).isWhole = false := by
  unfold ofReal
  dsimp only
  split
  · rfl
  · split
    · exact isWhole_ofPlace Nat.toDigits_ne_nil
    · exact Bool.and_false _

theorem negative_ofReal (x : Binary64) : (ofReal x).negative = x.isNegative := by
  unfold ofReal ofPlace
  dsimp only
  split_ifs <;> rfl

theorem size_ofReal (x : Binary64) : (ofReal x).size = (x.shortest Json.realLayout.tie).value := by
  unfold ofReal
  dsimp only
  split
  · rename_i hzero
    rw [Binary64.shortest_value_eq_zero _ hzero]
    show ((0 : Nat) : ℚ) * _ = 0
    rw [Nat.cast_zero, zero_mul]
  · rw [value_eq]
    split
    · exact size_ofPlace
    · exact size_ofExponent Nat.toDigits_ne_nil

theorem text_ofReal (x : Binary64) : (ofReal x).text = (x.write Json.realLayout).toList := by
  have hsign : (if x.isNegative then "-" else "").toList = if x.isNegative then ['-'] else [] := by
    split <;> rfl
  rw [text, negative_ofReal, ← hsign]
  unfold Binary64.write ofReal
  dsimp only
  generalize (if x.isNegative then "-" else "") = sign
  rw [Nat.repr_eq_ofList_toDigits, String.length_ofList]
  split
  · rw [String.toList_append, String.toList_append, List.append_assoc]
    rfl
  · split
    · rw [String.toList_append, unsignedText_ofPlace Nat.toDigits_ne_nil]
    · rw [String.toList_append, unsignedText_ofExponent]

theorem ofReal_injective (h : ofReal x = ofReal y) : x = y := by
  have hsign : x.isNegative = y.isNegative := by
    rw [← negative_ofReal x, h, negative_ofReal]
  have hsize := congrArg size h
  rw [size_ofReal, size_ofReal] at hsize
  obtain ⟨hexponent, hfraction⟩ := Binary64.fields_eq_of_shortest hsize
  exact Binary64.eq_of_fields hsign hexponent hfraction

end Reals

end Numeral

end QueryCatalog
