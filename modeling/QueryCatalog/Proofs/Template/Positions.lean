import QueryCatalog.Proofs.Template.Locality
import QueryCatalog.Template.Walk

namespace QueryCatalog.Template

open Walk

def units (c : Char) : List Char := (String.utf8EncodeChar c).map Char.ofUInt8

/-- The class does not tell the characters beyond ASCII apart. -/
def Coarse (p : Char → Bool) : Prop := ∀ c d, 128 ≤ c.toNat → 128 ≤ d.toNat → p c = p d

/-- A character starts at `pos`, or the text ends there, and `s` is what is left of the text. -/
def Ahead (text : String) (pos : Nat) (s : List Char) : Prop :=
  ∃ before, text.toList = before ++ s ∧ byteLength before = pos

section Units

variable {c b : Char} {p : Char → Bool}

theorem octets_eq (text : String) : octets text = text.toList.flatMap units := by
  have hbytes : text.toByteArray = text.toList.utf8Encode := by
    rw [← String.toByteArray_ofList, String.ofList_toList]
  rw [octets, hbytes, List.utf8Encode, List.toList_data_toByteArray, List.map_flatMap]
  rfl

theorem length_units (c : Char) : (units c).length = c.utf8Size := by
  rw [units, List.length_map, String.length_utf8EncodeChar]

theorem toNat_ofUInt8 (n : UInt8) : (Char.ofUInt8 n).toNat = n.toNat := rfl

theorem units_of_lt (hc : c.toNat < 128) : units c = [c] := by
  have hle : c.val.toNat ≤ 127 := Nat.le_of_lt_succ hc
  rw [units, String.utf8EncodeChar, if_pos hle, List.map_singleton]
  refine congrArg (fun d ↦ [d]) (Char.toNat_inj.mp ?_)
  rw [toNat_ofUInt8, UInt8.toNat_ofNat']
  exact Nat.mod_eq_of_lt (by omega)

theorem utf8Size_of_lt (hc : c.toNat < 128) : c.utf8Size = 1 := by
  rw [← length_units, units_of_lt hc]
  rfl

theorem le_of_mem_units (hc : 128 ≤ c.toNat) (hb : b ∈ units c) : 128 ≤ b.toNat := by
  have hlt : ¬ c.val.toNat ≤ 127 := by
    change ¬ c.toNat ≤ 127
    omega
  obtain ⟨n, hn, rfl⟩ := List.mem_map.mp hb
  rw [toNat_ofUInt8]
  rw [String.utf8EncodeChar, if_neg hlt] at hn
  split at hn
  · simp only [List.mem_cons, List.not_mem_nil, or_false] at hn
    rcases hn with rfl | rfl <;> simp only [UInt8.toNat_ofNat'] <;> omega
  · split at hn
    · simp only [List.mem_cons, List.not_mem_nil, or_false] at hn
      rcases hn with rfl | rfl | rfl <;> simp only [UInt8.toNat_ofNat'] <;> omega
    · simp only [List.mem_cons, List.not_mem_nil, or_false] at hn
      rcases hn with rfl | rfl | rfl | rfl <;> simp only [UInt8.toNat_ofNat'] <;> omega

theorem coarse_of_lt (h : ∀ c, p c → c.toNat < 128) : Coarse p := by
  have hfalse : ∀ c : Char, 128 ≤ c.toNat → p c = false := by
    intro c hc
    by_contra hp
    have := h c (Bool.of_not_eq_false hp)
    omega
  exact fun c d hc hd ↦ (hfalse c hc).trans (hfalse d hd).symm

theorem coarse_beq {x : Char} (hx : x.toNat < 128) : Coarse (· == x) :=
  coarse_of_lt fun c hc ↦ by rwa [eq_of_beq hc]

theorem Coarse.not (hp : Coarse p) : Coarse fun c ↦ !p c :=
  fun c d hc hd ↦ congrArg _ (hp c d hc hd)

theorem isNameChar_lt (h : isNameChar c) : c.toNat < 128 := by
  have hranges : isNameChar c = (decide (c.val ≥ 'A'.val ∧ c.val ≤ 'Z'.val) ||
      decide (c.val ≥ 'a'.val) && decide (c.val ≤ 'z'.val) ||
        decide (c.val ≥ '0'.val) && decide (c.val ≤ '9'.val) || c == '_') := rfl
  simp only [hranges, Bool.or_eq_true, Bool.and_eq_true, decide_eq_true_eq, beq_iff_eq] at h
  rcases h with ((⟨-, h⟩ | ⟨-, h⟩) | ⟨-, h⟩) | rfl
  · exact Nat.lt_of_le_of_lt (UInt32.le_iff_toNat_le.mp h) (by decide)
  · exact Nat.lt_of_le_of_lt (UInt32.le_iff_toNat_le.mp h) (by decide)
  · exact Nat.lt_of_le_of_lt (UInt32.le_iff_toNat_le.mp h) (by decide)
  · decide

theorem isQuote_lt (h : isQuote c) : c.toNat < 128 := by
  simp only [isQuote, Bool.or_eq_true, beq_iff_eq] at h
  rcases h with (rfl | rfl) | rfl <;> decide

theorem ne_of_le {x : Char} (hc : 128 ≤ c.toNat) (hx : x.toNat < 128) : c ≠ x := by
  rintro rfl
  omega

theorem not_isQuote_of_le (hc : 128 ≤ c.toNat) : ¬ isQuote c = true := by
  intro h
  have := isQuote_lt h
  omega

theorem isEscapable_lt (h : isEscapable c) : c.toNat < 128 := by
  simp only [isEscapable, Bool.or_eq_true, beq_iff_eq] at h
  rcases h with (rfl | rfl) | rfl <;> decide

theorem coarse_isNameChar : Coarse isNameChar := coarse_of_lt fun _ ↦ isNameChar_lt

theorem coarse_isNameStart : Coarse isNameStart :=
  coarse_of_lt fun _ h ↦ isNameChar_lt (isNameChar_of_isNameStart h)

theorem coarse_isQuote : Coarse isQuote := coarse_of_lt fun _ ↦ isQuote_lt

theorem coarse_isEscapable : Coarse isEscapable := coarse_of_lt fun _ ↦ isEscapable_lt

theorem Coarse.eq_of_mem_units (hp : Coarse p) (hb : b ∈ units c) : p b = p c := by
  rcases Nat.lt_or_ge c.toNat 128 with hc | hc
  · rw [units_of_lt hc, List.mem_singleton] at hb
    rw [hb]
  · exact hp b c (le_of_mem_units hc hb) hc

theorem ne_of_mem_units {x : Char} (hx : x.toNat < 128) (hb : b ∈ units c) (hc : c ≠ x) :
    b ≠ x := by
  have hbx := (coarse_beq hx).eq_of_mem_units hb
  rwa [beq_eq_false_iff_ne.mpr hc, beq_eq_false_iff_ne] at hbx

theorem Coarse.all_units (hp : Coarse p) (c : Char) : (units c).all p = p c := by
  have hne : units c ≠ [] := by
    rw [← List.length_pos_iff, length_units]
    exact c.utf8Size_pos
  obtain ⟨b, bs, hunits⟩ := List.exists_cons_of_ne_nil hne
  rw [Bool.eq_iff_iff, List.all_eq_true]
  constructor
  · intro hall
    have hb : b ∈ units c := hunits ▸ List.mem_cons_self
    rw [← hp.eq_of_mem_units hb]
    exact hall b hb
  · intro hpc b hb
    rwa [hp.eq_of_mem_units hb]

end Units

theorem byteLength_cons (c : Char) (s : List Char) :
    byteLength (c :: s) = c.utf8Size + byteLength s := rfl

theorem length_flatMap_units (s : List Char) : (s.flatMap units).length = byteLength s := by
  induction s with
  | nil => rfl
  | cons c s ih =>
    rw [List.flatMap_cons, List.length_append, length_units, ih, byteLength_cons]

theorem utf8ByteSize_ofList (s : List Char) : (String.ofList s).utf8ByteSize = byteLength s := by
  rw [← length_flatMap_units, ← String.size_toByteArray, String.toByteArray_ofList, List.utf8Encode,
    List.size_toByteArray, List.length_flatMap, List.length_flatMap]
  simp only [units, List.length_map]

section Ahead

variable {text : String} {pos i : Nat} {c : Char} {s t : List Char} {p : Char → Bool}

theorem ahead_start (text : String) : Ahead text 0 text.toList := ⟨[], rfl, rfl⟩

theorem Ahead.behind (h : Ahead text pos (s ++ t)) : Ahead text (pos + byteLength s) t := by
  obtain ⟨before, htext, rfl⟩ := h
  exact ⟨before ++ s, by rw [htext, List.append_assoc], byteLength_append before s⟩

theorem Ahead.next (h : Ahead text pos (c :: s)) : Ahead text (pos + c.utf8Size) s :=
  Ahead.behind (s := [c]) h

theorem Ahead.dropWhile (h : Ahead text pos s) (p : Char → Bool) :
    Ahead text (pos + byteLength (s.takeWhile p)) (s.dropWhile p) := by
  refine Ahead.behind ?_
  rwa [List.takeWhile_append_dropWhile]

theorem Ahead.size_eq (h : Ahead text pos s) : size text = pos + byteLength s := by
  obtain ⟨before, htext, rfl⟩ := h
  rw [size, octets_eq, htext, length_flatMap_units, byteLength_append]

theorem Ahead.peek_eq (h : Ahead text pos s) (i : Nat) :
    peek text (pos + i) = (s.flatMap units)[i]? := by
  obtain ⟨before, htext, rfl⟩ := h
  rw [peek, octets_eq, htext, List.flatMap_append, ← length_flatMap_units,
    List.getElem?_append_right (Nat.le_add_right _ i), Nat.add_sub_cancel_left]

theorem Ahead.isValid (h : Ahead text pos s) : String.Pos.Raw.IsValid text ⟨pos⟩ := by
  obtain ⟨before, htext, rfl⟩ := h
  refine String.Pos.Raw.isValid_iff_exists_append.mpr ⟨.ofList before, .ofList s, ?_, ?_⟩
  · rw [← String.ofList_append, ← htext, String.ofList_toList]
  · rw [← utf8ByteSize_ofList]
    rfl

theorem Ahead.cut_eq (h : Ahead text pos (s ++ t)) :
    cut text pos (pos + byteLength s) = .ok (String.ofList s) := by
  have hsize : ∀ l : List Char, byteLength l = l.utf8Encode.size := by
    intro l
    rw [← utf8ByteSize_ofList, ← String.size_toByteArray, String.toByteArray_ofList]
  rw [cut, dif_pos ⟨Nat.le_add_right pos (byteLength s), h.isValid, h.behind.isValid⟩]
  refine congrArg _ (String.toByteArray_inj.mp ?_)
  rw [String.toByteArray_extract, String.toByteArray_ofList]
  obtain ⟨before, htext, rfl⟩ := h
  have hbytes : text.toByteArray = before.utf8Encode ++ (s.utf8Encode ++ t.utf8Encode) := by
    rw [← List.utf8Encode_append, ← List.utf8Encode_append, ← htext, ← String.toByteArray_ofList,
      String.ofList_toList]
  simp only [String.offset_pos]
  rw [hbytes, hsize before, hsize s, ← Nat.add_zero before.utf8Encode.size, Nat.add_assoc,
    ByteArray.extract_append_size_add, Nat.zero_add, ByteArray.extract_append_eq_left rfl]

theorem Ahead.exists_peek (h : Ahead text pos (c :: s)) (hi : i < c.utf8Size) :
    ∃ b ∈ units c, peek text (pos + i) = some b := by
  rw [← length_units] at hi
  refine ⟨(units c)[i], List.getElem_mem hi, ?_⟩
  rw [h.peek_eq, List.flatMap_cons, List.getElem?_append_left hi, List.getElem?_eq_getElem hi]

theorem Ahead.any_peek (hp : Coarse p) (h : Ahead text pos s) :
    (peek text pos).any p = s.head?.any p := by
  cases s with
  | nil =>
    have hnone : peek text pos = none := h.peek_eq 0
    rw [hnone]
    rfl
  | cons c s =>
    obtain ⟨b, hb, hpeek⟩ := h.exists_peek c.utf8Size_pos
    rw [Nat.add_zero] at hpeek
    rw [hpeek]
    exact hp.eq_of_mem_units hb

theorem Ahead.peek_eq_some_iff {x : Char} (h : Ahead text pos s) (hx : x.toNat < 128) :
    peek text pos = some x ↔ s.head? = some x := by
  have hany : ∀ o : Option Char, o.any (· == x) = true ↔ o = some x := by
    intro o
    cases o <;> simp
  rw [← hany, h.any_peek (coarse_beq hx), hany]

theorem Ahead.peek_of_lt (h : Ahead text pos (c :: s)) (hc : c.toNat < 128) :
    peek text pos = some c := (h.peek_eq_some_iff hc).mpr rfl

/-- Two bytes stand one after the other only where two characters do. -/
theorem Ahead.not_pair {x y : Char} (h : Ahead text pos (c :: s)) (hx : x.toNat < 128)
    (hy : y.toNat < 128) (hpair : ∀ r, c = x → s ≠ y :: r) {b : Char} (hle : pos ≤ i)
    (hi : i < pos + c.utf8Size) (hb : b ∈ units c) : ¬ (b = x ∧ peek text (i + 1) = some y) := by
  rintro ⟨rfl, hnext⟩
  have hc : c = b := by
    by_contra hc
    exact ne_of_mem_units hx hb hc rfl
  subst hc
  have hsize := utf8Size_of_lt hx
  obtain rfl : i = pos := by omega
  have hbehind := h.next
  rw [hsize] at hbehind
  obtain ⟨r, hr⟩ := List.head?_eq_some_iff.mp ((hbehind.peek_eq_some_iff hy).mp hnext)
  exact hpair r rfl hr

theorem byteAt_of_peek (h : peek text pos = some c) : byteAt text pos = .ok c := by
  rw [byteAt, h]

theorem Ahead.lt_size (h : Ahead text pos (c :: s)) (hi : i < pos + c.utf8Size) :
    i < size text := by
  rw [h.size_eq, byteLength_cons]
  omega

end Ahead

/-- From this state a loop ends with the result, and `k` rounds and one more are enough. -/
def Ends {σ α : Type} (round : σ → Except Stop (σ ⊕ α)) (st : σ) (k : Nat) (r : Except Stop α) :
    Prop :=
  ∀ rounds, k < rounds → loop round rounds st = r

section Ends

variable {σ α : Type} {round : σ → Except Stop (σ ⊕ α)} {st st' : σ} {k m n : Nat}
  {r : Except Stop α} {text : String} {pos : Nat} {c : Char} {s : List Char}

theorem Ends.done {a : α} (h : round st = .ok (.inr a)) (k : Nat) : Ends round st k (.ok a) := by
  intro rounds hk
  obtain ⟨rounds, rfl⟩ := Nat.exists_eq_succ_of_ne_zero (Nat.ne_zero_of_lt hk)
  rw [loop, h]
  rfl

theorem Ends.stop {e : Stop} (h : round st = .error e) (k : Nat) :
    Ends round st k (.error e) := by
  intro rounds hk
  obtain ⟨rounds, rfl⟩ := Nat.exists_eq_succ_of_ne_zero (Nat.ne_zero_of_lt hk)
  rw [loop, h]
  rfl

theorem Ends.next (h : round st = .ok (.inl st')) (hends : Ends round st' k r) (hk : k < m) :
    Ends round st m r := by
  intro rounds hm
  obtain ⟨rounds, rfl⟩ := Nat.exists_eq_succ_of_ne_zero (Nat.ne_zero_of_lt hm)
  rw [loop, h]
  exact hends rounds (by omega)

theorem Ends.behind {t : List Char} (h : round st = .ok (.inl st')) (hs : s ≠ [])
    (hends : Ends round st' (byteLength t) r) : Ends round st (byteLength (s ++ t)) r := by
  obtain ⟨c, s, rfl⟩ := List.exists_cons_of_ne_nil hs
  have hpos := c.utf8Size_pos
  refine .next h hends ?_
  rw [byteLength_append, byteLength_cons]
  omega

theorem Ends.pass {f : Nat → σ} (h : ∀ i < n, round (f i) = .ok (.inl (f (i + 1))))
    (hends : Ends round (f n) k r) (hm : n + k ≤ m) : Ends round (f 0) m r := by
  induction n generalizing f m with
  | zero => exact fun rounds hrounds ↦ hends rounds (by omega)
  | succ n ih =>
    have hrest : Ends round (f 1) (n + k) r :=
      ih (f := fun i ↦ f (i + 1)) (fun i hi ↦ h (i + 1) (by omega)) hends le_rfl
    exact .next (h 0 (Nat.succ_pos n)) hrest (by omega)

theorem Ahead.loopOver_eq (h : Ahead text pos s) (hends : Ends round st (byteLength s) r) :
    loopOver text round st = r := by
  refine hends _ ?_
  rw [h.size_eq]
  omega

theorem Ahead.ends_char {f : Nat → σ} (h : Ahead text pos (c :: s))
    (hround : ∀ i b, pos ≤ i → i < pos + c.utf8Size → peek text i = some b → b ∈ units c →
      round (f i) = .ok (.inl (f (i + 1))))
    (hends : Ends round (f (pos + c.utf8Size)) (byteLength s) r) :
    Ends round (f pos) (byteLength (c :: s)) r := by
  refine Ends.pass (f := fun i ↦ f (pos + i)) (fun i hi ↦ ?_) hends le_rfl
  obtain ⟨b, hb, hpeek⟩ := h.exists_peek hi
  exact hround (pos + i) b (by omega) (by omega) hpeek hb

end Ends

end QueryCatalog.Template
