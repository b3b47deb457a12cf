import Mathlib.Data.List.Basic
import QueryCatalog.Text.Case

namespace QueryCatalog.Text

def surrounding? (s : List Char) : Option Bool := (s.dropWhile isCaseIgnorable).head?.map isCased

/-- Whether a capital sigma ends a word. The characters before it are held in reverse. -/
def endsWord (before after : List Char) : Bool := startsCased before && !startsCased after

def sigmaForm (ends : Bool) : Char := if ends then finalSigma else smallSigma

theorem sigmaForm_injective : Function.Injective sigmaForm := by
  unfold Function.Injective
  decide

def lowerWithin (before after : List Char) : List Char → List Char
  | [] => []
  | c :: rest =>
    (if c = capitalSigma then [sigmaForm (endsWord before (rest ++ after))] else lowerChar c) ++
      lowerWithin (c :: before) after rest

def EachSigma (s : List Char) (P : List Char → List Char → Prop) : Prop :=
  ∀ p q, s = p ++ capitalSigma :: q → P p q

section Surroundings

theorem eachSigma_iff_getElem? (s : List Char) (P : List Char → List Char → Prop) :
    EachSigma s P ↔
      ∀ i < s.length, s[i]? = some capitalSigma → P (s.take i) (s.drop (i + 1)) := by
  constructor
  · intro h i hi hsigma
    apply h
    rw [List.getElem?_eq_getElem hi, Option.some_inj] at hsigma
    rw [← hsigma, List.getElem_cons_drop, List.take_append_drop]
  · rintro h p q rfl
    have hp := h p.length (by simp) (by simp)
    rwa [List.take_left, List.drop_length_add_append, List.drop_one, List.tail_cons] at hp

instance (s : List Char) (P : List Char → List Char → Prop) [∀ p q, Decidable (P p q)] :
    Decidable (EachSigma s P) :=
  decidable_of_iff _ (eachSigma_iff_getElem? s P).symm

theorem startsCased_eq (s : List Char) : startsCased s = (surrounding? s).getD false := by
  unfold startsCased surrounding?
  cases s.dropWhile isCaseIgnorable <;> rfl

theorem surrounding?_append (s t : List Char) :
    surrounding? (s ++ t) = (surrounding? s).or (surrounding? t) := by
  unfold surrounding?
  rw [List.dropWhile_append]
  cases s.dropWhile isCaseIgnorable <;> rfl

theorem surrounding?_sigma (s : List Char) : surrounding? (capitalSigma :: s) = some true := by
  have hcounts : isCaseIgnorable capitalSigma = false := by decide +kernel
  have hcased : isCased capitalSigma = true := by decide +kernel
  rw [surrounding?, List.dropWhile_cons_of_neg (by simp [hcounts]), List.head?_cons,
    Option.map_some, hcased]

theorem surrounding?_append_sigma (s t u : List Char) :
    surrounding? (s ++ capitalSigma :: t) = surrounding? (s ++ capitalSigma :: u) := by
  rw [surrounding?_append, surrounding?_append, surrounding?_sigma, surrounding?_sigma]

theorem sigma_notMem_of_surrounding?_eq_none {s : List Char} (h : surrounding? s = none) :
    capitalSigma ∉ s := by
  intro hmem
  obtain ⟨p, q, rfl⟩ := List.append_of_mem hmem
  rw [surrounding?_append, surrounding?_sigma] at h
  cases hp : surrounding? p <;> simp [hp] at h

theorem endsWord_congr {before before' after after' : List Char}
    (hb : surrounding? before = surrounding? before')
    (ha : surrounding? after = surrounding? after') :
    endsWord before after = endsWord before' after' := by
  simp only [endsWord, startsCased_eq, hb, ha]

end Surroundings

section Within

theorem lowerFrom_append (before s t : List Char) :
    lowerFrom before (s ++ t) = lowerWithin before t s ++ lowerFrom (s.reverse ++ before) t := by
  induction s generalizing before with
  | nil => rfl
  | cons c s ih =>
    rw [List.cons_append, lowerFrom, lowerWithin, ih, List.reverse_cons, List.append_assoc,
      List.append_assoc, List.singleton_append]
    split <;> rfl

theorem lowerFrom_eq (before s : List Char) : lowerFrom before s = lowerWithin before [] s := by
  have happend := lowerFrom_append before s []
  rwa [List.append_nil, lowerFrom, List.append_nil] at happend

theorem lowerFrom_between (before s after : List Char) :
    lowerFrom [] (before ++ s ++ after) = lowerWithin [] (s ++ after) before ++
      lowerWithin before.reverse after s ++ lowerFrom (s.reverse ++ before.reverse) after := by
  rw [List.append_assoc, lowerFrom_append, lowerFrom_append, List.append_nil, List.append_assoc]

theorem lowerWithin_append (before after s t : List Char) : lowerWithin before after (s ++ t) =
    lowerWithin before (t ++ after) s ++ lowerWithin (s.reverse ++ before) after t := by
  induction s generalizing before with
  | nil => rfl
  | cons c s ih =>
    rw [List.cons_append, lowerWithin, lowerWithin, ih, List.reverse_cons, List.append_assoc,
      List.append_assoc, List.append_assoc, List.singleton_append]

theorem lowerWithin_sigma (before after p q : List Char) :
    lowerWithin before after (p ++ capitalSigma :: q) =
      lowerWithin before (capitalSigma :: q ++ after) p ++
        sigmaForm (endsWord (p.reverse ++ before) (q ++ after)) ::
          lowerWithin (capitalSigma :: (p.reverse ++ before)) after q := by
  rw [lowerWithin_append, lowerWithin, if_pos rfl, List.singleton_append]

variable {before before' after after' s : List Char}

/-- Surroundings that give every capital sigma the same form give the same lower case. -/
theorem lowerWithin_congr (h : EachSigma s fun p q ↦
      endsWord (p.reverse ++ before) (q ++ after) = endsWord (p.reverse ++ before') (q ++ after')) :
    lowerWithin before after s = lowerWithin before' after' s := by
  induction s generalizing before before' with
  | nil => rfl
  | cons c s ih =>
    have hrest : lowerWithin (c :: before) after s = lowerWithin (c :: before') after' s := by
      apply ih
      intro p q hs
      simpa using h (c :: p) q (congrArg (c :: ·) hs)
    rw [lowerWithin, lowerWithin, hrest]
    split
    · rename_i hc
      have hform : endsWord before (s ++ after) = endsWord before' (s ++ after') :=
        h [] s (congrArg (· :: s) hc)
      rw [hform]
    · rfl

theorem lowerWithin_before_sigma (before p t u : List Char) :
    lowerWithin before (capitalSigma :: t) p = lowerWithin before (capitalSigma :: u) p :=
  lowerWithin_congr fun _ r _ ↦ endsWord_congr rfl (surrounding?_append_sigma r t u)

theorem lowerWithin_behind_sigma (after q t u : List Char) :
    lowerWithin (capitalSigma :: t) after q = lowerWithin (capitalSigma :: u) after q :=
  lowerWithin_congr fun r _ _ ↦ endsWord_congr (surrounding?_append_sigma r.reverse t u) rfl

theorem lowerWithin_of_sigma_notMem (h : capitalSigma ∉ s) :
    lowerWithin before after s = lowerWithin before' after' s :=
  lowerWithin_congr fun p q hs ↦ absurd (hs ▸ by simp : capitalSigma ∈ s) h

end Within

section Ascii

theorem toLower_alike (c : Char) : isCased c.toLower = isCased c ∧
    isCaseIgnorable c.toLower = isCaseIgnorable c ∧ lowerChar c.toLower = lowerChar c ∧
    (c.toLower = capitalSigma ↔ c = capitalSigma) := by
  have hletters : ∀ n ∈ List.range' 65 26,
      isCased (Char.ofNat n).toLower = isCased (Char.ofNat n) ∧
      isCaseIgnorable (Char.ofNat n).toLower = isCaseIgnorable (Char.ofNat n) ∧
      lowerChar (Char.ofNat n).toLower = lowerChar (Char.ofNat n) ∧
      ((Char.ofNat n).toLower = capitalSigma ↔ Char.ofNat n = capitalSigma) := by
    decide +kernel
  by_cases h : c.val ≥ 'A'.val ∧ c.val ≤ 'Z'.val
  · have hc := hletters c.toNat (by
      rw [List.mem_range'_1]
      exact ⟨h.1, Nat.lt_succ_of_le h.2⟩)
    rwa [Char.ofNat_toNat] at hc
  · have hsame : c.toLower = c := dif_neg h
    rw [hsame]
    exact ⟨rfl, rfl, rfl, Iff.rfl⟩

theorem startsCased_map_toLower (s : List Char) :
    startsCased (s.map Char.toLower) = startsCased s := by
  induction s with
  | nil => rfl
  | cons c s ih =>
    obtain ⟨hcased, hcounts, -, -⟩ := toLower_alike c
    simp only [startsCased, List.map_cons, List.dropWhile_cons, hcounts] at ih ⊢
    cases isCaseIgnorable c with
    | true => exact ih
    | false => exact hcased

theorem lowerFrom_map_toLower (before s : List Char) :
    lowerFrom (before.map Char.toLower) (s.map Char.toLower) = lowerFrom before s := by
  induction s generalizing before with
  | nil => rfl
  | cons c s ih =>
    obtain ⟨-, -, hlower, hsigma⟩ := toLower_alike c
    have hrest := ih (c :: before)
    rw [List.map_cons] at hrest
    simp only [List.map_cons, lowerFrom, startsCased_map_toLower, hlower, hsigma, hrest]

end Ascii

end QueryCatalog.Text
