import Mathlib.Data.Finset.Card

namespace QueryCatalog

variable {κ : Type}

theorem takeWhile_filter {p q : κ → Bool} (h : ∀ x, q x = false → p x = true) (l : List κ) :
    (l.filter p).takeWhile q = (l.takeWhile q).filter p := by
  induction l with
  | nil => rfl
  | cons x l ih =>
    cases hq : q x with
    | false => simp [h x hq, hq]
    | true =>
      cases hp : p x with
      | false => simp [hp, hq, ih]
      | true => simp [hp, hq, ih]

variable [DecidableEq κ]

/-- The keys of a list of uses, the latest use first, in the order of their last use. -/
def lastUses : List κ → List κ
  | [] => []
  | k :: uses => k :: (lastUses uses).filter (· ≠ k)

theorem mem_lastUses {k : κ} {uses : List κ} : k ∈ lastUses uses ↔ k ∈ uses := by
  induction uses with
  | nil => rfl
  | cons k' uses ih =>
    rw [lastUses, List.mem_cons, List.mem_filter, ih, List.mem_cons]
    by_cases hk : k = k' <;> simp [hk]

theorem nodup_lastUses (uses : List κ) : (lastUses uses).Nodup := by
  induction uses with
  | nil => exact .nil
  | cons k uses ih =>
    rw [lastUses, List.nodup_cons]
    exact ⟨by simp, ih.filter _⟩

theorem mem_takeWhile_lastUses {k x : κ} {uses : List κ} :
    x ∈ (lastUses uses).takeWhile (· ≠ k) ↔ x ∈ uses.takeWhile (· ≠ k) := by
  induction uses with
  | nil => rfl
  | cons k' uses ih =>
    by_cases hk : k' = k
    · simp [lastUses, hk]
    · have hfilter : ((lastUses uses).filter (· ≠ k')).takeWhile (· ≠ k) =
          ((lastUses uses).takeWhile (· ≠ k)).filter (· ≠ k') := by
        refine takeWhile_filter (fun y hy ↦ ?_) _
        have hyk : y = k := by simpa using hy
        simpa [hyk] using Ne.symm hk
      rw [lastUses, List.takeWhile_cons_of_pos (by simpa using hk),
        List.takeWhile_cons_of_pos (by simpa using hk), hfilter, List.mem_cons, List.mem_cons,
        List.mem_filter, ih]
      by_cases hx : x = k' <;> simp [hx]

theorem mem_take_iff {k : κ} {l : List κ} {n : Nat} :
    k ∈ l.take n ↔ k ∈ l ∧ (l.takeWhile (· ≠ k)).length < n := by
  induction l generalizing n with
  | nil => simp
  | cons x l ih =>
    cases n with
    | zero => simp
    | succ n =>
      rw [List.take_succ_cons, List.mem_cons, ih, List.mem_cons]
      by_cases hk : k = x
      · simp [hk]
      · rw [List.takeWhile_cons_of_pos (by simpa using Ne.symm hk), List.length_cons]
        simp [hk]

/-- The place of a key in the order of last uses is the number of keys used since. -/
theorem length_takeWhile_lastUses (k : κ) (uses : List κ) :
    ((lastUses uses).takeWhile (· ≠ k)).length = (uses.takeWhile (· ≠ k)).toFinset.card := by
  rw [← List.toFinset_card_of_nodup ((nodup_lastUses uses).sublist (List.takeWhile_sublist _))]
  congr 1
  ext x
  rw [List.mem_toFinset, List.mem_toFinset, mem_takeWhile_lastUses]

theorem filter_ne_of_notMem {k : κ} {l : List κ} (h : k ∉ l) : l.filter (· ≠ k) = l := by
  refine List.filter_eq_self.mpr fun x hx ↦ ?_
  have hne : x ≠ k := fun heq ↦ h (heq ▸ hx)
  simpa using hne

theorem take_cons_filter_take {l : List κ} (hl : l.Nodup) (k : κ) (n : Nat) :
    (k :: (l.take n).filter (· ≠ k)).take n = (k :: l.filter (· ≠ k)).take n := by
  cases n with
  | zero => rfl
  | succ n =>
    rw [List.take_succ_cons, List.take_succ_cons, List.cons_inj_right]
    induction l generalizing n with
    | nil => rfl
    | cons x l ih =>
      obtain ⟨hx, hl⟩ := List.nodup_cons.mp hl
      rw [List.take_succ_cons]
      by_cases hk : x = k
      · subst hk
        rw [List.filter_cons_of_neg (by simp), List.filter_cons_of_neg (by simp),
          filter_ne_of_notMem hx, filter_ne_of_notMem fun hmem ↦ hx (List.mem_of_mem_take hmem),
          List.take_take, Nat.min_self]
      · rw [List.filter_cons_of_pos (by simpa using hk),
          List.filter_cons_of_pos (by simpa using hk)]
        cases n with
        | zero => rfl
        | succ n => rw [List.take_succ_cons, List.take_succ_cons, ih hl n]

theorem length_lastUses (uses : List κ) : (lastUses uses).length = uses.toFinset.card := by
  rw [← List.toFinset_card_of_nodup (nodup_lastUses uses)]
  congr 1
  ext x
  rw [List.mem_toFinset, List.mem_toFinset, mem_lastUses]

end QueryCatalog
