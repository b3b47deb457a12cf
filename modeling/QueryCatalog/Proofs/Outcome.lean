import Mathlib.Data.List.Forall2

namespace QueryCatalog.Outcome

variable {ε ε' α β : Type}

theorem bind_eq_ok_iff {r : Except ε α} {f : α → Except ε β} {b : β} :
    (r >>= f) = .ok b ↔ ∃ a, r = .ok a ∧ f a = .ok b := by
  cases r <;> simp [bind, Except.bind]

theorem bind_eq_error_iff {r : Except ε α} {f : α → Except ε β} {e : ε} :
    (r >>= f) = .error e ↔ r = .error e ∨ ∃ a, r = .ok a ∧ f a = .error e := by
  cases r <;> simp [bind, Except.bind]

theorem map_eq_ok_iff {r : Except ε α} {f : α → β} {b : β} :
    r.map f = .ok b ↔ ∃ a, r = .ok a ∧ f a = b := by
  cases r <;> simp [Except.map]

theorem mapError_eq_ok_iff {r : Except ε α} {f : ε → ε'} {a : α} :
    r.mapError f = .ok a ↔ r = .ok a := by
  cases r <;> simp [Except.mapError]

theorem mapError_eq_error_iff {r : Except ε α} {f : ε → ε'} {e' : ε'} :
    r.mapError f = .error e' ↔ ∃ e, r = .error e ∧ f e = e' := by
  cases r <;> simp [Except.mapError]

theorem map_eq_error_iff {r : Except ε α} {f : α → β} {e : ε} :
    r.map f = .error e ↔ r = .error e := by
  cases r <;> simp [Except.map]

/-- The computation fails on an element of a list, and on none in front of it. -/
def FirstFails (f : α → Except ε β) (as : List α) (e : ε) : Prop :=
  ∃ before a after, as = before ++ a :: after ∧ (∀ a' ∈ before, ∃ b, f a' = .ok b) ∧
    f a = .error e

theorem firstFails_cons_iff {f : α → Except ε β} {a : α} {as : List α} {e : ε} :
    FirstFails f (a :: as) e ↔ f a = .error e ∨ (∃ b, f a = .ok b) ∧ FirstFails f as e := by
  constructor
  · rintro ⟨before, a', after, hsplit, hbefore, hfail⟩
    cases before with
    | nil =>
      cases hsplit
      exact Or.inl hfail
    | cons _ before =>
      cases hsplit
      obtain ⟨hhead, hbefore⟩ := List.forall_mem_cons.mp hbefore
      exact Or.inr ⟨hhead, before, a', after, rfl, hbefore, hfail⟩
  · rintro (hfail | ⟨hhead, before, a', after, rfl, hbefore, hfail⟩)
    · exact ⟨[], a, as, rfl, nofun, hfail⟩
    · exact ⟨a :: before, a', after, rfl, List.forall_mem_cons.mpr ⟨hhead, hbefore⟩, hfail⟩

theorem exists_firstFails_iff {f : α → Except ε β} {as : List α} :
    (∃ e, FirstFails f as e) ↔ ∃ a ∈ as, ∃ e, f a = .error e := by
  constructor
  · rintro ⟨e, before, a, after, rfl, -, hfail⟩
    exact ⟨a, List.mem_append_right _ List.mem_cons_self, e, hfail⟩
  · rintro ⟨a, hmem, e, hfail⟩
    induction as with
    | nil => cases hmem
    | cons a' as ih =>
      cases ha' : f a' with
      | error e' => exact ⟨e', firstFails_cons_iff.mpr (Or.inl ha')⟩
      | ok b =>
        have hne : a ≠ a' := by
          rintro rfl
          cases ha'.symm.trans hfail
        obtain ⟨e', h⟩ := ih ((List.mem_cons.mp hmem).resolve_left hne)
        exact ⟨e', firstFails_cons_iff.mpr (Or.inr ⟨⟨b, ha'⟩, h⟩)⟩

theorem mapM_eq_error_iff {f : α → Except ε β} {as : List α} {e : ε} :
    as.mapM f = .error e ↔ FirstFails f as e := by
  induction as with
  | nil =>
    constructor
    · nofun
    · rintro ⟨before, a, after, hsplit, -⟩
      simp at hsplit
  | cons a as ih =>
    rw [List.mapM_cons, firstFails_cons_iff, ← ih]
    cases hfa : f a with
    | error e' => simp [bind, Except.bind]
    | ok b => cases hrest : as.mapM f <;> simp [bind, Except.bind, pure, Except.pure]

theorem mapM_eq_map {m : Type → Type} [Monad m] [LawfulMonad m] {f : α → m β} {g : α → β}
    {as : List α} (h : ∀ a ∈ as, f a = pure (g a)) : as.mapM f = pure (as.map g) := by
  induction as with
  | nil => rfl
  | cons a as ih =>
    obtain ⟨ha, has⟩ := List.forall_mem_cons.mp h
    rw [List.mapM_cons, ha, ih has, pure_bind, pure_bind, List.map_cons]

theorem mapM_congr {f g : α → Except ε β} {as : List α} (h : ∀ a ∈ as, f a = g a) :
    as.mapM f = as.mapM g := by
  induction as with
  | nil => rfl
  | cons a as ih =>
    obtain ⟨ha, has⟩ := List.forall_mem_cons.mp h
    rw [List.mapM_cons, List.mapM_cons, ha, ih has]

theorem exists_ok_iff {r : Except ε α} : (∃ a, r = .ok a) ↔ ∀ e, r ≠ .error e := by
  cases r <;> simp

theorem exists_mapM_error_iff {f : α → Except ε β} {as : List α} :
    (∃ e, as.mapM f = .error e) ↔ ∃ a ∈ as, ∃ e, f a = .error e := by
  simp only [mapM_eq_error_iff, exists_firstFails_iff]

theorem exists_mapM_ok_iff {f : α → Except ε β} {as : List α} :
    (∃ bs, as.mapM f = .ok bs) ↔ ∀ a ∈ as, ∃ b, f a = .ok b := by
  simp only [exists_ok_iff, ne_eq, ← not_exists, exists_mapM_error_iff]
  simp only [not_exists, not_and]

theorem forall₂_of_mapM {f : α → Except ε β} {as : List α} {bs : List β}
    (h : as.mapM f = .ok bs) : List.Forall₂ (fun a b ↦ f a = .ok b) as bs := by
  induction as generalizing bs with
  | nil =>
    cases h
    exact .nil
  | cons a as ih =>
    rw [List.mapM_cons] at h
    obtain ⟨b, hb, h⟩ := bind_eq_ok_iff.mp h
    obtain ⟨bs', hbs, h⟩ := bind_eq_ok_iff.mp h
    cases h
    exact .cons hb (ih hbs)

theorem exists_getElem?_of_forall₂ {R : α → β → Prop} {as : List α} {bs : List β}
    (h : List.Forall₂ R as bs) {i : Nat} {b : β} (hb : bs[i]? = some b) :
    ∃ a, as[i]? = some a ∧ R a b := by
  induction h generalizing i with
  | nil => cases hb
  | cons hhead _ ih =>
    cases i with
    | zero =>
      cases hb
      exact ⟨_, rfl, hhead⟩
    | succ i => exact ih hb

theorem exists_of_forall₂ {R : α → β → Prop} {as : List α} {bs : List β}
    (h : List.Forall₂ R as bs) {b : β} (hmem : b ∈ bs) : ∃ a ∈ as, R a b := by
  obtain ⟨i, hb⟩ := List.mem_iff_getElem?.mp hmem
  obtain ⟨a, ha, hab⟩ := exists_getElem?_of_forall₂ h hb
  exact ⟨a, List.mem_of_getElem? ha, hab⟩

end QueryCatalog.Outcome
