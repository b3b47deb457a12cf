import QueryCatalog.Text.Visible
import Mathlib.Data.List.TakeWhile

namespace QueryCatalog.Text

section Stop

variable {p : Char → Bool} {s t : List Char}

theorem takeWhile_append_of_stop (hs : ∀ c ∈ s, p c) (ht : ∀ c ∈ t.head?, p c = false) :
    (s ++ t).takeWhile p = s := by
  rw [List.takeWhile_append_of_pos hs]
  cases t with
  | nil => exact List.append_nil s
  | cons c t => rw [List.takeWhile_cons_of_neg (by simp [ht c rfl]), List.append_nil]

theorem dropWhile_append_of_stop (hs : ∀ c ∈ s, p c) (ht : ∀ c ∈ t.head?, p c = false) :
    (s ++ t).dropWhile p = t := by
  rw [List.dropWhile_append_of_pos hs]
  cases t with
  | nil => rfl
  | cons c t => rw [List.dropWhile_cons_of_neg (by simp [ht c rfl])]

theorem stop_dropWhile (p : Char → Bool) (s : List Char) :
    ∀ c ∈ (s.dropWhile p).head?, p c = false := by
  intro c hc
  have := List.head?_dropWhile_not p s
  rw [Option.mem_def.mp hc] at this
  exact this

end Stop

/-- `text` is `core` with white space around it. -/
structure Padded (core text : List Char) : Prop where
  eq_append : ∃ left right, text = left ++ (core ++ right) ∧ (∀ c ∈ left, isBlank c) ∧
    ∀ c ∈ right, isBlank c
  head : ∀ c ∈ core.head?, isBlank c = false
  last : ∀ c ∈ core.getLast?, isBlank c = false

theorem trimLeft_append {left core : List Char} (hleft : ∀ c ∈ left, isBlank c)
    (hcore : ∀ c ∈ core.head?, isBlank c = false) : trimLeft (left ++ core) = core :=
  dropWhile_append_of_stop hleft hcore

theorem trimRight_append {core right : List Char} (hright : ∀ c ∈ right, isBlank c)
    (hcore : ∀ c ∈ core.getLast?, isBlank c = false) : trimRight (core ++ right) = core := by
  rw [trimRight, List.reverse_append, dropWhile_append_of_stop, List.reverse_reverse]
  · exact fun c hc ↦ hright c (List.mem_reverse.mp hc)
  · rwa [List.head?_reverse]

theorem padded_trim (text : List Char) : Padded (trim text) text := by
  have hcore : trim text ++ ((trimLeft text).reverse.takeWhile isBlank).reverse =
      trimLeft text := by
    rw [trim, trimRight, ← List.reverse_append, List.takeWhile_append_dropWhile,
      List.reverse_reverse]
  refine ⟨⟨text.takeWhile isBlank, ((trimLeft text).reverse.takeWhile isBlank).reverse,
    ?_, ?_, ?_⟩, ?_, ?_⟩
  · rw [hcore, trimLeft, List.takeWhile_append_dropWhile]
  · exact fun c hc ↦ List.mem_takeWhile_imp hc
  · exact fun c hc ↦ List.mem_takeWhile_imp (List.mem_reverse.mp hc)
  · intro c hc
    have hhead : (trimLeft text).head? = some c := by
      rw [← hcore, List.head?_append, Option.mem_def.mp hc, Option.some_or]
    exact stop_dropWhile isBlank text c hhead
  · intro c hc
    rw [trim, trimRight, List.getLast?_reverse] at hc
    exact stop_dropWhile isBlank _ c hc

theorem padded_iff {core text : List Char} : Padded core text ↔ trim text = core := by
  constructor
  · rintro ⟨⟨left, right, rfl, hleft, hright⟩, hhead, hlast⟩
    cases core with
    | nil =>
      have hblank : trimLeft (left ++ ([] ++ right)) = [] := by
        rw [trimLeft, List.dropWhile_eq_nil_iff]
        intro c hc
        rcases List.mem_append.mp hc with hc | hc
        · exact hleft c hc
        · exact hright c hc
      rw [trim, hblank]
      rfl
    | cons c core =>
      rw [trim, trimLeft_append hleft (by exact hhead), trimRight_append hright hlast]
  · rintro rfl
    exact padded_trim text

end QueryCatalog.Text
