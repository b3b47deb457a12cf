import QueryCatalog.Proofs.Binding.MarkPlaces

namespace QueryCatalog

open ScanMode

namespace Binding

/-- The values that one occurrence of a parameter with the value `v` owns, in the order of their
marks. -/
inductive OwnedValues (p : Parameter) (opts : BindOptions) (v : Value) : List BoundValue → Prop
  | elements {items : List Value} {bound : List BoundValue} :
      v.items? = some items → opts.isSingle p = false → items ≠ [] →
      bound.map BoundValue.value = items →
      bound.map BoundValue.index? = (List.range items.length).map some →
      (∀ b ∈ bound, b.label = p.label) → OwnedValues p opts v bound
  | emptyList : v.items? = some [] → opts.isSingle p = false → OwnedValues p opts v []
  | whole : v.items? = none ∨ opts.isSingle p = true → OwnedValues p opts v [⟨v, p.label, none⟩]

def TokenOwns (resolver : Resolver) (ctx : Context) (opts : BindOptions) (now : Int) :
    Token → Piece → Prop
  | .parameter p, piece => ∃ v, resolve resolver p ctx opts now = .ok v ∧
      OwnedValues p opts v piece.bound
  | _, piece => piece.bound = []

variable {resolver : Resolver} {ctx : Context} {opts : BindOptions} {now : Int}

theorem OwnedValues.label_eq {p : Parameter} {v : Value} {bound : List BoundValue}
    (h : OwnedValues p opts v bound) {b : BoundValue} (hb : b ∈ bound) : b.label = p.label := by
  cases h with
  | elements _ _ _ _ _ hlabel => exact hlabel b hb
  | emptyList => cases hb
  | whole => rw [List.mem_singleton.mp hb]

theorem ownedValues_expand (p : Parameter) (v : Value) :
    OwnedValues p opts v (expand p opts v).bound := by
  unfold expand
  split
  · rename_i hitems hsingle
    exact .emptyList hitems hsingle
  · rename_i items hne hitems hsingle
    refine .elements hitems hsingle hne ?_ ?_ ?_
    · rw [numbered, List.map_map]
      exact List.zipIdx_map_fst 0 items
    · rw [numbered, List.map_map, List.range_eq_range', ← List.zipIdx_map_snd 0 items, List.map_map]
      rfl
    · intro b hb
      obtain ⟨e, -, rfl⟩ := List.mem_map.mp hb
      rfl
  · rename_i hlist
    refine .whole ?_
    cases hitems : v.items? with
    | none => exact Or.inl rfl
    | some items => exact Or.inr (Bool.of_not_eq_false (hlist items hitems))

theorem tokenOwns_of_render {token : Token} {piece : Piece}
    (h : render resolver ctx opts now token = .ok piece) :
    TokenOwns resolver ctx opts now token piece := by
  cases token with
  | parameter p =>
    obtain ⟨v, hv, rfl⟩ := Outcome.map_eq_ok_iff.mp h
    exact ⟨v, hv, ownedValues_expand p v⟩
  | literal | escaped | slot =>
    cases h
    rfl

theorem renderAll_eq_ok {t : Template} {plan : Plan}
    (h : renderAll resolver t ctx opts now = .ok plan) :
    ∃ pieces, List.Forall₂ (fun token piece ↦ render resolver ctx opts now token = .ok piece)
      t.tokens pieces ∧ plan = assemble pieces := by
  obtain ⟨pieces, hpieces, rfl⟩ := Outcome.map_eq_ok_iff.mp h
  exact ⟨pieces, Outcome.forall₂_of_mapM hpieces, rfl⟩

theorem toList_assemble_sql (pieces : List Piece) :
    (assemble pieces).sql.toList = pieces.flatMap fun piece ↦ piece.text.toList := by
  rw [assemble, String.toList_join, List.flatMap_map]

theorem length_ownedPlaces (separator : String) (n : Nat) (pieces : List Piece) :
    (ownedPlaces separator n pieces).length = (pieces.flatMap Piece.bound).length := by
  induction pieces generalizing n with
  | nil => rfl
  | cons piece pieces ih =>
    rw [ownedPlaces, List.length_append, ih, Piece.places, List.length_map, List.length_range,
      List.flatMap_cons, List.length_append]

theorem rendered_of_forall₂ {tokens : List Token} {pieces : List Piece}
    (h : List.Forall₂ (fun token piece ↦ render resolver ctx opts now token = .ok piece)
      tokens pieces) :
    List.Forall₂ (Rendered opts.listSeparator) tokens pieces ∧
      List.Forall₂ (TokenOwns resolver ctx opts now) tokens pieces :=
  ⟨h.imp fun _ _ ↦ rendered_of_render, h.imp fun _ _ ↦ tokenOwns_of_render⟩

end Binding

namespace Binder

open Binding

variable {ctx : Context} {opts : BindOptions} {now : Int}

theorem bind_of_not_hasSlots {b : Binder} {t : Template} (hslots : t.hasSlots = false)
    {plan : Plan} (h : (b.bind t ctx opts now).1 = .ok plan) :
    renderAll b.resolver t ctx opts now = .ok plan := by
  unfold bind at h
  split at h
  · cases h
  · rw [show b.fill t ctx opts = (.ok t, b) by rw [fill, hslots]; rfl] at h
    exact h

/-- Marks own values: the question marks of a bound statement that a reader finds outside quotes
and comments are the marks of its values, piece by piece. -/
theorem marks_own_values {b : Binder} {raw : String} {t : Template}
    (hcompile : Template.compile raw = .ok t) (hslots : t.hasSlots = false)
    (hsep : PlainSeparator opts.listSeparator) {plan : Plan}
    (hbind : (b.bind t ctx opts now).1 = .ok plan) :
    ∃ pieces, List.Forall₂ (TokenOwns b.resolver ctx opts now) t.tokens pieces ∧
      plan.sql = String.join (pieces.map Piece.text) ∧
      plan.bound = pieces.flatMap Piece.bound ∧
      text.marks 0 plan.sql.toList = ownedPlaces opts.listSeparator 0 pieces ∧
      (text.marks 0 plan.sql.toList).length = plan.bound.length := by
  obtain ⟨pieces, hrender, rfl⟩ := renderAll_eq_ok (bind_of_not_hasSlots hslots hbind)
  obtain ⟨hrendered, howns⟩ := rendered_of_forall₂ hrender
  have hlexed := Template.lexed_of_compile hcompile
  have hslot : ∀ v, .slot v ∈ t.tokens → Neutral v.source.toList := by
    intro v hv
    have := List.any_eq_false.mp hslots _ hv
    exact absurd rfl this
  have hharmless := harmless_of_neutral (m := text) hsep hlexed hrendered hslot
    (Or.inr ⟨rfl, fun _ ↦ rfl⟩)
  have hmarks := (marks_eq_ownedPlaces_iff (n := 0) hsep hlexed hrendered fun _ _ ↦ rfl).mpr
    hharmless
  rw [← toList_assemble_sql] at hmarks
  refine ⟨pieces, howns, rfl, rfl, hmarks, ?_⟩
  rw [hmarks, length_ownedPlaces]
  rfl

def exampleText : String := "SELECT '?' WHERE a IN (:xs) AND b = :y\\: -- ?"

def exampleTemplate : Template :=
  ⟨exampleText, [.literal "SELECT '?' WHERE a IN (", .parameter ⟨"xs", []⟩, .literal ") AND b = ",
    .parameter ⟨"y", []⟩, .escaped ':', .literal " -- ?"]⟩

def exampleArgs : Context :=
  ⟨KeyMap.ofList [("xs", .list [.int 1, .int 2]), ("y", .null)], ∅⟩

theorem marks_own_example_values :
    ∃ plan, (Binder.bind { resolver := .byName } exampleTemplate exampleArgs {} 0).1 = .ok plan ∧
      plan.sql = "SELECT '?' WHERE a IN (?, ?) AND b = ?: -- ?" ∧
      text.marks 0 plan.sql.toList = [23, 26, 37] ∧
      (text.marks 0 plan.sql.toList).length = plan.bound.length := by
  have hcompile : Template.compile exampleText = .ok exampleTemplate := by decide +kernel
  have hsql : ((Binder.bind { resolver := .byName } exampleTemplate exampleArgs {} 0).1.map
      Plan.sql) = .ok "SELECT '?' WHERE a IN (?, ?) AND b = ?: -- ?" := by decide +kernel
  obtain ⟨plan, hbind, hplan⟩ := Outcome.map_eq_ok_iff.mp hsql
  obtain ⟨pieces, -, -, -, -, hlength⟩ := marks_own_values hcompile (by rfl)
    plainSeparator_default hbind
  refine ⟨plan, hbind, hplan, ?_, hlength⟩
  rw [hplan]
  decide +kernel

end Binder

end QueryCatalog
