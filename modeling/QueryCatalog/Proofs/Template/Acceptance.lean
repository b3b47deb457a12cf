import QueryCatalog.Proofs.Template.Literals

namespace QueryCatalog.Template

open Text

/-- The items stand for these tokens: neighbouring items without a role of their own are one
literal. -/
inductive Denotes : List Item → List Token → Prop
  | nil : Denotes [] []
  | literal {run items : List Item} {tokens : List Token} : run ≠ [] →
      (∀ item ∈ run, item.IsText) → (∀ item ∈ items.head?, ¬ item.IsText) →
      Denotes items tokens →
      Denotes (run ++ items) (.literal (String.ofList (run.flatMap Item.source)) :: tokens)
  | escape {c : Char} {items : List Item} {tokens : List Token} : Denotes items tokens →
      Denotes (.escape c :: items) (.escaped c :: tokens)
  | parameter {name : List Char} {path : List (List Char)} {items : List Item}
      {tokens : List Token} : Denotes items tokens →
      Denotes (.parameter name path :: items)
        (.parameter ⟨String.ofList name, path.map String.ofList⟩ :: tokens)
  | slot {name before : List Char} {default? after? : Option (List Char)} {items : List Item}
      {tokens : List Token} : Padded name before → Option.Rel Padded default? after? →
      Denotes items tokens →
      Denotes (.slot before after? :: items)
        (.slot ⟨String.ofList name, default?.map String.ofList,
          String.ofList (Item.slot before after?).source⟩ :: tokens)

theorem addText_of_not_literal {tokens : List Token} (h : ∀ w rest, tokens ≠ .literal w :: rest)
    (src : String) : addText src tokens = .literal src :: tokens := by
  rcases addText_cases src tokens with ⟨w, rest, htokens, -⟩ | ⟨-, hadd⟩
  · exact absurd htokens (h w rest)
  · exact hadd

theorem Denotes.not_literal {items : List Item} {tokens : List Token} (h : Denotes items tokens)
    (hhead : ∀ item ∈ items.head?, ¬ item.IsText) : ∀ w rest, tokens ≠ .literal w :: rest := by
  rintro w rest rfl
  cases h with
  | @literal run items _ hne htext _ _ =>
    obtain ⟨item, run, rfl⟩ := List.exists_cons_of_ne_nil hne
    exact hhead item rfl (htext item (List.mem_cons_self ..))

theorem foldr_addItem_run {run : List Item} {tokens : List Token} (hne : run ≠ [])
    (htext : ∀ item ∈ run, item.IsText) (h : ∀ w rest, tokens ≠ .literal w :: rest) :
    run.foldr addItem tokens = .literal (String.ofList (run.flatMap Item.source)) :: tokens := by
  induction run with
  | nil => exact absurd rfl hne
  | cons item run ih =>
    obtain ⟨hitem, hrun⟩ := List.forall_mem_cons.mp htext
    rw [List.foldr_cons, addItem_of_isText hitem, List.flatMap_cons]
    cases run with
    | nil =>
      rw [List.foldr_nil, addText_of_not_literal h, List.flatMap_nil, List.append_nil]
    | cons next run =>
      rw [ih (List.cons_ne_nil next run) hrun, String.ofList_append]
      rfl

theorem tokensOf_eq_of_denotes {items : List Item} {tokens : List Token}
    (h : Denotes items tokens) : tokensOf items = tokens := by
  induction h with
  | nil => rfl
  | literal hne htext hhead htokens ih =>
    rw [tokensOf, List.foldr_append, ← tokensOf, ih]
    exact foldr_addItem_run hne htext (htokens.not_literal hhead)
  | escape _ ih => rw [tokensOf, List.foldr_cons, ← tokensOf, ih]; rfl
  | parameter _ ih => rw [tokensOf, List.foldr_cons, ← tokensOf, ih]; rfl
  | slot hname hdefault _ ih =>
    rw [tokensOf, List.foldr_cons, ← tokensOf, ih, addItem, padded_iff.mp hname]
    cases hdefault with
    | none => rfl
    | some hafter => rw [Option.map_some, padded_iff.mp hafter, Option.map_some]

theorem Denotes.text {item : Item} {items : List Item} {tokens : List Token} (hitem : item.IsText)
    (h : Denotes items tokens) :
    Denotes (item :: items) (addText (String.ofList item.source) tokens) := by
  have hsingle : (∀ next ∈ items.head?, ¬ next.IsText) →
      Denotes (item :: items) (addText (String.ofList item.source) tokens) := by
    intro hhead
    rw [addText_of_not_literal (h.not_literal hhead)]
    have hrun : ∀ next ∈ [item], next.IsText := by simpa using hitem
    simpa using Denotes.literal (List.cons_ne_nil item []) hrun hhead h
  cases h with
  | @literal run items _ hne htext hhead htokens =>
    have hrun : ∀ next ∈ item :: run, next.IsText := List.forall_mem_cons.mpr ⟨hitem, htext⟩
    simpa [addText] using Denotes.literal (List.cons_ne_nil item run) hrun hhead htokens
  | nil => exact hsingle fun _ hnext ↦ absurd hnext (Option.not_mem_none _)
  | escape | parameter | slot =>
    refine hsingle fun next hnext ↦ ?_
    cases hnext
    exact id

theorem denotes_tokensOf (items : List Item) : Denotes items (tokensOf items) := by
  induction items with
  | nil => exact .nil
  | cons item items ih =>
    cases item with
    | escape c => exact .escape ih
    | parameter name path => exact .parameter ih
    | slot before after? =>
      cases after? with
      | none => exact .slot (padded_trim before) .none ih
      | some after => exact .slot (padded_trim before) (.some (padded_trim after)) ih
    | quoted | lineComment | blockComment | cast | plain => exact ih.text trivial

theorem compile_eq_ok_iff {raw : String} {t : Template} :
    compile raw = .ok t ↔
      ∃ items, Decomposition raw.toList items ∧ t = ⟨raw, tokensOf items⟩ := by
  rw [compile, Outcome.map_eq_ok_iff]
  exact exists_congr fun items ↦ and_congr scan_eq_ok_iff eq_comm

/-- A text compiles exactly if the grammar takes it apart, in one way, and then to the tokens of
its items. -/
theorem compile_accepts_grammar (raw : String) :
    ((∃ t, compile raw = .ok t) ↔ ∃ items, Decomposition raw.toList items) ∧
      (∀ items items', Decomposition raw.toList items → Decomposition raw.toList items' →
        items = items') ∧
      ∀ t, compile raw = .ok t ↔
        t.source = raw ∧ ∃ items, Decomposition raw.toList items ∧ Denotes items t.tokens := by
  refine ⟨?_, ?_, ?_⟩
  · constructor
    · rintro ⟨t, h⟩
      obtain ⟨items, hitems, -⟩ := compile_eq_ok_iff.mp h
      exact ⟨items, hitems⟩
    · rintro ⟨items, hitems⟩
      exact ⟨_, compile_eq_ok_iff.mpr ⟨items, hitems, rfl⟩⟩
  · intro items items' h h'
    rw [← scan_eq_ok_iff] at h h'
    rw [h] at h'
    exact Except.ok.inj h'
  · rintro ⟨source, tokens⟩
    rw [compile_eq_ok_iff]
    constructor
    · rintro ⟨items, hitems, he⟩
      obtain ⟨rfl, rfl⟩ := Template.mk.inj he
      exact ⟨rfl, items, hitems, denotes_tokensOf items⟩
    · rintro ⟨rfl, items, hitems, hdenotes⟩
      exact ⟨items, hitems, by rw [tokensOf_eq_of_denotes hdenotes]⟩

end QueryCatalog.Template
