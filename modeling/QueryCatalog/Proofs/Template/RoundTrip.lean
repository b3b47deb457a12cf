import QueryCatalog.Proofs.Template.Literals

namespace QueryCatalog.Template

def joinedSource (tokens : List Token) : String := String.join (tokens.map Token.source)

theorem joinedSource_cons (token : Token) (tokens : List Token) :
    joinedSource (token :: tokens) = token.source ++ joinedSource tokens := by
  rw [joinedSource, List.map_cons, String.join_cons]
  rfl

theorem joinedSource_addText (src : String) (tokens : List Token) :
    joinedSource (addText src tokens) = src ++ joinedSource tokens := by
  rcases addText_cases src tokens with ⟨w, rest, rfl, hadd⟩ | ⟨-, hadd⟩
  · rw [hadd, joinedSource_cons, joinedSource_cons, Token.source, Token.source, String.append_assoc]
  · rw [hadd, joinedSource_cons, Token.source]

theorem source_parameter (name : List Char) (path : List (List Char)) :
    Token.source (.parameter ⟨String.ofList name, path.map String.ofList⟩) =
      String.ofList (Item.parameter name path).source := by
  apply String.toList_injective
  simp [Token.source, Item.source, Function.comp_def, List.flatMap_def]

theorem joinedSource_addItem (item : Item) (tokens : List Token) :
    joinedSource (addItem item tokens) = String.ofList item.source ++ joinedSource tokens := by
  cases item with
  | escape c => exact joinedSource_cons _ _
  | parameter name path =>
    rw [addItem, joinedSource_cons, source_parameter]
  | slot before after? => exact joinedSource_cons _ _
  | quoted | lineComment | blockComment | cast | plain => exact joinedSource_addText _ _

theorem joinedSource_tokensOf (items : List Item) :
    joinedSource (tokensOf items) = String.ofList (items.map Item.source).flatten := by
  induction items with
  | nil => rfl
  | cons item items ih =>
    rw [tokensOf, List.foldr_cons, joinedSource_addItem, ← tokensOf, ih, List.map_cons,
      List.flatten_cons, String.ofList_append]

theorem toSource_of_compile {raw : String} {t : Template} (h : compile raw = .ok t) :
    t.toSource = raw := by
  obtain ⟨items, hscan, rfl⟩ := Outcome.map_eq_ok_iff.mp h
  change joinedSource (tokensOf items) = raw
  rw [joinedSource_tokensOf, flatten_source_of_scan hscan, String.ofList_toList]

structure MaximalLiterals (tokens : List Token) : Prop where
  not_empty : .literal "" ∉ tokens
  not_adjacent : ∀ front u v back, tokens ≠ front ++ .literal u :: .literal v :: back

theorem empty_notMem_addText {src : String} {tokens : List Token} (hsrc : src ≠ "")
    (h : .literal "" ∉ tokens) : .literal "" ∉ addText src tokens := by
  rcases addText_cases src tokens with ⟨w, rest, rfl, hadd⟩ | ⟨-, hadd⟩
  · rw [hadd, List.mem_cons, not_or]
    refine ⟨fun he ↦ hsrc ?_, fun hmem ↦ h (List.mem_cons_of_mem _ hmem)⟩
    injection he with he
    exact (String.append_eq_empty_iff.mp he.symm).1
  · rw [hadd, List.mem_cons, not_or]
    refine ⟨fun he ↦ hsrc ?_, h⟩
    injection he with he
    exact he.symm

theorem empty_notMem_tokensOf (items : List Item) : .literal "" ∉ tokensOf items := by
  induction items with
  | nil => exact List.not_mem_nil
  | cons item items ih =>
    have hsrc : String.ofList item.source ≠ "" := by
      intro he
      exact item.source_ne_nil (String.ofList_injective he)
    cases item with
    | escape | parameter | slot => simpa [tokensOf, addItem] using ih
    | quoted | lineComment | blockComment | cast | plain => exact empty_notMem_addText hsrc ih

theorem Lexed.not_adjacent {tokens : List Token} (h : Lexed tokens) (front : List Token)
    (u v : String) (back : List Token) :
    tokens ≠ front ++ .literal u :: .literal v :: back := by
  induction front generalizing tokens with
  | nil =>
    rintro rfl
    cases h with
    | literal _ _ hadjacent _ => exact hadjacent v back rfl
  | cons token front ih =>
    rintro rfl
    exact ih h.tail rfl

theorem maximalLiterals_of_compile {raw : String} {t : Template} (h : compile raw = .ok t) :
    MaximalLiterals t.tokens := by
  refine ⟨?_, (lexed_of_compile h).not_adjacent⟩
  obtain ⟨items, -, rfl⟩ := Outcome.map_eq_ok_iff.mp h
  exact empty_notMem_tokensOf items

/-- Compiling loses nothing, so texts with the same tokens are the same. -/
theorem compile_round_trip {raw : String} {t : Template} (h : compile raw = .ok t) :
    t.toSource = raw ∧ MaximalLiterals t.tokens ∧
      ∀ raw' t', compile raw' = .ok t' → t'.tokens = t.tokens → raw' = raw := by
  refine ⟨toSource_of_compile h, maximalLiterals_of_compile h, fun raw' t' h' htokens ↦ ?_⟩
  rw [← toSource_of_compile h', ← toSource_of_compile h, toSource, toSource, htokens]

/-- A slot keeps the blanks that its name and its default lose. -/
def spacedTemplate : Template :=
  ⟨"SELECT ':a'::x\\: \x7bt -> o  \x7d :p.q-- :?", [.literal "SELECT ':a'::x", .escaped ':',
    .literal " ", .slot ⟨"t", some "o", "\x7bt -> o  \x7d"⟩, .literal " ", .parameter ⟨"p", ["q"]⟩,
    .literal "-- :?"]⟩

theorem spaced_round_trip :
    compile spacedTemplate.source = .ok spacedTemplate ∧
      spacedTemplate.toSource = spacedTemplate.source ∧ MaximalLiterals spacedTemplate.tokens := by
  have h : compile spacedTemplate.source = .ok spacedTemplate := by decide +kernel
  obtain ⟨hsource, hliterals, -⟩ := compile_round_trip h
  exact ⟨h, hsource, hliterals⟩

end QueryCatalog.Template
