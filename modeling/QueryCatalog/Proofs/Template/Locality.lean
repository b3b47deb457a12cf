import QueryCatalog.Proofs.Template.Acceptance

namespace QueryCatalog.Template

def asciiBlanks : List Char := [' ', '\t', '\n', '\x0b', '\x0c', '\r']

/-- The text ends inside a comment that a line break would end. -/
def EndsInLineComment (s : List Char) : Prop :=
  ∃ items inner, Decomposition s (items ++ [.lineComment inner])

/-- The character sets off what follows the text. -/
structure SetsOff (w : Char) (a : String) : Prop where
  blank : w ∈ asciiBlanks
  closed : w = '\n' ∨ ¬ EndsInLineComment a.toList

def fuse : List Token → List Token
  | .literal u :: .literal v :: tokens => fuse (.literal (u ++ v) :: tokens)
  | token :: tokens => token :: fuse tokens
  | [] => []
  termination_by tokens => tokens.length

section Fuse

variable {tokens tokens' : List Token}

theorem addText_append (u v : String) (tokens : List Token) :
    addText (u ++ v) tokens = addText u (addText v tokens) := by
  rcases addText_cases v tokens with ⟨w, rest, rfl, hv⟩ | ⟨hliteral, hv⟩
  · simp [addText, String.append_assoc]
  · rw [hv, addText_of_not_literal hliteral]
    rfl

theorem fuse_cons_of_not_literal {token : Token} (h : ∀ u, token ≠ .literal u) :
    fuse (token :: tokens) = token :: fuse tokens := by
  rw [fuse]
  intro u _ _ htoken
  exact absurd htoken (h u)

theorem fuse_literal (u : String) (tokens : List Token) :
    fuse (.literal u :: tokens) = addText u (fuse tokens) := by
  induction tokens generalizing u with
  | nil => simp [fuse, addText]
  | cons token tokens ih =>
    by_cases hliteral : ∃ v, token = .literal v
    · obtain ⟨v, rfl⟩ := hliteral
      rw [fuse, ih, ih, addText_append]
    · have hne : ∀ v, token ≠ .literal v := fun v hv ↦ hliteral ⟨v, hv⟩
      have htokens : fuse (.literal u :: token :: tokens) =
          .literal u :: fuse (token :: tokens) := by
        rw [fuse]
        intro _ v _ _ htail
        exact hne v (List.cons.inj htail).1
      rw [htokens, fuse_cons_of_not_literal hne, addText_of_not_literal]
      intro v rest hv
      exact hne v (List.cons.inj hv).1

theorem fuse_addText_append (u : String) (tokens tokens' : List Token) :
    fuse (addText u tokens ++ tokens') = addText u (fuse (tokens ++ tokens')) := by
  rcases addText_cases u tokens with ⟨w, rest, rfl, hadd⟩ | ⟨-, hadd⟩
  · rw [hadd, List.cons_append, List.cons_append, fuse_literal, fuse_literal, addText_append]
  · rw [hadd, List.cons_append, fuse_literal]

theorem fuse_fuse (tokens : List Token) : fuse (fuse tokens) = fuse tokens := by
  induction tokens with
  | nil => simp only [fuse]
  | cons token tokens ih =>
    cases token with
    | literal u =>
      have hfuse := fuse_addText_append u (fuse tokens) []
      rwa [List.append_nil, List.append_nil, ih, ← fuse_literal] at hfuse
    | escaped | parameter | slot => simp [fuse, ih]

theorem fuse_append_congr {tokens tokens' : List Token} (h : fuse tokens = fuse tokens')
    (front : List Token) : fuse (front ++ tokens) = fuse (front ++ tokens') := by
  induction front with
  | nil => exact h
  | cons token front ih =>
    cases token with
    | literal u => simp only [List.cons_append, fuse_literal, ih]
    | escaped | parameter | slot => simp [fuse, ih]

end Fuse

theorem foldr_addItem_fuse (items : List Item) (tokens : List Token) :
    items.foldr addItem (fuse tokens) = fuse (tokensOf items ++ tokens) := by
  induction items with
  | nil => rfl
  | cons item items ih =>
    have hitems : tokensOf (item :: items) = addItem item (tokensOf items) := rfl
    rw [List.foldr_cons, ih, hitems]
    cases item with
    | escape | parameter | slot => simp [addItem, fuse]
    | quoted | lineComment | blockComment | cast | plain => exact (fuse_addText_append ..).symm

theorem fuse_tokensOf (items : List Item) : fuse (tokensOf items) = tokensOf items := by
  have hnil : fuse [] = [] := by rw [fuse]
  have hitems := foldr_addItem_fuse items []
  rw [hnil, List.append_nil] at hitems
  exact hitems.symm

theorem tokensOf_append_plain (items items' : List Item) (w : Char) :
    tokensOf (items ++ .plain w :: items') =
      fuse (tokensOf items ++ .literal w.toString :: tokensOf items') := by
  have hblank : addItem (.plain w) (tokensOf items') =
      fuse (.literal w.toString :: tokensOf items') := by
    rw [fuse_literal, fuse_tokensOf]
    rfl
  rw [← foldr_addItem_fuse, ← hblank, tokensOf, List.foldr_append, List.foldr_cons, ← tokensOf]

section Faults

theorem byteLength_append (s t : List Char) :
    byteLength (s ++ t) = byteLength s + byteLength t := by
  induction s with
  | nil => exact (Nat.zero_add _).symm
  | cons c s ih =>
    have hcons : ∀ s, byteLength (c :: s) = c.utf8Size + byteLength s := fun _ ↦ rfl
    rw [List.cons_append, hcons, hcons, ih, Nat.add_assoc]

theorem Fault.shift_shift (m n : Nat) (f : Fault) : (f.shift n).shift m = f.shift (m + n) := by
  rw [Fault.shift, Fault.shift, Fault.shift, Nat.add_assoc]

end Faults

section Items

variable {w : Char} {rest s : List Char} {item : Item} {items : List Item}

theorem not_opens_blank (hw : w ∈ asciiBlanks) (c : Char) : ¬ Opens c w := by
  simp only [asciiBlanks, List.mem_cons, List.not_mem_nil, or_false] at hw
  rcases hw with rfl | rfl | rfl | rfl | rfl | rfl <;> simp [Opens, isEscapable]

theorem stop_blank (hw : w ∈ asciiBlanks) : isNameChar w = false ∧ w ≠ '.' := by
  simp only [asciiBlanks, List.mem_cons, List.not_mem_nil, or_false] at hw
  rcases hw with rfl | rfl | rfl | rfl | rfl | rfl <;> decide

theorem production_blank (hw : w ∈ asciiBlanks) (s : List Char) : Production (.plain w) s := by
  simp only [asciiBlanks, List.mem_cons, List.not_mem_nil, or_false] at hw
  rcases hw with rfl | rfl | rfl | rfl | rfl | rfl <;>
    exact .plain rfl (by decide) fun d _ ↦ by simp [Opens]

theorem forall_head?_append {p : Char → Prop} (h : ∀ c ∈ rest.head?, p c) (hw : p w)
    (s : List Char) : ∀ c ∈ (rest ++ w :: s).head?, p c := by
  cases rest with
  | nil => simpa using hw
  | cons d rest => simpa using h

/-- White space at the end of the rest lengthens no item. -/
theorem Production.append (h : Production item rest) (hw : w ∈ asciiBlanks)
    (hclosed : w = '\n' ∨ rest ≠ [] ∨ ∀ inner, item ≠ .lineComment inner) (s : List Char) :
    Production item (rest ++ w :: s) := by
  cases h with
  | quoted hquote hinner => exact .quoted hquote hinner
  | lineComment hinner hrest =>
    refine .lineComment hinner ?_
    cases rest with
    | nil =>
      have hw : w = '\n' := by simpa using hclosed
      simpa using hw
    | cons d rest => exact hrest
  | blockComment hinner => exact .blockComment hinner
  | cast => exact .cast
  | escape hescape => exact .escape hescape
  | parameter hname hpath hrest =>
    exact .parameter hname hpath (forall_head?_append hrest (stop_blank hw) s)
  | slot hbefore hname hafter => exact .slot hbefore hname hafter
  | plain hquote hplain hopens =>
    exact .plain hquote hplain (forall_head?_append hopens (not_opens_blank hw _) s)

theorem scan_of_production (h : Production item rest) : scan (item.source ++ rest) =
    match scan rest with
    | .error f => .error (f.shift (byteLength item.source))
    | .ok items => .ok (item :: items) := by
  obtain ⟨c, t, htext, hread⟩ := h.read_eq
  rw [htext, scan]
  split
  · rename_i f hfault
    rw [hread] at hfault
    cases hfault
  · rename_i hread'
    rw [hread] at hread'
    cases hread'
    rfl

theorem Decomposition.eq_nil (h : Decomposition [] items) : items = [] := by
  generalize hs : ([] : List Char) = s at h
  cases h with
  | nil => rfl
  | cons => simp [Item.source_ne_nil] at hs

theorem scan_append_blank (h : Decomposition s items) (hw : w ∈ asciiBlanks)
    (hclosed : w = '\n' ∨ ∀ front inner, items ≠ front ++ [.lineComment inner])
    (t : List Char) : scan (s ++ w :: t) =
      match scan t with
      | .error f => .error (f.shift (byteLength s + w.utf8Size))
      | .ok items' => .ok (items ++ .plain w :: items') := by
  induction h with
  | nil =>
    have hscan := scan_of_production (production_blank hw t)
    have hlength : byteLength (Item.plain w).source = byteLength [] + w.utf8Size := by
      simp [Item.source, byteLength]
    rwa [hlength] at hscan
  | @cons item rest items hproduction hitems ih =>
    have hlast : w = '\n' ∨ rest ≠ [] ∨ ∀ inner, item ≠ .lineComment inner := by
      refine hclosed.imp_right fun hclosed ↦ ?_
      by_cases hrest : rest = []
      · right
        rintro inner rfl
        subst hrest
        exact hclosed [] inner (by rw [hitems.eq_nil]; rfl)
      · exact Or.inl hrest
    have hrest := ih (hclosed.imp_right fun hclosed front inner hfront ↦
      hclosed (item :: front) inner (by rw [hfront]; rfl))
    rw [List.append_assoc, scan_of_production (hproduction.append hw hlast t), hrest]
    cases scan t with
    | error f =>
      simp only [Fault.shift_shift, byteLength_append, Nat.add_assoc]
    | ok items' => rfl

end Items

theorem compile_append {a : String} {t : Template} {w : Char} (ha : compile a = .ok t)
    (hw : SetsOff w a) (b : String) : compile (a ++ w.toString ++ b) =
      match compile b with
      | .error f => .error (f.shift (byteLength a.toList + w.utf8Size))
      | .ok t' => .ok ⟨a ++ w.toString ++ b,
        fuse (t.tokens ++ .literal w.toString :: t'.tokens)⟩ := by
  obtain ⟨items, hitems, rfl⟩ := compile_eq_ok_iff.mp ha
  have hclosed : w = '\n' ∨ ∀ front inner, items ≠ front ++ [.lineComment inner] :=
    hw.closed.imp_right fun hopen front inner hlast ↦ hopen ⟨front, inner, hlast ▸ hitems⟩
  have htext : (a ++ w.toString ++ b).toList = a.toList ++ w :: b.toList := by simp
  have hscan := scan_append_blank hitems hw.blank hclosed b.toList
  rw [compile, compile, htext, hscan]
  cases scan b.toList with
  | error f => rfl
  | ok items' =>
    simp only [Except.map, tokensOf_append_plain]

/-- What follows a text and white space that sets it off is compiled as if it stood alone. So a
fragment between white space changes no token around it. -/
theorem compile_local {a : String} {t : Template} {w : Char} (ha : compile a = .ok t)
    (hw : SetsOff w a) (b : String) :
    ((∃ t', compile (a ++ w.toString ++ b) = .ok t') ↔ ∃ t', compile b = .ok t') ∧
      (∀ t', compile b = .ok t' → compile (a ++ w.toString ++ b) =
        .ok ⟨a ++ w.toString ++ b, fuse (t.tokens ++ .literal w.toString :: t'.tokens)⟩) ∧
      (∀ f, compile b = .error f → compile (a ++ w.toString ++ b) =
        .error ⟨byteLength a.toList + w.utf8Size + f.offset, f.kind⟩) ∧
      ∀ front s v, compile front = .ok s → SetsOff v front → ∀ t', compile b = .ok t' →
        compile (front ++ v.toString ++ (a ++ w.toString ++ b)) =
          .ok ⟨front ++ v.toString ++ (a ++ w.toString ++ b), fuse (s.tokens ++
            .literal v.toString :: (t.tokens ++ .literal w.toString :: t'.tokens))⟩ := by
  have hcompile := compile_append ha hw b
  have hok : ∀ t', compile b = .ok t' → compile (a ++ w.toString ++ b) =
      .ok ⟨a ++ w.toString ++ b, fuse (t.tokens ++ .literal w.toString :: t'.tokens)⟩ := by
    intro t' ht'
    rw [hcompile, ht']
  have hfault : ∀ f, compile b = .error f → compile (a ++ w.toString ++ b) =
      .error ⟨byteLength a.toList + w.utf8Size + f.offset, f.kind⟩ := by
    intro f hf
    rw [hcompile, hf]
    rfl
  refine ⟨?_, hok, hfault, ?_⟩
  · constructor
    · rintro ⟨u, hu⟩
      cases hb : compile b with
      | error f =>
        rw [hfault f hb] at hu
        cases hu
      | ok t' => exact ⟨t', rfl⟩
    · rintro ⟨t', ht'⟩
      exact ⟨_, hok t' ht'⟩
  · intro front s v hfront hv t' ht'
    rw [compile_append hfront hv, hok t' ht']
    have hfuse : fuse (.literal v.toString :: fuse (t.tokens ++ .literal w.toString :: t'.tokens)) =
        fuse (.literal v.toString :: (t.tokens ++ .literal w.toString :: t'.tokens)) :=
      fuse_append_congr (fuse_fuse _) [.literal v.toString]
    simp only [fuse_append_congr hfuse s.tokens]

/-- A fragment that ends in a parameter, between a line comment and more statement text. -/
theorem fragment_compiled_apart :
    compile "x = :p.q" = .ok ⟨"x = :p.q", [.literal "x = ", .parameter ⟨"p", ["q"]⟩]⟩ ∧
      SetsOff ' ' "x = :p.q" ∧ SetsOff '\n' "a -- :b" ∧
      compile "x = :p.q .r?" = .error ⟨11, .positionalMark⟩ ∧
      compile "a -- :b\nx = :p.q .r" = .ok ⟨"a -- :b\nx = :p.q .r", fuse ([.literal "a -- :b"] ++
        .literal "\n" :: ([.literal "x = ", .parameter ⟨"p", ["q"]⟩] ++ .literal " " ::
          [.literal ".r"]))⟩ := by
  have ha : compile "x = :p.q" =
      .ok ⟨"x = :p.q", [.literal "x = ", .parameter ⟨"p", ["q"]⟩]⟩ := by decide +kernel
  have hopen : ¬ EndsInLineComment "x = :p.q".toList := by
    rintro ⟨items, inner, hitems⟩
    have hscan : scan "x = :p.q".toList = .ok [.plain 'x', .plain ' ', .plain '=', .plain ' ',
        .parameter ['p'] [['q']]] := by decide +kernel
    rw [scan_eq_ok_iff.mpr hitems] at hscan
    have hlast := congrArg List.getLast? (Except.ok.inj hscan)
    simp at hlast
  have hw : SetsOff ' ' "x = :p.q" := ⟨by decide, Or.inr hopen⟩
  have hv : SetsOff '\n' "a -- :b" := ⟨by decide, Or.inl rfl⟩
  refine ⟨ha, hw, hv, ?_, ?_⟩
  · exact (compile_local ha hw ".r?").2.2.1 ⟨2, .positionalMark⟩ (by decide +kernel)
  · exact (compile_local ha hw ".r").2.2.2 "a -- :b" ⟨"a -- :b", [.literal "a -- :b"]⟩ '\n'
      (by decide +kernel) hv ⟨".r", [.literal ".r"]⟩ (by decide +kernel)

end QueryCatalog.Template
