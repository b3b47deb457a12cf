import QueryCatalog.Proofs.Outcome
import QueryCatalog.Proofs.Template.Grammar
import QueryCatalog.Proofs.Template.Marks

namespace QueryCatalog.Template

open ScanMode

/-- What the compiler has made sure of when it leaves an item. -/
def Item.Checked : Item → List Char → Prop
  | .quoted quote inner, _ => isQuote quote ∧ quote ∉ inner
  | .lineComment inner, rest => '\n' ∉ inner ∧ (rest = [] ∨ rest.head? = some '\n')
  | .blockComment inner, rest => splitComment (inner ++ '*' :: '/' :: rest) = some (inner, rest)
  | .escape c, _ => isEscapable c
  | .plain c, rest => isQuote c = false ∧ c ≠ '?' ∧ (c = '-' → rest.head? ≠ some '-') ∧
      (c = '/' → rest.head? ≠ some '*')
  | _, _ => True

theorem Item.checked_of_read {c : Char} {s : List Char} {item : Item} {rest : List Char}
    (h : Item.read c s = .ok (item, rest)) : item.Checked rest := by
  cases Production.of_read h with
  | quoted hquote hinner => exact ⟨hquote, hinner⟩
  | lineComment hinner hrest =>
    refine ⟨hinner, ?_⟩
    cases rest with
    | nil => exact Or.inl rfl
    | cons d rest => exact Or.inr (congrArg some (hrest d rfl))
  | blockComment hinner => exact splitComment_append hinner rest
  | cast => trivial
  | escape hescape => exact hescape
  | parameter => trivial
  | slot => trivial
  | plain hquote hplain hopens =>
    simp only [List.mem_cons, List.not_mem_nil, or_false, not_or] at hplain
    exact ⟨hquote, hplain.2.2.2, fun hc hrest ↦ hopens _ hrest (Or.inl ⟨hc, rfl⟩),
      fun hc hrest ↦ hopens _ hrest (Or.inr (Or.inl ⟨hc, rfl⟩))⟩

/-- The item puts its own source into a literal. -/
def Item.IsText : Item → Prop
  | .escape _ | .parameter _ _ | .slot _ _ => False
  | _ => True

theorem addItem_of_isText {item : Item} (h : item.IsText) (tokens : List Token) :
    addItem item tokens = addText (String.ofList item.source) tokens := by
  cases item <;> first | rfl | exact h.elim

end QueryCatalog.Template

namespace QueryCatalog.ScanMode

open Template

def Ready (m : ScanMode) : List Char → Prop
  | [] => True
  | c :: _ => m = text ∨ m = dash ∧ c ≠ '-' ∨ m = slash ∧ c ≠ '*' ∨ m = line ∧ c = '\n'

variable {m : ScanMode} {c : Char} {s t : List Char} {n : Nat}

theorem ready_of_isText (hm : m.isText) (hdash : c ≠ '-') (hstar : c ≠ '*') :
    m.Ready (c :: s) := by
  cases m with
  | text => exact Or.inl rfl
  | dash => exact Or.inr (Or.inl ⟨rfl, hdash⟩)
  | slash => exact Or.inr (Or.inr (Or.inl ⟨rfl, hstar⟩))
  | quoted | line | block | blockStar => cases hm

theorem Ready.step_eq (h : m.Ready (c :: s)) : m.step c = text.step c := by
  rcases h with rfl | ⟨rfl, hc⟩ | ⟨rfl, hc⟩ | ⟨rfl, rfl⟩
  · rfl
  · exact if_neg hc
  · exact if_neg hc
  · rfl

theorem Ready.isText (h : m.Ready (c :: s)) (hc : c ≠ '\n') : m.isText := by
  rcases h with rfl | ⟨rfl, -⟩ | ⟨rfl, -⟩ | ⟨rfl, hn⟩
  · rfl
  · rfl
  · rfl
  · exact absurd hn hc

theorem Ready.silent {m' : ScanMode} (h : m.Ready (c :: s)) (ht : text.Silent (c :: t) m') :
    m.Silent (c :: t) m' := by
  have hc : c ≠ '?' := by
    rintro rfl
    have := ht.marks_eq 0
    simp [marks, ScanMode.isText] at this
  refine ⟨?_, fun n ↦ ?_⟩
  · rw [after_cons, h.step_eq, ← after_cons, ht.after_eq]
  · rw [marks_cons_of_ne hc, h.step_eq, ← marks_cons_of_ne hc, ht.marks_eq]

theorem silent_splitComment {inner rest : List Char} (h : splitComment s = some (inner, rest))
    (hm : m = block ∨ m = blockStar ∧ s.head? ≠ some '/') :
    m.Silent (inner ++ ['*', '/']) text := by
  fun_induction splitComment s generalizing inner rest m with
  | case1 => cases h
  | case2 r =>
    cases h
    have hstar : m.step '*' = blockStar := by rcases hm with rfl | ⟨rfl, -⟩ <;> rfl
    have hhidden : m.isText = false := by rcases hm with rfl | ⟨rfl, -⟩ <;> rfl
    refine .cons (Or.inr hhidden) ?_
    rw [hstar]
    exact .cons (Or.inr rfl) .nil
  | case3 c r hend ih =>
    obtain ⟨⟨i, t⟩, hi, he⟩ := Option.map_eq_some_iff.mp h
    cases he
    have hhidden : m.isText = false := by rcases hm with rfl | ⟨rfl, -⟩ <;> rfl
    refine .cons (Or.inr hhidden) (ih hi ?_)
    by_cases hstar : c = '*'
    · right
      refine ⟨?_, fun hr ↦ hend _ hstar (List.eq_cons_of_mem_head? hr)⟩
      rw [hstar]
      rcases hm with rfl | ⟨rfl, -⟩ <;> rfl
    · left
      rcases hm with rfl | ⟨rfl, hslash⟩
      · exact if_neg hstar
      · have hc : c ≠ '/' := fun hc ↦ hslash (by rw [hc, List.head?_cons])
        simp only [step, hc, hstar, if_false]

theorem silent_source {item : Item} {rest : List Char} (h : item.Checked rest)
    (ht : item.IsText) : ∃ m, text.Silent item.source m ∧ m.Ready rest := by
  have hready : ∀ {r}, text.Ready r := by
    intro r
    cases r with
    | nil => trivial
    | cons c r => exact Or.inl rfl
  cases item with
  | quoted q inner =>
    obtain ⟨hquote, hinner⟩ := h
    refine ⟨text, .cons (Or.inl ?_) ?_, hready⟩
    · rintro rfl
      cases hquote
    · rw [show text.step q = quoted q from if_pos hquote]
      refine (silent_quoted hinner).append (.cons (Or.inr rfl) ?_)
      rw [step, if_pos rfl]
      exact .nil
  | lineComment inner =>
    obtain ⟨hinner, hrest⟩ := h
    refine ⟨line, .cons (Or.inl (by decide)) (.cons (Or.inl (by decide)) (silent_line hinner)), ?_⟩
    rcases hrest with rfl | hrest
    · trivial
    · rw [List.eq_cons_of_mem_head? hrest]
      exact Or.inr (Or.inr (Or.inr ⟨rfl, rfl⟩))
  | blockComment inner =>
    exact ⟨text, .cons (Or.inl (by decide)) (.cons (Or.inl (by decide))
      (silent_splitComment h (Or.inl rfl))), hready⟩
  | cast => exact ⟨text, .cons (Or.inl (by decide)) (.cons (Or.inl (by decide)) .nil), hready⟩
  | escape c => exact ht.elim
  | parameter name path => exact ht.elim
  | slot before after? => exact ht.elim
  | plain c =>
    obtain ⟨hquote, hmark, hdash, hslash⟩ := h
    refine ⟨ofText c, .cons (Or.inl hmark) .nil, ?_⟩
    cases rest with
    | nil => trivial
    | cons d rest =>
      simp only [ofText, hquote, Bool.false_eq_true, if_false]
      split
      · rename_i hc
        exact Or.inr (Or.inl ⟨rfl, fun hd ↦ hdash hc (by rw [hd, List.head?_cons])⟩)
      · split
        · rename_i hc
          exact Or.inr (Or.inr (Or.inl ⟨rfl, fun hd ↦ hslash hc (by rw [hd, List.head?_cons])⟩))
        · exact Or.inl rfl

end QueryCatalog.ScanMode

namespace QueryCatalog.Template

open ScanMode

/-- Tokens as the compiler leaves them. A literal is never followed by another one. -/
inductive Lexed : List Token → Prop
  | nil : Lexed []
  | literal {w : String} {m : ScanMode} {tokens : List Token} :
      text.Silent w.toList m → (m.isText ∨ tokens = []) →
      (∀ u rest, tokens ≠ .literal u :: rest) → Lexed tokens → Lexed (.literal w :: tokens)
  | escaped {c : Char} {tokens : List Token} :
      isEscapable c → Lexed tokens → Lexed (.escaped c :: tokens)
  | parameter {p : Parameter} {tokens : List Token} :
      Lexed tokens → Lexed (.parameter p :: tokens)
  | slot {v : Slot} {inner : List Char} {tokens : List Token} :
      v.source.toList = '{' :: inner ++ ['}'] → Lexed tokens → Lexed (.slot v :: tokens)

theorem Lexed.tail {token : Token} {tokens : List Token} (h : Lexed (token :: tokens)) :
    Lexed tokens := by
  cases h <;> assumption

theorem Item.slot_source (before : List Char) (after? : Option (List Char)) :
    ∃ inner, (Item.slot before after?).source = '{' :: inner ++ ['}'] := by
  cases after? with
  | none => exact ⟨before, rfl⟩
  | some after => exact ⟨before ++ '-' :: '>' :: after, by simp [Item.source]⟩

theorem addText_cases (src : String) (tokens : List Token) :
    (∃ w rest, tokens = .literal w :: rest ∧ addText src tokens = .literal (src ++ w) :: rest) ∨
      (∀ w rest, tokens ≠ .literal w :: rest) ∧ addText src tokens = .literal src :: tokens := by
  unfold addText
  split
  · rename_i w rest
    exact Or.inl ⟨w, rest, rfl, rfl⟩
  · rename_i hliteral
    exact Or.inr ⟨hliteral, rfl⟩

theorem head?_source_addItem {item : Item} {tokens rest : List Token} {token : Token}
    (h : addItem item tokens = token :: rest) :
    token.source.toList.head? = item.source.head? ∧
      ((∀ w, token ≠ .literal w) → item.source.head? ≠ some '\n') := by
  have htext : ∀ {src : List Char}, src ≠ [] →
      addText (String.ofList src) tokens = token :: rest →
      token.source.toList.head? = src.head? ∧
        ((∀ w, token ≠ .literal w) → src.head? ≠ some '\n') := by
    intro src hsrc h
    obtain ⟨c, src, rfl⟩ := List.exists_cons_of_ne_nil hsrc
    rcases addText_cases (String.ofList (c :: src)) tokens with ⟨w, r, -, hadd⟩ | ⟨-, hadd⟩
    all_goals
      rw [hadd] at h
      cases h
      refine ⟨?_, fun hw ↦ absurd rfl (hw _)⟩
      simp [Token.source]
  cases item with
  | escape c => cases h; exact ⟨by simp [Token.source, Item.source], fun _ ↦ by simp [Item.source]⟩
  | parameter name path =>
    cases h
    exact ⟨by simp [Token.source, Item.source], fun _ ↦ by simp [Item.source]⟩
  | slot before after? =>
    cases h
    obtain ⟨inner, hinner⟩ := Item.slot_source before after?
    exact ⟨by simp [Token.source], fun _ ↦ by simp [hinner]⟩
  | quoted | lineComment | blockComment | cast | plain => exact htext (Item.source_ne_nil _) h

theorem head?_source_of_scan {s : List Char} {items : List Item} {token : Token}
    {tokens : List Token} (h : scan s = .ok items) (ht : tokensOf items = token :: tokens) :
    ∃ c, token.source.toList.head? = some c ∧ s.head? = some c ∧
      ((∀ w, token ≠ .literal w) → c ≠ '\n') := by
  cases items with
  | nil => cases ht
  | cons item items =>
    have ht : addItem item (tokensOf items) = token :: tokens := ht
    obtain ⟨hhead, hnewline⟩ := head?_source_addItem ht
    obtain ⟨c, src, hsrc⟩ := List.exists_cons_of_ne_nil item.source_ne_nil
    rw [hsrc] at hhead hnewline
    refine ⟨c, hhead, ?_, fun hw hc ↦ hnewline hw (congrArg some hc)⟩
    have hs := flatten_source_of_scan h
    rw [← hs, List.map_cons, List.flatten_cons, hsrc]
    rfl

theorem Lexed.addText {src rest : List Char} {m : ScanMode} {items : List Item}
    (hsrc : text.Silent src m) (hready : m.Ready rest) (hscan : scan rest = .ok items)
    (h : Lexed (tokensOf items)) : Lexed (addText (String.ofList src) (tokensOf items)) := by
  have htokens : (String.ofList src).toList = src := String.toList_ofList
  rcases addText_cases (String.ofList src) (tokensOf items) with ⟨w, tail, hw, hadd⟩ | ⟨hw, hadd⟩
  · obtain ⟨c, hhead, hrest, -⟩ := head?_source_of_scan hscan hw
    rw [hw] at h
    rw [hadd]
    cases h with
    | literal hsilent hopen hadjacent hlexed =>
      refine .literal ?_ hopen hadjacent hlexed
      rw [String.toList_append, htokens]
      refine hsrc.append ?_
      rw [List.eq_cons_of_mem_head? hrest] at hready
      rw [show w.toList = _ from List.eq_cons_of_mem_head? hhead] at hsilent ⊢
      exact hready.silent hsilent
  · rw [hadd]
    refine .literal (htokens ▸ hsrc) ?_ hw h
    cases htail : tokensOf items with
    | nil => exact Or.inr rfl
    | cons token tokens =>
      obtain ⟨c, -, hrest, hnewline⟩ := head?_source_of_scan hscan htail
      rw [List.eq_cons_of_mem_head? hrest] at hready
      exact Or.inl (hready.isText (hnewline fun w he ↦ hw w tokens (by rw [htail, he])))

theorem lexed_of_scan {s : List Char} {items : List Item} (h : scan s = .ok items) :
    Lexed (tokensOf items) := by
  fun_induction scan s generalizing items with
  | case1 => cases h; exact .nil
  | case2 => cases h
  | case3 => cases h
  | case4 c cs item rest hread items hscan ih =>
    cases h
    have hchecked := Item.checked_of_read hread
    have hlexed := ih hscan
    have htext : item.IsText → Lexed (tokensOf (item :: items)) := by
      intro ht
      obtain ⟨m, hsilent, hready⟩ := silent_source hchecked ht
      rw [tokensOf, List.foldr_cons, addItem_of_isText ht]
      exact .addText hsilent hready hscan hlexed
    cases item with
    | escape c => exact .escaped hchecked hlexed
    | parameter name path => exact .parameter hlexed
    | slot before after? =>
      obtain ⟨inner, hinner⟩ := Item.slot_source before after?
      exact .slot (String.toList_ofList.trans hinner) hlexed
    | quoted | lineComment | blockComment | cast | plain => exact htext trivial

theorem lexed_of_compile {raw : String} {t : Template} (h : compile raw = .ok t) :
    Lexed t.tokens := by
  obtain ⟨items, hscan, rfl⟩ := Outcome.map_eq_ok_iff.mp h
  exact lexed_of_scan hscan

end QueryCatalog.Template
