import QueryCatalog.Proofs.Text.Padding
import QueryCatalog.Template.Compile
import Mathlib.Data.List.Infix

namespace QueryCatalog.Template

open Text

/-- Text with balanced braces and closed quotes; braces inside quotes do not count. -/
inductive Balanced : List Char → Prop
  | nil : Balanced []
  | char {c : Char} {s : List Char} : isQuote c = false → c ≠ '{' → c ≠ '}' → Balanced s →
      Balanced (c :: s)
  | quoted {quote : Char} {inner s : List Char} : isQuote quote → quote ∉ inner → Balanced s →
      Balanced (quote :: inner ++ quote :: s)
  | braces {inner s : List Char} : Balanced inner → Balanced s →
      Balanced ('{' :: inner ++ '}' :: s)

def IsWord (s : List Char) : Prop := s ≠ [] ∧ ∀ c ∈ s, isNameChar c

/-- Two characters that make something else of a character that would be plain. -/
def Opens (c d : Char) : Prop :=
  c = '-' ∧ d = '-' ∨ c = '/' ∧ d = '*' ∨ c = '\\' ∧ isEscapable d

inductive Production : Item → List Char → Prop
  | quoted {quote : Char} {inner rest : List Char} : isQuote quote → quote ∉ inner →
      Production (.quoted quote inner) rest
  | lineComment {inner rest : List Char} : '\n' ∉ inner → (∀ c ∈ rest.head?, c = '\n') →
      Production (.lineComment inner) rest
  | blockComment {inner rest : List Char} : ¬ ['*', '/'] <:+: inner ++ ['*'] →
      Production (.blockComment inner) rest
  | cast {rest : List Char} : Production .cast rest
  | escape {c : Char} {rest : List Char} : isEscapable c → Production (.escape c) rest
  | parameter {name rest : List Char} {path : List (List Char)} : isIdentifier name →
      (∀ word ∈ path, IsWord word) → (∀ c ∈ rest.head?, isNameChar c = false ∧ c ≠ '.') →
      Production (.parameter name path) rest
  | slot {name before rest : List Char} {after? : Option (List Char)} : Padded name before →
      isIdentifier name → (∀ after ∈ after?, Balanced after) →
      Production (.slot before after?) rest
  | plain {c : Char} {rest : List Char} : isQuote c = false → c ∉ [':', '{', '}', '?'] →
      (∀ d ∈ rest.head?, ¬ Opens c d) → Production (.plain c) rest

/-- A text is made of these items, from left to right. -/
inductive Decomposition : List Char → List Item → Prop
  | nil : Decomposition [] []
  | cons {item : Item} {rest : List Char} {items : List Item} : Production item rest →
      Decomposition rest items → Decomposition (item.source ++ rest) (item :: items)

section Readers

variable {s inner rest : List Char}

theorem not_mem_of_splitQuote {quote : Char} (h : splitQuote quote s = some (inner, rest)) :
    quote ∉ inner := by
  unfold splitQuote at h
  split at h
  · cases h
  · simp only [Option.some.injEq, Prod.mk.injEq] at h
    intro hmem
    rw [← h.1] at hmem
    have := List.mem_takeWhile_imp hmem
    simp at this

theorem splitQuote_append {quote : Char} (h : quote ∉ inner) (rest : List Char) :
    splitQuote quote (inner ++ quote :: rest) = some (inner, rest) := by
  have hinner : ∀ c ∈ inner, (c != quote) = true := by
    intro c hc
    exact bne_iff_ne.mpr (ne_of_mem_of_not_mem hc h)
  have hstop : ∀ c ∈ (quote :: rest).head?, (c != quote) = false := by simp
  rw [splitQuote, dropWhile_append_of_stop hinner hstop, takeWhile_append_of_stop hinner hstop]

theorem splitComment_cons {c : Char} (h : ∀ r, c = '*' → s ≠ '/' :: r) :
    splitComment (c :: s) = (splitComment s).map fun p ↦ (c :: p.1, p.2) := by
  rw [splitComment]
  intro r hc hs
  exact h r hc hs

theorem splitComment_append (h : ¬ ['*', '/'] <:+: inner ++ ['*']) (rest : List Char) :
    splitComment (inner ++ '*' :: '/' :: rest) = some (inner, rest) := by
  induction inner with
  | nil => rfl
  | cons c inner ih =>
    rw [List.cons_append, List.infix_cons_iff, not_or] at h
    have hopen : ∀ r, c = '*' → inner ++ '*' :: '/' :: rest ≠ '/' :: r := by
      rintro r rfl hr
      cases inner with
      | nil => simp at hr
      | cons d inner =>
        obtain ⟨rfl, -⟩ := List.cons.inj hr
        exact h.1 ⟨inner ++ ['*'], rfl⟩
    rw [List.cons_append, splitComment_cons hopen, ih h.2]
    rfl

theorem not_infix_of_splitComment (h : splitComment s = some (inner, rest)) :
    ¬ ['*', '/'] <:+: inner ++ ['*'] := by
  fun_induction splitComment s generalizing inner rest with
  | case1 => cases h
  | case2 r =>
    cases h
    intro hinfix
    have := hinfix.length_le
    simp at this
  | case3 c r hopen ih =>
    obtain ⟨⟨i, t⟩, hi, he⟩ := Option.map_eq_some_iff.mp h
    cases he
    rw [List.cons_append, List.infix_cons_iff, not_or]
    refine ⟨?_, ih hi⟩
    rintro ⟨back, hback⟩
    obtain ⟨hc, hback⟩ := List.cons.inj hback
    cases i with
    | nil => cases hback
    | cons d i =>
      obtain ⟨hd, -⟩ := List.cons.inj hback
      have hr := splitComment_eq hi
      rw [← hd] at hr
      exact hopen _ hc.symm hr.symm

theorem stop_path (path : List (List Char)) (hrest : ∀ c ∈ rest.head?, isNameChar c = false) :
    ∀ c ∈ ((path.map ('.' :: ·)).flatten ++ rest).head?, isNameChar c = false := by
  cases path with
  | nil => exact hrest
  | cons word path =>
    intro c hc
    obtain rfl : '.' = c := by simpa using hc
    rfl

theorem readPath_append {path : List (List Char)} (hpath : ∀ word ∈ path, IsWord word)
    (hrest : ∀ c ∈ rest.head?, isNameChar c = false ∧ c ≠ '.') :
    readPath ((path.map ('.' :: ·)).flatten ++ rest) = .ok (path, rest) := by
  induction path with
  | nil =>
    rw [List.map_nil, List.flatten_nil, List.nil_append]
    unfold readPath
    split
    · exact absurd rfl (hrest _ rfl).2
    · rfl
  | cons word path ih =>
    obtain ⟨hword, hpath⟩ := List.forall_mem_cons.mp hpath
    have hstop := stop_path path fun c hc ↦ (hrest c hc).1
    rw [List.map_cons, List.flatten_cons, List.append_assoc, List.cons_append, readPath,
      takeWhile_append_of_stop hword.2 hstop, dropWhile_append_of_stop hword.2 hstop, ih hpath]
    obtain ⟨c, cs, rfl⟩ := List.exists_cons_of_ne_nil hword.1
    rfl

theorem words_of_readPath {path : List (List Char)} (h : readPath s = .ok (path, rest))
    (hs : ∀ c ∈ s.head?, isNameChar c = false) :
    (∀ word ∈ path, IsWord word) ∧ ∀ c ∈ rest.head?, isNameChar c = false ∧ c ≠ '.' := by
  fun_induction readPath s generalizing path rest with
  | case1 => cases h
  | case2 => cases h
  | case3 r c cs hword p r' hr ih =>
    cases h
    obtain ⟨hpath, hrest⟩ := ih hr (stop_dropWhile isNameChar r)
    refine ⟨List.forall_mem_cons.mpr ⟨⟨List.cons_ne_nil c cs, ?_⟩, hpath⟩, hrest⟩
    intro d hd
    rw [← hword] at hd
    exact List.mem_takeWhile_imp hd
  | case4 r hdot =>
    cases h
    refine ⟨fun _ h ↦ absurd h List.not_mem_nil, fun c hc ↦ ⟨hs c hc, ?_⟩⟩
    rintro rfl
    exact hdot _ (List.eq_cons_of_mem_head? hc)

theorem spanName_append {before t : List Char} (hbefore : ∀ c ∈ before, c ∉ ['-', '{', '}'])
    (ht : spanName t = ([], t)) : spanName (before ++ t) = (before, t) := by
  induction before with
  | nil => exact ht
  | cons c before ih =>
    obtain ⟨hc, hbefore⟩ := List.forall_mem_cons.mp hbefore
    simp only [List.mem_cons, List.not_mem_nil, or_false, not_or] at hc
    rw [List.cons_append, spanName, if_neg (by simp [hc]), ih hbefore]
    intro _ hdash
    exact absurd hdash hc.1

/-- Behind `depth` open braces: a closing brace for each of them, with balanced text around. -/
def Closes : Nat → List Char → Prop
  | 0, s => Balanced s
  | depth + 1, s => ∃ inner t, s = inner ++ '}' :: t ∧ Balanced inner ∧ Closes depth t

theorem Closes.front {depth : Nat} {front : List Char}
    (hfront : ∀ {t}, Balanced t → Balanced (front ++ t)) (h : Closes depth s) :
    Closes depth (front ++ s) := by
  cases depth with
  | zero => exact hfront h
  | succ depth =>
    obtain ⟨inner, t, rfl, hinner, ht⟩ := h
    exact ⟨front ++ inner, t, (List.append_assoc ..).symm, hfront hinner, ht⟩

theorem closes_spanDefault {depth : Nat} {after : List Char}
    (h : spanDefault depth s = (after, '}' :: rest)) : Closes depth after := by
  fun_induction spanDefault depth s generalizing after rest with
  | case1 => cases h
  | case2 _ c r hquote _ =>
    obtain ⟨rfl, -⟩ := List.cons.inj (Prod.mk.inj h).2
    cases hquote
  | case3 _ c r hquote inner r' hsplit d =>
    rename_i ih
    obtain ⟨rfl, hrest⟩ := Prod.mk.inj h
    have hfront : ∀ {t}, Balanced t → Balanced (c :: inner ++ [c] ++ t) := by
      intro t ht
      simpa using Balanced.quoted hquote (not_mem_of_splitQuote hsplit) ht
    simpa [d] using Closes.front hfront (ih (Prod.ext rfl hrest))
  | case4 => cases h; exact .nil
  | case5 r depth _ ih =>
    obtain ⟨rfl, hrest⟩ := Prod.mk.inj h
    exact ⟨[], _, rfl, .nil, ih (Prod.ext rfl hrest)⟩
  | case6 depth r _ _ ih =>
    obtain ⟨rfl, hrest⟩ := Prod.mk.inj h
    have hcloses : Closes (depth + 1) (spanDefault (depth + 1) r).1 := ih (Prod.ext rfl hrest)
    obtain ⟨inner, t, hspan, hinner, ht⟩ := hcloses
    have hfront : ∀ {t}, Balanced t → Balanced ('{' :: inner ++ ['}'] ++ t) := by
      intro t ht
      simpa using Balanced.braces hinner ht
    rw [hspan]
    simpa using Closes.front hfront ht
  | case7 depth c r hquote hclose hopen ih =>
    obtain ⟨rfl, hrest⟩ := Prod.mk.inj h
    have hfront : ∀ {t}, Balanced t → Balanced ([c] ++ t) := by
      intro t ht
      exact .char (Bool.eq_false_iff.mpr hquote) hopen hclose ht
    exact Closes.front hfront (ih (Prod.ext rfl hrest))

theorem spanDefault_char {c : Char} (hquote : isQuote c = false) (hopen : c ≠ '{')
    (hclose : c ≠ '}') (depth : Nat) (s : List Char) :
    spanDefault depth (c :: s) = (c :: (spanDefault depth s).1, (spanDefault depth s).2) := by
  rw [spanDefault.eq_def]
  simp only [hquote, Bool.false_eq_true, if_false, hclose, hopen]

theorem spanDefault_quoted {quote : Char} (hquote : isQuote quote)
    (hsplit : splitQuote quote s = some (inner, rest)) (depth : Nat) :
    spanDefault depth (quote :: s) =
      (quote :: inner ++ quote :: (spanDefault depth rest).1, (spanDefault depth rest).2) := by
  rw [spanDefault.eq_def]
  simp only [hquote, if_true]
  split
  · rename_i hnone
    rw [hsplit] at hnone
    cases hnone
  · rename_i hsome
    rw [hsplit] at hsome
    cases hsome
    rfl

theorem spanDefault_open (depth : Nat) (s : List Char) :
    spanDefault depth ('{' :: s) =
      ('{' :: (spanDefault (depth + 1) s).1, (spanDefault (depth + 1) s).2) := by
  rw [spanDefault.eq_def]
  rfl

theorem spanDefault_close (depth : Nat) (s : List Char) :
    spanDefault (depth + 1) ('}' :: s) =
      ('}' :: (spanDefault depth s).1, (spanDefault depth s).2) := by
  rw [spanDefault.eq_def]
  rfl

theorem spanDefault_append {front : List Char} (h : Balanced front) (depth : Nat)
    (s : List Char) : spanDefault depth (front ++ s) =
      (front ++ (spanDefault depth s).1, (spanDefault depth s).2) := by
  induction h generalizing depth s with
  | nil => rfl
  | char hquote hopen hclose _ ih =>
    rw [List.cons_append, spanDefault_char hquote hopen hclose, ih]
    rfl
  | @quoted quote inner t hquote hinner _ ih =>
    have hsplit := splitQuote_append hinner (t ++ s)
    rw [List.cons_append, List.cons_append, List.append_assoc, List.cons_append,
      spanDefault_quoted hquote hsplit, ih]
    simp
  | @braces inner t _ _ hinner ht =>
    rw [List.cons_append, List.cons_append, List.append_assoc, List.cons_append, spanDefault_open,
      hinner, spanDefault_close, ht]
    simp

theorem spanDefault_of_balanced {after : List Char} (h : Balanced after) (rest : List Char) :
    spanDefault 0 (after ++ '}' :: rest) = (after, '}' :: rest) := by
  have hend : spanDefault 0 ('}' :: rest) = ([], '}' :: rest) := by
    rw [spanDefault.eq_def]
    rfl
  rw [spanDefault_append h, hend, List.append_nil]

end Readers

theorem isNameChar_of_isNameStart {c : Char} (h : isNameStart c) : isNameChar c := by
  simp only [isNameStart, isNameChar, Char.isAlphanum, Bool.or_eq_true] at h ⊢
  exact h.imp_left Or.inl

theorem isIdentifier_cons {c : Char} {s : List Char} :
    isIdentifier (c :: s) ↔ isNameStart c ∧ ∀ d ∈ s, isNameChar d := by
  rw [isIdentifier, Bool.and_eq_true, List.all_eq_true]

theorem isNameChar_of_mem {name : List Char} (h : isIdentifier name) {c : Char} (hc : c ∈ name) :
    isNameChar c := by
  cases name with
  | nil => cases h
  | cons d name =>
    obtain ⟨hd, hname⟩ := isIdentifier_cons.mp h
    rcases List.mem_cons.mp hc with rfl | hc
    · exact isNameChar_of_isNameStart hd
    · exact hname c hc

theorem isIdentifier_takeWhile {s : List Char} (h : (s.head?.map isNameStart).getD false) :
    isIdentifier (s.takeWhile isNameChar) := by
  cases s with
  | nil => cases h
  | cons c s =>
    have hc : isNameStart c := h
    rw [List.takeWhile_cons_of_pos (isNameChar_of_isNameStart hc), isIdentifier_cons]
    exact ⟨hc, fun d hd ↦ List.mem_takeWhile_imp hd⟩

theorem Production.of_readParameter {s : List Char} {item : Item} {rest : List Char}
    (h : Item.readParameter s = .ok (item, rest)) : Production item rest := by
  simp only [Item.readParameter] at h
  split at h
  · rename_i hstart
    split at h
    · cases h
    · rename_i path r hpath
      cases h
      obtain ⟨hwords, hrest⟩ := words_of_readPath hpath (stop_dropWhile isNameChar s)
      exact .parameter (isIdentifier_takeWhile hstart) hwords hrest
  · cases h

theorem Production.of_readSlot {s : List Char} {item : Item} {rest : List Char}
    (h : Item.readSlot s = .ok (item, rest)) : Production item rest := by
  have hname : ∀ {before : List Char} {after? : Option (List Char)} {r : List Char},
      (∀ after ∈ after?, Balanced after) →
      Item.checkName before after? r = .ok (item, rest) → Production item rest := by
    intro before after? r hafter h
    obtain ⟨rfl, rfl⟩ := Item.checkName_eq h
    refine .slot (padded_trim before) ?_ hafter
    unfold Item.checkName at h
    by_contra hname
    rw [if_neg hname] at h
    cases h
  simp only [Item.readSlot] at h
  split at h
  · exact hname (fun _ h ↦ absurd h (Option.not_mem_none _)) h
  · split at h
    · cases h
    · rename_i r _ r' hrest
      refine hname (fun after hafter ↦ ?_) h
      cases hafter
      exact closes_spanDefault (Prod.ext rfl hrest)
    · cases h
  · cases h
  · cases h

theorem Production.of_read {c : Char} {s : List Char} {item : Item} {rest : List Char}
    (h : Item.read c s = .ok (item, rest)) : Production item rest := by
  unfold Item.read at h
  split at h
  · rename_i hquote
    split at h
    · cases h
    · rename_i inner r hsplit
      cases h
      exact .quoted hquote (not_mem_of_splitQuote hsplit)
  · rename_i hquote
    split at h
    · rename_i r
      cases h
      refine .lineComment (fun hmem ↦ ?_) fun c hc ↦ ?_
      · simpa using List.mem_takeWhile_imp hmem
      · simpa using stop_dropWhile (· != '\n') r c hc
    · split at h
      · cases h
      · rename_i inner r hsplit
        cases h
        exact .blockComment (not_infix_of_splitComment hsplit)
    · split at h
      · rename_i hescape
        cases h
        exact .escape hescape
      · rename_i hescape
        cases h
        refine .plain rfl (by decide) fun d hd hopens ↦ ?_
        cases hd
        simp [Opens, hescape] at hopens
    · cases h
      exact .cast
    · exact .of_readParameter h
    · exact .of_readSlot h
    · cases h
    · cases h
    · rename_i hparameter hslot hclose hmark hdash hslash hescape _
      cases h
      refine .plain (Bool.eq_false_iff.mpr hquote) ?_ ?_
      · simp only [List.mem_cons, List.not_mem_nil, or_false, not_or]
        exact ⟨hparameter, hslot, hclose, hmark⟩
      · intro d hd hopens
        have hs := List.eq_cons_of_mem_head? hd
        rcases hopens with ⟨hc, rfl⟩ | ⟨hc, rfl⟩ | ⟨hc, -⟩
        · exact hdash _ hc hs
        · exact hslash _ hc hs
        · exact hescape _ _ hc hs

theorem head?_of_isIdentifier {name : List Char} (h : isIdentifier name) :
    ∃ c, name.head? = some c ∧ isNameStart c := by
  cases name with
  | nil => cases h
  | cons c name => exact ⟨c, rfl, (isIdentifier_cons.mp h).1⟩

theorem readParameter_of_words {name rest : List Char} {path : List (List Char)}
    (hname : isIdentifier name) (hpath : ∀ word ∈ path, IsWord word)
    (hrest : ∀ c ∈ rest.head?, isNameChar c = false ∧ c ≠ '.') :
    Item.readParameter (name ++ ((path.map ('.' :: ·)).flatten ++ rest)) =
      .ok (.parameter name path, rest) := by
  obtain ⟨c, hhead, hc⟩ := head?_of_isIdentifier hname
  have hchars : ∀ d ∈ name, isNameChar d := fun d hd ↦ isNameChar_of_mem hname hd
  have hstop := stop_path path fun c hc ↦ (hrest c hc).1
  rw [Item.readParameter, List.head?_append, hhead, if_pos (by exact hc)]
  simp only [takeWhile_append_of_stop hchars hstop, dropWhile_append_of_stop hchars hstop,
    readPath_append hpath hrest]

theorem plain_of_padded {name before : List Char} (hbefore : Padded name before)
    (hname : isIdentifier name) : ∀ c ∈ before, c ∉ ['-', '{', '}'] := by
  obtain ⟨left, right, rfl, hleft, hright⟩ := hbefore.eq_append
  have hblank : ∀ c, isBlank c → c ∉ ['-', '{', '}'] := by
    rintro c hc hmem
    simp only [List.mem_cons, List.not_mem_nil, or_false] at hmem
    rcases hmem with rfl | rfl | rfl <;> cases hc
  have hword : ∀ c, isNameChar c → c ∉ ['-', '{', '}'] := by
    rintro c hc hmem
    simp only [List.mem_cons, List.not_mem_nil, or_false] at hmem
    rcases hmem with rfl | rfl | rfl <;> cases hc
  intro c hc
  rcases List.mem_append.mp hc with hc | hc
  · exact hblank c (hleft c hc)
  · rcases List.mem_append.mp hc with hc | hc
    · exact hword c (isNameChar_of_mem hname hc)
    · exact hblank c (hright c hc)

theorem readSlot_of_padded {name before : List Char} (hbefore : Padded name before)
    (hname : isIdentifier name) (rest : List Char) :
    Item.readSlot (before ++ '}' :: rest) = .ok (.slot before none, rest) := by
  have hspan := spanName_append (plain_of_padded hbefore hname) (t := '}' :: rest) rfl
  rw [Item.readSlot]
  simp only [hspan, Item.checkName, padded_iff.mp hbefore, hname, if_true]

theorem readSlot_of_balanced {name before after : List Char} (hbefore : Padded name before)
    (hname : isIdentifier name) (hafter : Balanced after) (rest : List Char) :
    Item.readSlot (before ++ '-' :: '>' :: (after ++ '}' :: rest)) =
      .ok (.slot before (some after), rest) := by
  have hspan := spanName_append (plain_of_padded hbefore hname)
    (t := '-' :: '>' :: (after ++ '}' :: rest)) rfl
  rw [Item.readSlot]
  simp only [hspan, spanDefault_of_balanced hafter, Item.checkName, padded_iff.mp hbefore, hname,
    if_true]

theorem Production.read_eq {item : Item} {rest : List Char} (h : Production item rest) :
    ∃ c s, item.source ++ rest = c :: s ∧ Item.read c s = .ok (item, rest) := by
  cases h with
  | @quoted quote inner _ hquote hinner =>
    refine ⟨quote, inner ++ quote :: rest, by simp [Item.source], ?_⟩
    rw [Item.read.eq_def, if_pos hquote, splitQuote_append hinner]
  | @lineComment inner _ hinner hrest =>
    refine ⟨'-', '-' :: (inner ++ rest), by simp [Item.source], ?_⟩
    have hline : ∀ d ∈ inner, (d != '\n') = true := by
      intro d hd
      exact bne_iff_ne.mpr (ne_of_mem_of_not_mem hd hinner)
    have hstop : ∀ d ∈ rest.head?, (d != '\n') = false := by
      intro d hd
      simp [hrest d hd]
    rw [Item.read, if_neg (by decide), takeWhile_append_of_stop hline hstop,
      dropWhile_append_of_stop hline hstop]
  | @blockComment inner _ hinner =>
    refine ⟨'/', '*' :: (inner ++ '*' :: '/' :: rest), by simp [Item.source], ?_⟩
    rw [Item.read, if_neg (by decide), splitComment_append hinner]
  | cast => exact ⟨':', ':' :: rest, rfl, rfl⟩
  | @escape c _ hescape =>
    refine ⟨'\\', c :: rest, rfl, ?_⟩
    rw [Item.read, if_neg (by decide), if_pos hescape]
  | @parameter name _ path hname hpath hrest =>
    refine ⟨':', name ++ ((path.map ('.' :: ·)).flatten ++ rest), by simp [Item.source], ?_⟩
    rw [Item.read, if_neg (by decide)]
    · exact readParameter_of_words hname hpath hrest
    · intro r hr
      obtain ⟨c, hhead, hc⟩ := head?_of_isIdentifier hname
      have hcolon := congrArg List.head? hr
      rw [List.head?_append, hhead] at hcolon
      cases hcolon
      cases hc
  | @slot name before _ after? hbefore hname hafter =>
    cases after? with
    | none =>
      refine ⟨'{', before ++ '}' :: rest, by simp [Item.source], ?_⟩
      rw [Item.read, if_neg (by decide)]
      exact readSlot_of_padded hbefore hname rest
    | some after =>
      refine ⟨'{', before ++ '-' :: '>' :: (after ++ '}' :: rest), by simp [Item.source], ?_⟩
      rw [Item.read, if_neg (by decide)]
      exact readSlot_of_balanced hbefore hname (hafter after rfl) rest
  | @plain c _ hquote hplain hopens =>
    refine ⟨c, rest, rfl, ?_⟩
    simp only [List.mem_cons, List.not_mem_nil, or_false, not_or] at hplain
    obtain ⟨hcolon, hopen, hclose, hmark⟩ := hplain
    rw [Item.read.eq_def, if_neg (by rw [hquote]; decide)]
    split
    · exact absurd (Or.inl ⟨rfl, rfl⟩) (hopens _ rfl)
    · exact absurd (Or.inr (Or.inl ⟨rfl, rfl⟩)) (hopens _ rfl)
    · rename_i d r
      split
      · rename_i hescape
        exact absurd (Or.inr (Or.inr ⟨rfl, hescape⟩)) (hopens _ rfl)
      · rfl
    · exact absurd rfl hcolon
    · exact absurd rfl hcolon
    · exact absurd rfl hopen
    · exact absurd rfl hclose
    · exact absurd rfl hmark
    · rfl

theorem scan_of_read {c : Char} {s rest : List Char} {item : Item} {items : List Item}
    (hread : Item.read c s = .ok (item, rest)) (hscan : scan rest = .ok items) :
    scan (c :: s) = .ok (item :: items) := by
  rw [scan]
  split
  · rename_i hfault
    rw [hread] at hfault
    cases hfault
  · rename_i hread'
    rw [hread] at hread'
    cases hread'
    rw [hscan]

theorem scan_eq_ok_iff {s : List Char} {items : List Item} :
    scan s = .ok items ↔ Decomposition s items := by
  constructor
  · intro h
    fun_induction scan s generalizing items with
    | case1 => cases h; exact .nil
    | case2 => cases h
    | case3 => cases h
    | case4 c cs item rest hread items hscan ih =>
      cases h
      rw [← Item.source_append_of_read hread]
      exact .cons (.of_read hread) (ih hscan)
  · intro h
    induction h with
    | nil => rw [scan]
    | cons hproduction _ ih =>
      obtain ⟨c, s, hs, hread⟩ := hproduction.read_eq
      rw [hs]
      exact scan_of_read hread ih

end QueryCatalog.Template
