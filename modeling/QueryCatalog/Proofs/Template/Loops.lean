import QueryCatalog.Proofs.Template.Positions

namespace QueryCatalog.Template.Walk

variable {text : String} {pos start : Nat} {c quote : Char} {s : List Char} {p : Char → Bool}

theorem skipRound_eq {i : Nat} {b : Char} (hi : i < size text) (hpeek : peek text i = some b) :
    skipRound text p i = .ok (if p b then .inl (i + 1) else .inr i) := by
  rw [skipRound, if_pos hi, byteAt_of_peek hpeek]
  rfl

theorem ends_skip (hp : Coarse p) (h : Ahead text pos s) :
    Ends (skipRound text p) pos (byteLength s) (.ok (pos + byteLength (s.takeWhile p))) := by
  induction s generalizing pos with
  | nil =>
    have hsize : ¬ pos < size text := by simp [h.size_eq, byteLength]
    refine .done ?_ _
    rw [skipRound, if_neg hsize]
    rfl
  | cons c s ih =>
    by_cases hpc : p c
    · have hround : ∀ i b, pos ≤ i → i < pos + c.utf8Size → peek text i = some b → b ∈ units c →
          skipRound text p i = .ok (.inl (i + 1)) := by
        intro i b hle hi hpeek hb
        rw [skipRound_eq (h.lt_size hi) hpeek, hp.eq_of_mem_units hb, if_pos hpc]
      have hrest := ih h.next
      rw [Nat.add_assoc, ← byteLength_cons, ← List.takeWhile_cons_of_pos hpc] at hrest
      exact h.ends_char (f := id) hround hrest
    · obtain ⟨b, hb, hpeek⟩ := h.exists_peek c.utf8Size_pos
      have hsize := h.lt_size (Nat.lt_add_of_pos_right c.utf8Size_pos)
      have hround := skipRound_eq (p := p) hsize hpeek
      rw [hp.eq_of_mem_units hb, if_neg hpc] at hround
      rw [List.takeWhile_cons_of_neg hpc]
      exact .done hround _

theorem skip_eq (hp : Coarse p) (h : Ahead text pos s) :
    skip text p pos = .ok (pos + byteLength (s.takeWhile p)) :=
  h.loopOver_eq (ends_skip hp h)

theorem skipQuoted_eq (hquote : quote.toNat < 128) (h : Ahead text start (quote :: s)) :
    skipQuoted text quote start = match splitQuote quote s with
      | none => .error (.fault ⟨start, .unterminatedQuote quote⟩)
      | some (inner, _) => .ok (start + byteLength (quote :: inner ++ [quote])) := by
  have hsize := utf8Size_of_lt hquote
  have hbehind : Ahead text (start + 1) s := hsize ▸ h.next
  have hskip : skip text (· != quote) (start + 1) =
      .ok (start + 1 + byteLength (s.takeWhile (· != quote))) :=
    skip_eq (coarse_beq hquote).not hbehind
  have hrest := hbehind.dropWhile (· != quote)
  rw [skipQuoted, hskip, splitQuote]
  cases hd : s.dropWhile (· != quote) with
  | nil =>
    rw [hd] at hrest
    have hend : ¬ start + 1 + byteLength (s.takeWhile (· != quote)) < size text := by
      simp [hrest.size_eq, byteLength]
    simp only [bind, Except.bind, if_neg hend]
    rfl
  | cons c rest =>
    rw [hd] at hrest
    have hend := hrest.lt_size (Nat.lt_add_of_pos_right c.utf8Size_pos)
    have hlength : byteLength (quote :: s.takeWhile (· != quote) ++ [quote]) =
        1 + byteLength (s.takeWhile (· != quote)) + 1 := by
      rw [byteLength_append, byteLength_cons, byteLength_cons, hsize]
      rfl
    simp only [bind, Except.bind, if_pos hend, hlength]
    simp [pure, Except.pure]
    omega

theorem splitComment_singleton (c : Char) : splitComment [c] = none := by
  rw [splitComment_cons (fun _ _ hnil ↦ by cases hnil)]
  rfl

theorem exists_peek_of_lt {i : Nat} (hi : i < size text) : ∃ b, peek text i = some b :=
  ⟨_, List.getElem?_eq_getElem hi⟩

theorem commentRound_eq {i : Nat} {b d : Char} (hi : i + 1 < size text)
    (hpeek : peek text i = some b) (hnext : peek text (i + 1) = some d) :
    commentRound text start i =
      .ok (if b = '*' ∧ d = '/' then .inr (i + 2) else .inl (i + 1)) := by
  rw [commentRound, if_pos hi, byteAt_of_peek hpeek, byteAt_of_peek hnext]
  by_cases hb : b = '*' <;> by_cases hd : d = '/' <;>
    simp [bind, Except.bind, pure, Except.pure, hb, hd]

theorem commentRound_of_end {i : Nat} (hi : ¬ i + 1 < size text) :
    commentRound text start i = .error (.fault ⟨start, .unterminatedComment⟩) := if_neg hi

theorem ends_comment (h : Ahead text pos s) :
    Ends (commentRound text start) pos (byteLength s) (match splitComment s with
      | none => .error (.fault ⟨start, .unterminatedComment⟩)
      | some (inner, _) => .ok (pos + byteLength (inner ++ ['*', '/']))) := by
  induction s generalizing pos with
  | nil => exact .stop (commentRound_of_end (by simp [h.size_eq, byteLength])) _
  | cons c s ih =>
    have hpos := c.utf8Size_pos
    cases s with
    | nil =>
      -- the loop stops one byte before the end, perhaps inside the last character
      have hsize : size text = pos + c.utf8Size := h.size_eq
      rw [splitComment_singleton]
      refine Ends.pass (n := c.utf8Size - 1) (f := fun i ↦ pos + i) (fun i hi ↦ ?_)
        (.stop (commentRound_of_end (by omega)) 0) (Nat.sub_le _ 1)
      obtain ⟨b, hb, hpeek⟩ := h.exists_peek (i := i) (by omega)
      obtain ⟨d, hnext⟩ := exists_peek_of_lt (show pos + i + 1 < size text by omega)
      have hstar : c ≠ '*' := by
        rintro rfl
        have : Char.utf8Size '*' = 1 := rfl
        omega
      rw [commentRound_eq (by omega) hpeek hnext,
        if_neg fun hbd ↦ ne_of_mem_units (by decide) hb hstar hbd.1]
      rfl
    | cons e s =>
      by_cases hend : c = '*' ∧ e = '/'
      · obtain ⟨rfl, rfl⟩ := hend
        have hnext : peek text (pos + 1) = some '/' := h.next.peek_of_lt (by decide)
        refine .done ?_ _
        rw [commentRound_eq (h.next.lt_size (i := pos + 1) (Nat.lt_succ_self _))
          (h.peek_of_lt (by decide)) hnext, if_pos ⟨rfl, rfl⟩]
        rfl
      · have hopen : ∀ r, c = '*' → e :: s ≠ '/' :: r :=
          fun r hc he ↦ hend ⟨hc, (List.cons.inj he).1⟩
        have hround : ∀ i b, pos ≤ i → i < pos + c.utf8Size → peek text i = some b →
            b ∈ units c → commentRound text start i = .ok (.inl (i + 1)) := by
          intro i b hle hi hpeek hb
          have hi' : i + 1 < size text := by
            have := h.next.lt_size (Nat.lt_add_of_pos_right e.utf8Size_pos)
            omega
          obtain ⟨d, hnext⟩ := exists_peek_of_lt hi'
          rw [commentRound_eq hi' hpeek hnext, if_neg]
          rintro ⟨hstar, rfl⟩
          exact h.not_pair (by decide) (by decide) hopen hle hi hb ⟨hstar, hnext⟩
        have hrest := ih h.next
        rw [splitComment_cons hopen]
        refine h.ends_char (f := id) hround ?_
        cases hsplit : splitComment (e :: s) with
        | none => rwa [hsplit] at hrest
        | some split =>
          rw [hsplit] at hrest
          simp only [Nat.add_assoc, ← byteLength_cons, ← List.cons_append] at hrest
          exact hrest

theorem skipComment_eq (h : Ahead text start ('/' :: '*' :: s)) :
    skipComment text start = match splitComment s with
      | none => .error (.fault ⟨start, .unterminatedComment⟩)
      | some (inner, _) => .ok (start + byteLength ('/' :: '*' :: inner ++ ['*', '/'])) := by
  have hbehind : Ahead text (start + 2) s := h.next.next
  rw [skipComment, hbehind.loopOver_eq (ends_comment hbehind)]
  cases splitComment s with
  | none => rfl
  | some split =>
    simp only [List.cons_append, byteLength_cons, ← Nat.add_assoc]
    rfl

theorem readWord_eq (h : Ahead text pos s) : readWord text pos =
    .ok (String.ofList (s.takeWhile isNameChar),
      pos + byteLength (s.takeWhile isNameChar)) := by
  have hsplit : Ahead text pos (s.takeWhile isNameChar ++ s.dropWhile isNameChar) := by
    rwa [List.takeWhile_append_dropWhile]
  rw [readWord, skip_eq coarse_isNameChar h]
  simp only [bind, Except.bind, hsplit.cut_eq]
  rfl

section Path

variable {word : List Char} {r : Except Stop (List String × Nat)}

theorem pathRound_eq (name : String) (words : List String) (h : Ahead text pos ('.' :: s)) :
    pathRound text name (words, pos) = match s.takeWhile isNameChar with
      | [] => .error (.fault ⟨pos + 1, .emptySegment name⟩)
      | word => .ok (.inl (words ++ [String.ofList word], pos + byteLength ('.' :: word))) := by
  have hbehind : Ahead text (pos + 1) s := h.next
  rw [pathRound, if_pos (h.peek_of_lt (by decide)), readWord_eq hbehind]
  cases s.takeWhile isNameChar with
  | nil => rfl
  | cons c word =>
    have hempty : (String.ofList (c :: word)).isEmpty = false := by
      simp [String.isEmpty_eq_false_iff]
    simp only [bind, Except.bind, hempty, Bool.false_eq_true, if_false, byteLength_cons '.',
      ← Nat.add_assoc]
    rfl

theorem ends_segment {name : String} {words : List String} (h : Ahead text pos ('.' :: s))
    (hword : s.takeWhile isNameChar = c :: word)
    (hrest : Ahead text (pos + byteLength ('.' :: c :: word)) (s.dropWhile isNameChar) →
      Ends (pathRound text name)
        (words ++ [String.ofList (c :: word)], pos + byteLength ('.' :: c :: word))
        (byteLength (s.dropWhile isNameChar)) r) :
    Ends (pathRound text name) (words, pos) (byteLength ('.' :: s)) r := by
  have hround := pathRound_eq name words h
  have hs : s = c :: word ++ s.dropWhile isNameChar := by
    rw [← hword, List.takeWhile_append_dropWhile]
  rw [hword] at hround
  rw [hs, ← List.cons_append] at h ⊢
  exact .behind hround (List.cons_ne_nil _ _) (hrest h.behind)

theorem ends_path (name : String) (words : List String) (h : Ahead text pos s) :
    Ends (pathRound text name) (words, pos) (byteLength s) (match Template.readPath s with
      | .error n => .error (.fault ⟨pos + n, .emptySegment name⟩)
      | .ok (path, _) => .ok (words ++ path.map String.ofList,
        pos + byteLength (path.map ('.' :: ·)).flatten)) := by
  fun_induction Template.readPath s generalizing pos words with
  | case1 rest hword =>
    refine .stop ?_ _
    rw [pathRound_eq name words h, hword]
  | case2 rest c cs hword n hpath ih =>
    refine ends_segment h hword fun hbehind ↦ ?_
    have hrest := ih (words ++ [String.ofList (c :: cs)]) hbehind
    rw [hpath] at hrest
    simp only [byteLength_cons '.', Nat.add_assoc] at hrest ⊢
    exact hrest
  | case3 rest c cs hword path rest' hpath ih =>
    refine ends_segment h hword fun hbehind ↦ ?_
    have hrest := ih (words ++ [String.ofList (c :: cs)]) hbehind
    rw [hpath] at hrest
    simp only [List.map_cons, List.flatten_cons, byteLength_append, ← Nat.add_assoc,
      List.append_assoc, List.singleton_append] at hrest ⊢
    exact hrest
  | case4 s hdot =>
    have hpeek : peek text pos ≠ some '.' := by
      rw [Ne, h.peek_eq_some_iff (by decide)]
      intro hhead
      obtain ⟨rest, rfl⟩ := List.head?_eq_some_iff.mp hhead
      exact hdot rest rfl
    refine .done ?_ _
    rw [pathRound, if_neg hpeek]
    simp [byteLength, pure, Except.pure]

end Path

/-- A walk that reads a token at `pos` agrees with the reader of the item there. -/
def Reads {α : Type} (pos : Nat) (token : α → Token) (r : Except Stop (α × Nat)) :
    Except Fault (Item × List Char) → Prop
  | .error f => r = .error (.fault (f.shift pos))
  | .ok (item, _) => ∃ a, r = .ok (a, pos + byteLength item.source) ∧
    ∀ tokens, addItem item tokens = token a :: tokens

theorem reads_parameter (h : Ahead text pos (':' :: s)) :
    Reads pos .parameter (readParameter text pos) (Item.readParameter s) := by
  have hbehind : Ahead text (pos + 1) s := h.next
  have hstart : (peek text (pos + 1)).any isNameStart = (s.head?.map isNameStart).getD false := by
    rw [hbehind.any_peek coarse_isNameStart]
    cases s <;> rfl
  have hrest := hbehind.dropWhile isNameChar
  have hpath := hrest.loopOver_eq (ends_path (String.ofList (s.takeWhile isNameChar)) [] hrest)
  rw [readParameter, Item.readParameter, hstart]
  split
  · rw [readWord_eq hbehind]
    simp only [bind, Except.bind, hpath]
    cases Template.readPath (s.dropWhile isNameChar) with
    | error n => simp only [Reads, Fault.shift, Nat.add_assoc]
    | ok read =>
      refine ⟨_, ?_, fun tokens ↦ rfl⟩
      simp [Item.source, byteLength_append, byteLength_cons, Nat.add_assoc, pure, Except.pure]
      rfl
  · rfl

section Slot

variable {opening arrow : Nat}

/-- Where the reader of a slot stops in the default that starts at `pos`, whose span is `d`. -/
def defaultEnd (opening arrow pos : Nat) (d : List Char × List Char) : Except Stop SlotState :=
  match d.2 with
  | [] => .error (.fault ⟨opening, .unbalancedOpen⟩)
  | '}' :: _ => .ok ⟨pos + byteLength d.1, 1, some arrow⟩
  | quote :: _ => .error (.fault ⟨pos + byteLength d.1, .unterminatedQuote quote⟩)

theorem defaultEnd_append (x : List Char) (d : List Char × List Char) :
    defaultEnd opening arrow (pos + byteLength x) d =
      defaultEnd opening arrow pos (x ++ d.1, d.2) := by
  simp only [defaultEnd, byteLength_append, Nat.add_assoc]

theorem defaultEnd_of_ne (hc : c ≠ '}') (x : List Char) :
    defaultEnd opening arrow pos (x, c :: s) =
      .error (.fault ⟨pos + byteLength x, .unterminatedQuote c⟩) := by
  rw [defaultEnd]
  simp

theorem slotRound_of_end {st : SlotState} (h : Ahead text st.pos []) :
    slotRound text opening st = .error (.fault ⟨opening, .unbalancedOpen⟩) := by
  have hnone : peek text st.pos = none := h.peek_eq 0
  rw [slotRound, hnone]
  rfl

theorem ends_default {depth : Nat} (h : Ahead text pos s) :
    Ends (slotRound text opening) ⟨pos, depth + 1, some arrow⟩ (byteLength s)
      (defaultEnd opening arrow pos (spanDefault depth s)) := by
  fun_induction spanDefault depth s generalizing pos with
  | case1 => exact .stop (slotRound_of_end h) _
  | case2 depth c rest hquote hsplit =>
    have hpeek := h.peek_of_lt (isQuote_lt hquote)
    have hskip := skipQuoted_eq (isQuote_lt hquote) h
    rw [hsplit] at hskip
    have hc : c ≠ '}' := by
      rintro rfl
      cases hquote
    rw [defaultEnd_of_ne hc]
    refine .stop ?_ _
    simp [slotRound, hpeek, hquote, hskip, bind, Except.bind, byteLength]
  | case3 depth c rest hquote inner rest' hsplit d =>
    rename_i ih
    have hpeek := h.peek_of_lt (isQuote_lt hquote)
    have hskip := skipQuoted_eq (isQuote_lt hquote) h
    rw [hsplit] at hskip
    have hround : slotRound text opening ⟨pos, depth + 1, some arrow⟩ =
        .ok (.inl ⟨pos + byteLength (c :: (inner ++ [c])), depth + 1, some arrow⟩) := by
      simp [slotRound, hpeek, hquote, hskip, bind, Except.bind, pure, Except.pure]
    have hrest : c :: rest = c :: (inner ++ [c]) ++ rest' := by
      simp [← splitQuote_eq hsplit]
    have hspan : (c :: inner ++ c :: d.1, d.2) =
        (c :: (inner ++ [c]) ++ (spanDefault depth rest').1, (spanDefault depth rest').2) := by
      simp [d]
    rw [hrest] at h ⊢
    rw [hspan, ← defaultEnd_append]
    exact .behind hround (List.cons_ne_nil _ _) (ih h.behind)
  | case4 rest =>
    have hpeek := h.peek_of_lt (by decide)
    refine .done ?_ _
    simp [slotRound, hpeek, pure, Except.pure, byteLength, isQuote]
  | case5 rest depth _ ih =>
    have hpeek := h.peek_of_lt (by decide)
    have hround : slotRound text opening ⟨pos, depth + 2, some arrow⟩ =
        .ok (.inl ⟨pos + 1, depth + 1, some arrow⟩) := by
      simp [slotRound, hpeek, pure, Except.pure, isQuote]
    exact defaultEnd_append ['}'] (spanDefault depth rest) ▸
      .behind hround (List.cons_ne_nil _ []) (ih h.next)
  | case6 depth rest _ _ ih =>
    have hpeek := h.peek_of_lt (by decide)
    have hround : slotRound text opening ⟨pos, depth + 1, some arrow⟩ =
        .ok (.inl ⟨pos + 1, depth + 2, some arrow⟩) := by
      simp [slotRound, hpeek, pure, Except.pure, isQuote]
    exact defaultEnd_append ['{'] (spanDefault (depth + 1) rest) ▸
      .behind hround (List.cons_ne_nil _ []) (ih h.next)
  | case7 depth c rest hquote hclose hopen ih =>
    have hround : ∀ i b, pos ≤ i → i < pos + c.utf8Size → peek text i = some b → b ∈ units c →
        slotRound text opening ⟨i, depth + 1, some arrow⟩ =
          .ok (.inl ⟨i + 1, depth + 1, some arrow⟩) := by
      intro i b _ _ hpeek hb
      have hbquote : isQuote b = false := by
        rw [coarse_isQuote.eq_of_mem_units hb]
        exact Bool.eq_false_iff.mpr hquote
      have hbclose : b ≠ '}' := ne_of_mem_units (by decide) hb hclose
      have hbopen : b ≠ '{' := ne_of_mem_units (by decide) hb hopen
      simp [slotRound, hpeek, hbquote, hbclose, hbopen, pure, Except.pure]
    exact defaultEnd_append [c] (spanDefault depth rest) ▸
      h.ends_char (f := fun i ↦ SlotState.mk i (depth + 1) (some arrow)) hround (ih h.next)

/-- Where the reader of a slot stops in the text that starts at `pos`, if the span of its name
is `d`. -/
def nameEnd (opening pos : Nat) (d : List Char × List Char) : Except Stop SlotState :=
  match d.2 with
  | [] => .error (.fault ⟨opening, .unbalancedOpen⟩)
  | '}' :: _ => .ok ⟨pos + byteLength d.1, 1, none⟩
  | '-' :: '>' :: rest =>
    defaultEnd opening (pos + byteLength d.1) (pos + byteLength d.1 + 2) (spanDefault 0 rest)
  | _ :: _ => .error (.fault ⟨pos + byteLength d.1, .nestedOpen⟩)

theorem nameEnd_append (x : List Char) (d : List Char × List Char) :
    nameEnd opening (pos + byteLength x) d = nameEnd opening pos (x ++ d.1, d.2) := by
  simp only [nameEnd, byteLength_append, Nat.add_assoc]

theorem nameEnd_of_ne (hc : c ≠ '}') (harrow : ∀ r, c = '-' → s ≠ '>' :: r) (x : List Char) :
    nameEnd opening pos (x, c :: s) = .error (.fault ⟨pos + byteLength x, .nestedOpen⟩) := by
  rw [nameEnd]
  split
  · simp_all
  · simp_all
  · simp_all
  · rfl

theorem ends_name (opening : Nat) (h : Ahead text pos s) :
    Ends (slotRound text opening) ⟨pos, 1, none⟩ (byteLength s)
      (nameEnd opening pos (spanName s)) := by
  fun_induction spanName s generalizing pos with
  | case1 => exact .stop (slotRound_of_end h) _
  | case2 rest =>
    have hpeek := h.peek_of_lt (by decide)
    have hnext : peek text (pos + 1) = some '>' := h.next.peek_of_lt (by decide)
    have hround : slotRound text opening ⟨pos, 1, none⟩ =
        .ok (.inl ⟨pos + 2, 1, some pos⟩) := by
      simp [slotRound, hpeek, hnext, pure, Except.pure]
    exact .behind hround (List.cons_ne_nil '-' ['>']) (ends_default h.next.next)
  | case3 c rest hpair hbrace =>
    rcases hbrace with rfl | rfl
    · have hpeek := h.peek_of_lt (by decide)
      refine .stop ?_ _
      simp [slotRound, hpeek, byteLength]
      rfl
    · have hpeek := h.peek_of_lt (by decide)
      refine .done ?_ _
      simp [slotRound, hpeek, byteLength, pure, Except.pure]
  | case4 c rest hpair hbrace ih =>
    have hround : ∀ i b, pos ≤ i → i < pos + c.utf8Size → peek text i = some b → b ∈ units c →
        slotRound text opening ⟨i, 1, none⟩ = .ok (.inl ⟨i + 1, 1, none⟩) := by
      intro i b hle hi hpeek hb
      have hbopen : b ≠ '{' := ne_of_mem_units (by decide) hb fun hc ↦ hbrace (.inl hc)
      have hbclose : b ≠ '}' := ne_of_mem_units (by decide) hb fun hc ↦ hbrace (.inr hc)
      have hbpair := h.not_pair (by decide) (by decide) hpair hle hi hb
      simp [slotRound, hpeek, hbclose, hbopen, hbpair, pure, Except.pure]
    exact nameEnd_append [c] (spanName rest) ▸
      h.ends_char (f := fun i ↦ SlotState.mk i 1 none) hround (ih h.next)

theorem isName_eq (name : List Char) : isName (String.ofList name) = .ok (isIdentifier name) := by
  have hstart := ahead_start (String.ofList name)
  rw [String.toList_ofList] at hstart
  have hoctets : octets (String.ofList name) = name.flatMap units := by
    rw [octets_eq, String.toList_ofList]
  rw [isName, hoctets]
  cases name with
  | nil => rfl
  | cons c cs =>
    obtain ⟨b, hb, hpeek⟩ := hstart.exists_peek c.utf8Size_pos
    have hsome : ((c :: cs).flatMap units).isEmpty = false :=
      List.isEmpty_eq_false_iff_exists_mem.mpr
        ⟨b, List.mem_flatMap.mpr ⟨c, List.mem_cons_self, hb⟩⟩
    rw [hsome, byteAt_of_peek hpeek]
    simp only [bind, Except.bind, pure, Except.pure, Bool.false_eq_true, if_false, isIdentifier,
      coarse_isNameStart.eq_of_mem_units hb]
    cases hc : isNameStart c with
    | false => rfl
    | true =>
      have hunits := units_of_lt (isNameChar_lt (isNameChar_of_isNameStart hc))
      simp only [List.flatMap_cons, hunits, List.singleton_append, List.drop_one, List.tail_cons,
        List.all_flatMap, coarse_isNameChar.all_units]

theorem reads_checkName {before rest : List Char} {after? : Option (List Char)} {st : SlotState}
    (h : Ahead text opening ((Item.slot before after?).source ++ rest))
    (hloop : loopOver text (slotRound text opening) { pos := opening + 1 } = .ok st)
    (hparts : slotParts text opening st.pos st.arrow? = .ok (String.ofList (Text.trim before),
      after?.map fun s ↦ String.ofList (Text.trim s)))
    (hrest : Ahead text (st.pos + 1) rest) :
    Reads opening .slot (readSlot text opening) (Item.checkName before after? rest) := by
  have hclose : st.pos + 1 = opening + byteLength (Item.slot before after?).source :=
    Nat.add_right_cancel (hrest.size_eq.symm.trans h.behind.size_eq)
  rw [readSlot, hloop, Item.checkName]
  simp only [bind, Except.bind, hparts, isName_eq]
  cases isIdentifier (Text.trim before) with
  | false => rfl
  | true =>
    refine ⟨_, ?_, fun tokens ↦ rfl⟩
    simp only [hclose, h.cut_eq]
    rfl

theorem trimmed_ofList (piece : List Char) :
    trimmed (String.ofList piece) = String.ofList (Text.trim piece) := by
  rw [trimmed, String.toList_ofList]

theorem slotParts_none {before rest : List Char} (h : Ahead text (opening + 1) (before ++ rest)) :
    slotParts text opening (opening + 1 + byteLength before) none =
      .ok (String.ofList (Text.trim before), none) := by
  simp only [slotParts, h.cut_eq, bind, Except.bind, trimmed_ofList]
  rfl

theorem slotParts_some {before after rest : List Char}
    (h : Ahead text (opening + 1) (before ++ '-' :: '>' :: (after ++ rest))) :
    slotParts text opening (opening + 1 + byteLength before + 2 + byteLength after)
      (some (opening + 1 + byteLength before)) =
        .ok (String.ofList (Text.trim before), some (String.ofList (Text.trim after))) := by
  have hafter : Ahead text (opening + 1 + byteLength before + 2) (after ++ rest) :=
    h.behind.next.next
  simp only [slotParts, h.cut_eq, hafter.cut_eq, bind, Except.bind, trimmed_ofList]
  rfl

theorem reads_slot (h : Ahead text opening ('{' :: s)) :
    Reads opening .slot (readSlot text opening) (Item.readSlot s) := by
  have hbehind : Ahead text (opening + 1) s := h.next
  have hloop := hbehind.loopOver_eq (ends_name opening hbehind)
  have hstop : ∀ f, loopOver text (slotRound text opening) { pos := opening + 1 } =
      .error (.fault f) → readSlot text opening = .error (.fault f) := by
    intro f hf
    rw [readSlot, hf]
    rfl
  have hspan := spanName_eq s
  rw [Item.readSlot]
  generalize spanName s = d at hloop hspan ⊢
  obtain ⟨before, tail⟩ := d
  subst hspan
  dsimp only at h hbehind ⊢
  split
  · rename_i rest
    refine reads_checkName ?_ hloop (slotParts_none hbehind) hbehind.behind.next
    simpa [Item.source] using h
  · rename_i rest
    have hloop' : loopOver text (slotRound text opening) { pos := opening + 1 } =
      defaultEnd opening (opening + 1 + byteLength before) (opening + 1 + byteLength before + 2)
        (spanDefault 0 rest) := hloop
    have hspan' := spanDefault_eq 0 rest
    generalize spanDefault 0 rest = d at hloop' hspan' ⊢
    obtain ⟨after, tail⟩ := d
    subst hspan'
    dsimp only at h hbehind ⊢
    have hafter := hbehind.behind.next.next.behind
    split
    · exact hstop _ hloop'
    · refine reads_checkName ?_ hloop' (slotParts_some hbehind) hafter.next
      simpa [Item.source] using h
    · rename_i c rest hclose
      rw [defaultEnd_of_ne hclose] at hloop'
      have hread := hstop _ hloop'
      simpa only [Reads, Fault.shift, Nat.add_assoc] using hread
  · exact hstop _ hloop
  · rename_i c rest hclose harrow
    rw [nameEnd_of_ne hclose harrow] at hloop
    have hread := hstop _ hloop
    rwa [Nat.add_assoc] at hread

end Slot

end QueryCatalog.Template.Walk
