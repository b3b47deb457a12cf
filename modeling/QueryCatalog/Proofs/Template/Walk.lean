import QueryCatalog.Proofs.Template.Loops

namespace QueryCatalog.Template.Walk

variable {text : String} {start : Nat} {tokens : List Token} {c b : Char}
  {lit s rest : List Char} {item : Item}

def pending (lit : List Char) : List Token :=
  if lit = [] then [] else [.literal (String.ofList lit)]

def withPending (lit : List Char) (tokens : List Token) : List Token :=
  if lit = [] then tokens else addText (String.ofList lit) tokens

theorem withPending_nil (lit : List Char) : withPending lit [] = pending lit := by
  rw [withPending, pending]
  rfl

theorem withPending_token {token : Token} (h : ∀ u, token ≠ .literal u) (tokens : List Token) :
    withPending lit (token :: tokens) = pending lit ++ token :: tokens := by
  rw [withPending, pending]
  split
  · rfl
  · rw [addText_of_not_literal fun u rest htoken ↦ h u (List.cons.inj htoken).1]
    rfl

theorem withPending_text (h : item.IsText) (tokens : List Token) :
    withPending lit (addItem item tokens) = withPending (lit ++ item.source) tokens := by
  rw [addItem_of_isText h, withPending, withPending]
  cases lit with
  | nil => rw [if_pos rfl, List.nil_append, if_neg item.source_ne_nil]
  | cons c lit =>
    have hne : c :: lit ++ item.source ≠ [] := List.cons_ne_nil c (lit ++ item.source)
    rw [if_neg (List.cons_ne_nil c lit), if_neg hne, String.ofList_append, addText_append]

/-- What a step makes of the item that is read at its position. -/
def Steps (st : State) (lit : List Char) (r : Except Stop State) :
    Except Fault (Item × List Char) → Prop
  | .error f => r = .error (.fault (f.shift st.pos))
  | .ok (item, _) =>
    item.IsText ∧ r = .ok { st with pos := st.pos + byteLength item.source } ∨
    ∃ token, (∀ u, token ≠ .literal u) ∧ (∀ tokens, addItem item tokens = token :: tokens) ∧
      r = .ok (State.push { st with tokens := st.tokens ++ pending lit } token
        (st.pos + byteLength item.source))

theorem flush_eq (h : Ahead text start (lit ++ s)) :
    flush text ⟨start + byteLength lit, start, tokens⟩ =
      .ok ⟨start + byteLength lit, start + byteLength lit, tokens ++ pending lit⟩ := by
  cases lit with
  | nil => simp [flush, pending, byteLength, pure, Except.pure]
  | cons c lit =>
    have hpos := c.utf8Size_pos
    have hlt : start < start + byteLength (c :: lit) := by
      rw [byteLength_cons]
      omega
    simp only [flush, if_pos hlt, h.cut_eq, bind, Except.bind, pending, List.cons_ne_nil, if_false]
    rfl

section Step

variable {st : State}

theorem step_plain (hquote : ¬ isQuote c) (hc : c ∉ [':', '{', '}', '?'])
    (hdash : ¬ (c = '-' ∧ peek text (st.pos + 1) = some '-'))
    (hslash : ¬ (c = '/' ∧ peek text (st.pos + 1) = some '*'))
    (hescape : ¬ (c = '\\' ∧ (peek text (st.pos + 1)).any isEscapable)) :
    step text c st = .ok { st with pos := st.pos + 1 } := by
  simp only [List.mem_cons, List.not_mem_nil, or_false, not_or] at hc
  obtain ⟨hcolon, hopen, hclose, hmark⟩ := hc
  simp only [step, hquote, hdash, hslash, hescape, hcolon, hopen, hclose, hmark, false_and,
    Bool.false_eq_true, if_false]
  rfl

theorem step_of_le (hb : 128 ≤ b.toNat) : step text b st = .ok { st with pos := st.pos + 1 } := by
  have hplain : b ∉ [':', '{', '}', '?'] := by
    simp [ne_of_le hb]
  refine step_plain (not_isQuote_of_le hb) hplain ?_ ?_ ?_
  · exact fun h ↦ ne_of_le hb (by decide) h.1
  · exact fun h ↦ ne_of_le hb (by decide) h.1
  · exact fun h ↦ ne_of_le hb (by decide) h.1

theorem read_of_le (hc : 128 ≤ c.toNat) (s : List Char) : Item.read c s = .ok (.plain c, s) := by
  unfold Item.read
  rw [if_neg (not_isQuote_of_le hc)]
  split
  all_goals first | rfl | exact absurd rfl (ne_of_le hc (by decide))

theorem Reads.steps {α : Type} {token : α → Token} {r : Except Stop (α × Nat)}
    {read : Except Fault (Item × List Char)} (st : State) (lit : List Char)
    (h : Reads st.pos token r read) (hliteral : ∀ a u, token a ≠ .literal u) :
    Steps st lit (r.map fun p ↦
      State.push { st with tokens := st.tokens ++ pending lit } (token p.1) p.2) read := by
  cases read with
  | error f =>
    have hr : r = .error (.fault (f.shift st.pos)) := h
    rw [hr]
    rfl
  | ok p =>
    obtain ⟨a, hr, hadd⟩ := h
    refine Or.inr ⟨token a, hliteral a, hadd, ?_⟩
    rw [hr]
    rfl

theorem steps_quoted (hquote : isQuote c) (h : Ahead text st.pos (c :: s)) :
    Steps st lit (step text c st) (Item.read c s) := by
  have hskip := skipQuoted_eq (isQuote_lt hquote) h
  unfold Item.read
  rw [if_pos hquote, step, if_pos hquote, hskip]
  cases splitQuote c s with
  | none => rfl
  | some split => exact Or.inl ⟨trivial, rfl⟩

theorem steps_lineComment (h : Ahead text st.pos ('-' :: '-' :: s)) :
    Steps st lit (step text '-' st) (Item.read '-' ('-' :: s)) := by
  have hnext : peek text (st.pos + 1) = some '-' := h.next.peek_of_lt (by decide)
  have hskip : skip text (· != '\n') st.pos = _ := skip_eq (coarse_beq (by decide)).not h
  refine Or.inl ⟨trivial, ?_⟩
  simp only [step, hnext, hskip]
  rfl

theorem steps_blockComment (h : Ahead text st.pos ('/' :: '*' :: s)) :
    Steps st lit (step text '/' st) (Item.read '/' ('*' :: s)) := by
  have hnext : peek text (st.pos + 1) = some '*' := h.next.peek_of_lt (by decide)
  have hskip := skipComment_eq h
  simp only [step, hnext, hskip]
  cases hsplit : splitComment s with
  | none =>
    have hread : Item.read '/' ('*' :: s) = .error ⟨0, .unterminatedComment⟩ := by
      simp [Item.read, isQuote, hsplit]
    rw [hread]
    rfl
  | some split =>
    have hread : Item.read '/' ('*' :: s) = .ok (.blockComment split.1, split.2) := by
      simp [Item.read, isQuote, hsplit]
    rw [hread]
    exact Or.inl ⟨trivial, rfl⟩

theorem steps_escape {d : Char} (h : Ahead text start (lit ++ '\\' :: d :: s)) :
    Steps ⟨start + byteLength lit, start, tokens⟩ lit
      (step text '\\' ⟨start + byteLength lit, start, tokens⟩) (Item.read '\\' (d :: s)) := by
  have hnext : Ahead text (start + byteLength lit + 1) (d :: s) := h.behind.next
  have hany := hnext.any_peek coarse_isEscapable
  have hread : Item.read '\\' (d :: s) =
    if isEscapable d then .ok (.escape d, s) else .ok (.plain '\\', d :: s) := rfl
  rw [hread]
  split
  · rename_i hd
    have hbyte := byteAt_of_peek (hnext.peek_of_lt (isEscapable_lt hd))
    have hlength : byteLength (Item.escape d).source = 2 := by
      rw [Item.source, byteLength_cons, byteLength_cons, utf8Size_of_lt (isEscapable_lt hd)]
      rfl
    refine Or.inr ⟨.escaped d, fun u hu ↦ Token.noConfusion hu, fun tokens ↦ rfl, ?_⟩
    simp [step, isQuote, hany, hd, flush_eq h, hbyte, bind, Except.bind, pure, Except.pure, hlength,
      State.push]
  · rename_i hd
    refine Or.inl ⟨trivial, ?_⟩
    simp [step, isQuote, hany, hd, pure, Except.pure]
    rfl

theorem steps_parameter (h : Ahead text start (lit ++ ':' :: s)) (hs : ∀ r, s ≠ ':' :: r) :
    Steps ⟨start + byteLength lit, start, tokens⟩ lit
      (step text ':' ⟨start + byteLength lit, start, tokens⟩) (Item.readParameter s) := by
  have hcolon : peek text (start + byteLength lit + 1) ≠ some ':' := by
    have hnext : Ahead text (start + byteLength lit + 1) s := h.behind.next
    rw [Ne, hnext.peek_eq_some_iff (by decide)]
    intro hhead
    obtain ⟨r, hr⟩ := List.head?_eq_some_iff.mp hhead
    exact hs r hr
  have hreads := Reads.steps ⟨_, start, tokens⟩ lit (reads_parameter h.behind) nofun
  have hstep : step text ':' ⟨start + byteLength lit, start, tokens⟩ =
      (readParameter text (start + byteLength lit)).map fun p ↦
        State.push ⟨start + byteLength lit, start, tokens ++ pending lit⟩ (.parameter p.1) p.2 := by
    simp [step, isQuote, hcolon, flush_eq h, bind, Except.bind, pure, Except.pure]
    rfl
  rwa [hstep]

theorem steps_slot (h : Ahead text start (lit ++ '{' :: s)) :
    Steps ⟨start + byteLength lit, start, tokens⟩ lit
      (step text '{' ⟨start + byteLength lit, start, tokens⟩) (Item.readSlot s) := by
  have hreads := Reads.steps ⟨_, start, tokens⟩ lit (reads_slot h.behind) nofun
  have hstep : step text '{' ⟨start + byteLength lit, start, tokens⟩ =
      (readSlot text (start + byteLength lit)).map fun p ↦
        State.push ⟨start + byteLength lit, start, tokens ++ pending lit⟩ (.slot p.1) p.2 := by
    simp [step, isQuote, flush_eq h, bind, Except.bind, pure, Except.pure]
    rfl
  rwa [hstep]

theorem steps_of_lt (tokens : List Token) (hc : c.toNat < 128)
    (h : Ahead text start (lit ++ c :: s)) :
    Steps ⟨start + byteLength lit, start, tokens⟩ lit
      (step text c ⟨start + byteLength lit, start, tokens⟩) (Item.read c s) := by
  have hpos : Ahead text (start + byteLength lit) (c :: s) := h.behind
  have hnext : Ahead text (start + byteLength lit + 1) s := utf8Size_of_lt hc ▸ hpos.next
  by_cases hquote : isQuote c
  · exact steps_quoted hquote hpos
  unfold Item.read
  rw [if_neg hquote]
  split
  · exact steps_lineComment hpos
  · exact steps_blockComment hpos
  · exact steps_escape h
  · have hcolon := hnext.peek_of_lt hc
    refine Or.inl ⟨trivial, ?_⟩
    simp [step, isQuote, hcolon, pure, Except.pure]
    rfl
  · rename_i hcolon
    exact steps_parameter h hcolon
  · exact steps_slot h
  · rfl
  · rfl
  · rename_i hcolon hopen hclose hmark hdash hslash hescape _
    have hhead : ∀ x : Char, x.toNat < 128 →
        peek text (start + byteLength lit + 1) = some x → ∃ r, s = x :: r :=
      fun x hx hpeek ↦ List.head?_eq_some_iff.mp ((hnext.peek_eq_some_iff hx).mp hpeek)
    refine Or.inl ⟨trivial, ?_⟩
    have hlength : byteLength (Item.plain c).source = 1 := utf8Size_of_lt hc
    rw [hlength]
    refine step_plain hquote (by simp_all) ?_ ?_ ?_
    · rintro ⟨hc, hpeek⟩
      obtain ⟨r, hr⟩ := hhead '-' (by decide) hpeek
      exact hdash r hc hr
    · rintro ⟨hc, hpeek⟩
      obtain ⟨r, hr⟩ := hhead '*' (by decide) hpeek
      exact hslash r hc hr
    · rintro ⟨hc, hany⟩
      cases s with
      | nil =>
        rw [hnext.any_peek coarse_isEscapable] at hany
        cases hany
      | cons d rest => exact hescape d rest hc rfl

end Step

def withFront (item : Item) : Except Fault (List Item) → Except Fault (List Item)
  | .error f => .error (f.shift (byteLength item.source))
  | .ok items => .ok (item :: items)

def outcome (start : Nat) (lit : List Char) (tokens : List Token) :
    Except Fault (List Item) → Except Stop (List Token)
  | .error f => .error (.fault (f.shift (start + byteLength lit)))
  | .ok items => .ok (tokens ++ withPending lit (tokensOf items))

theorem outcome_text (h : item.IsText) (r : Except Fault (List Item)) :
    outcome start (lit ++ item.source) tokens r = outcome start lit tokens (withFront item r) := by
  cases r with
  | error f =>
    rw [outcome, withFront, outcome, Fault.shift_shift, byteLength_append, Nat.add_assoc]
  | ok items =>
    rw [outcome, withFront, outcome, ← withPending_text h]
    rfl

theorem outcome_token {token : Token} (hliteral : ∀ u, token ≠ .literal u)
    (h : ∀ tokens, addItem item tokens = token :: tokens) (r : Except Fault (List Item)) :
    outcome (start + byteLength lit + byteLength item.source) []
        (tokens ++ pending lit ++ [token]) r =
      outcome start lit tokens (withFront item r) := by
  cases r with
  | error f =>
    rw [outcome, withFront, outcome, Fault.shift_shift]
    rfl
  | ok items =>
    have hitems : tokensOf (item :: items) = token :: tokensOf items := h (tokensOf items)
    rw [outcome, withFront, outcome, hitems, withPending_token hliteral, withPending, if_pos rfl]
    simp

theorem round_eq (st : State) (hpeek : peek text st.pos = some b) :
    round text st = (step text b st).map .inl := by
  have hlt : st.pos < size text := (List.getElem?_eq_some_iff.mp hpeek).1
  rw [round, if_pos hlt, byteAt_of_peek hpeek]
  simp only [bind, Except.bind]
  cases step text b st <;> rfl

/-- One step, or one for each byte of a character beyond ASCII, passes an item. -/
theorem ends_item {r : Except Fault (List Item)} (h : Ahead text start (lit ++ c :: s))
    (hread : Item.read c s = .ok (item, rest))
    (hrest : ∀ start lit tokens, Ahead text start (lit ++ rest) →
      Ends (round text) ⟨start + byteLength lit, start, tokens⟩ (byteLength rest)
        (outcome start lit tokens r)) :
    Ends (round text) ⟨start + byteLength lit, start, tokens⟩ (byteLength (c :: s))
      (outcome start lit tokens (withFront item r)) := by
  have hpos : Ahead text (start + byteLength lit) (c :: s) := h.behind
  rcases Nat.lt_or_ge c.toNat 128 with hc | hc
  · have hstep := steps_of_lt tokens hc h
    have hsource := Item.source_append_of_read hread
    have hround := round_eq ⟨_, start, tokens⟩ (hpos.peek_of_lt hc)
    rw [hread] at hstep
    rw [← hsource] at h ⊢
    rcases hstep with ⟨htext, hstep⟩ | ⟨token, hliteral, hadd, hstep⟩
    · rw [hstep] at hround
      rw [← List.append_assoc] at h
      have hends := hrest start (lit ++ item.source) tokens h
      rw [outcome_text htext, byteLength_append, ← Nat.add_assoc] at hends
      exact .behind hround item.source_ne_nil hends
    · rw [hstep] at hround
      have hahead : Ahead text _ ([] ++ rest) := h.behind.behind
      have hends := hrest _ [] (tokens ++ pending lit ++ [token]) hahead
      rw [outcome_token hliteral hadd] at hends
      exact .behind hround item.source_ne_nil hends
  · rw [read_of_le hc] at hread
    cases hread
    have hround : ∀ i b, start + byteLength lit ≤ i → i < start + byteLength lit + c.utf8Size →
        peek text i = some b → b ∈ units c →
        round text ⟨i, start, tokens⟩ = .ok (.inl ⟨i + 1, start, tokens⟩) := by
      intro i b _ _ hpeek hb
      rw [round_eq _ hpeek, step_of_le (le_of_mem_units hc hb)]
      rfl
    have hahead : Ahead text start (lit ++ [c] ++ s) := by rwa [List.append_assoc]
    have hends := hrest start (lit ++ [c]) tokens hahead
    rw [← outcome_text (show (Item.plain c).IsText from trivial)]
    rw [byteLength_append, ← Nat.add_assoc] at hends
    exact hpos.ends_char (f := fun i ↦ State.mk i start tokens) hround hends

theorem ends_run (h : Ahead text start (lit ++ s)) :
    Ends (round text) ⟨start + byteLength lit, start, tokens⟩ (byteLength s)
      (outcome start lit tokens (scan s)) := by
  -- between items the walk stands where a character starts, with the literal `lit` behind it
  fun_induction scan s generalizing start lit tokens with
  | case1 =>
    have hsize : ¬ start + byteLength lit < size text := by
      rw [h.size_eq, byteLength_append]
      exact Nat.lt_irrefl _
    refine .done ?_ _
    rw [round, if_neg hsize, flush_eq h, tokensOf, List.foldr_nil, withPending_nil]
    rfl
  | case2 c cs f hread =>
    have hc : c.toNat < 128 := by
      by_contra hc
      rw [read_of_le (Nat.le_of_not_lt hc)] at hread
      cases hread
    have hstep := steps_of_lt tokens hc h
    have hround := round_eq ⟨_, start, tokens⟩ (h.behind.peek_of_lt hc)
    rw [hread] at hstep
    refine .stop ?_ _
    rw [hround, hstep]
    rfl
  | case3 c cs item rest hread f hscan ih =>
    rw [hscan] at ih
    exact ends_item h hread fun start lit tokens ↦ ih
  | case4 c cs item rest hread items hscan ih =>
    rw [hscan] at ih
    exact ends_item h hread fun start lit tokens ↦ ih

section Offsets

variable {n : Nat} {t : List Char} {f : Fault}

def Starts (n : Nat) (s : List Char) : Prop :=
  ∃ front rest, s = front ++ rest ∧ byteLength front = n

theorem starts_zero (s : List Char) : Starts 0 s := ⟨[], s, rfl, rfl⟩

theorem Starts.append (h : Starts n t) (s : List Char) : Starts (byteLength s + n) (s ++ t) := by
  obtain ⟨front, rest, rfl, rfl⟩ := h
  exact ⟨s ++ front, rest, (List.append_assoc ..).symm, byteLength_append s front⟩

theorem starts_of_readPath (h : Template.readPath s = .error n) : Starts n s := by
  fun_induction Template.readPath s generalizing n with
  | case1 rest =>
    cases h
    exact (starts_zero rest).append ['.']
  | case2 rest c cs hword m hpath ih =>
    cases h
    have hrest := ((ih hpath).append (c :: cs)).append ['.']
    rw [← hword, List.takeWhile_append_dropWhile, hword, ← Nat.add_assoc] at hrest
    exact hrest
  | case3 => cases h
  | case4 => cases h

theorem starts_of_readParameter (h : Item.readParameter s = .error f) :
    Starts f.offset (':' :: s) := by
  rw [Item.readParameter] at h
  split at h
  · split at h
    · rename_i n hpath
      cases h
      have hrest := ((starts_of_readPath hpath).append (s.takeWhile isNameChar)).append [':']
      rw [List.takeWhile_append_dropWhile, ← Nat.add_assoc] at hrest
      exact hrest
    · cases h
  · cases h
    exact starts_zero _

theorem starts_of_checkName {before : List Char} {after? : Option (List Char)}
    (h : Item.checkName before after? rest = .error f) : Starts f.offset ('{' :: s) := by
  rw [Item.checkName] at h
  split at h
  · cases h
  · cases h
    exact (starts_zero s).append ['{']

theorem starts_of_readSlot (h : Item.readSlot s = .error f) : Starts f.offset ('{' :: s) := by
  have hspan := spanName_eq s
  rw [Item.readSlot] at h
  split at h
  · exact starts_of_checkName h
  · rename_i rest hname
    have hspan' := spanDefault_eq 0 rest
    split at h
    · cases h
      exact starts_zero _
    · exact starts_of_checkName h
    · cases h
      have hrest : Starts (byteLength (spanDefault 0 rest).1) rest := ⟨_, _, hspan'.symm, rfl⟩
      have hopen := ((hrest.append ['-', '>']).append (spanName s).1).append ['{']
      have harrow : ['-', '>'] ++ rest = (spanName s).2 := hname.symm
      rw [harrow, hspan, ← Nat.add_assoc, ← Nat.add_assoc] at hopen
      exact hopen
  · cases h
    exact starts_zero _
  · cases h
    have hname : Starts _ s := ⟨_, _, hspan.symm, rfl⟩
    exact hname.append ['{']

theorem starts_of_read (h : Item.read c s = .error f) : Starts f.offset (c :: s) := by
  unfold Item.read at h
  split at h
  · split at h
    · cases h
      exact starts_zero _
    · cases h
  · split at h
    · cases h
    · split at h
      · cases h
        exact starts_zero _
      · cases h
    · split at h <;> cases h
    · cases h
    · exact starts_of_readParameter h
    · exact starts_of_readSlot h
    · cases h
      exact starts_zero _
    · cases h
      exact starts_zero _
    · cases h

theorem starts_of_scan (h : scan s = .error f) : Starts f.offset s := by
  fun_induction scan s generalizing f with
  | case1 => cases h
  | case2 c cs f' hread =>
    cases h
    exact starts_of_read hread
  | case3 c cs item rest hread f' hscan ih =>
    cases h
    rw [← Item.source_append_of_read hread]
    exact (ih hscan).append item.source
  | case4 => cases h

end Offsets

theorem compile_eq (text : String) : compile text = match Template.compile text with
    | .error f => .error (.fault f)
    | .ok t => .ok t := by
  have hstart : Ahead text 0 ([] ++ text.toList) := ahead_start text
  have hrun : loopOver text (round text) {} = outcome 0 [] [] (scan text.toList) :=
    Ahead.loopOver_eq hstart (ends_run hstart)
  rw [compile, hrun, Template.compile]
  cases scan text.toList with
  | error f =>
    have hshift : f.shift (0 + byteLength []) = f := by
      rw [Fault.shift, byteLength]
      exact congrArg (Fault.mk · f.kind) (Nat.zero_add _)
    rw [outcome, hshift]
    rfl
  | ok items => rfl

/-- The walk reads every byte at an index that is there, cuts only between places where characters
start, and comes to an end with the template or with the fault of the text, which stands at such a
place too. -/
theorem walk_stays_on_characters (text : String) :
    (∃ t, compile text = .ok t ∧ Template.compile text = .ok t) ∨
      ∃ f, compile text = .error (.fault f) ∧ Template.compile text = .error f ∧
        f.offset ≤ text.utf8ByteSize ∧ String.Pos.Raw.IsValid text ⟨f.offset⟩ := by
  have hcompile := compile_eq text
  cases hresult : Template.compile text with
  | ok t =>
    rw [hresult] at hcompile
    exact Or.inl ⟨t, hcompile, rfl⟩
  | error f =>
    rw [hresult] at hcompile
    have hscan : scan text.toList = .error f := Outcome.map_eq_error_iff.mp hresult
    obtain ⟨front, rest, htext, hoffset⟩ := starts_of_scan hscan
    have hahead : Ahead text f.offset rest := ⟨front, htext, hoffset⟩
    exact Or.inr ⟨f, hcompile, rfl, hahead.isValid.le_utf8ByteSize, hahead.isValid⟩

example : cut "é" 0 1 = .error (.cut 0 1) := by decide +kernel

end QueryCatalog.Template.Walk
