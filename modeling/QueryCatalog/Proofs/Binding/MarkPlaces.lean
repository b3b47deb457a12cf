import QueryCatalog.Binding.Binder
import QueryCatalog.Proofs.Template.Literals

namespace QueryCatalog.Binding

open ScanMode Template

/-- A separator that can neither pass for a mark nor open a quote or comment. -/
def PlainSeparator (separator : String) : Prop :=
  ∀ c ∈ separator.toList, c ∉ ['?', '\'', '\"', '\x60', '-', '/']

theorem plainSeparator_default : PlainSeparator ({} : BindOptions).listSeparator := by
  intro c hc
  have hlist : ({} : BindOptions).listSeparator.toList = [',', ' '] := by decide
  rw [hlist] at hc
  rcases List.mem_pair.mp hc with rfl | rfl <;> decide

def Piece.places (separator : String) (n : Nat) (piece : Piece) : List Nat :=
  (List.range piece.bound.length).map fun k ↦ n + k * (separator.length + 1)

def ownedPlaces (separator : String) : Nat → List Piece → List Nat
  | _, [] => []
  | n, piece :: pieces =>
    piece.places separator n ++ ownedPlaces separator (n + piece.text.length) pieces

variable {separator : String} {m : ScanMode} {n : Nat}

theorem PlainSeparator.silent (h : PlainSeparator separator) :
    text.Silent separator.toList text := by
  refine .of_forall fun c hc ↦ ?_
  have hplain := h c hc
  simp only [List.mem_cons, List.not_mem_nil, or_false, not_or] at hplain
  obtain ⟨hmark, hsingle, hdouble, hback, hdash, hslash⟩ := hplain
  have hquote : isQuote c = false := by simp [isQuote, hsingle, hdouble, hback]
  exact ⟨by simp [step, ofText, hquote, hdash, hslash], Or.inl hmark⟩

def markList (separator : String) (k : Nat) : List Char :=
  separator.toList.intercalate (List.replicate k ['?'])

theorem markList_succ (k : Nat) : markList separator (k + 2) =
    '?' :: (separator.toList ++ markList separator (k + 1)) := by
  rw [markList, List.replicate_succ, List.replicate_succ, List.intercalate_cons_cons]
  simp [markList, List.replicate_succ]

theorem markList_cons (separator : String) (k : Nat) :
    ∃ s, markList separator (k + 1) = '?' :: s := by
  cases k with
  | zero => exact ⟨[], rfl⟩
  | succ k => exact ⟨_, markList_succ k⟩

theorem markList_append (separator : String) (k : Nat) :
    ∃ s, markList separator (k + 1) = s ++ ['?'] := by
  induction k with
  | zero => exact ⟨[], rfl⟩
  | succ k ih =>
    obtain ⟨s, hs⟩ := ih
    exact ⟨'?' :: (separator.toList ++ s), by rw [markList_succ, hs]; simp⟩

theorem length_markList (k : Nat) :
    (markList separator (k + 1)).length = k * (separator.length + 1) + 1 := by
  induction k with
  | zero => rw [Nat.zero_mul]; rfl
  | succ k ih =>
    rw [markList_succ, List.length_cons, List.length_append, ih, String.length_toList, Nat.add_mul]
    omega

theorem marks_markList (hsep : PlainSeparator separator) (hm : m.isText) (k : Nat) :
    m.marks n (markList separator (k + 1)) =
      (List.range (k + 1)).map fun i ↦ n + i * (separator.length + 1) := by
  have hmark : ∀ {m : ScanMode}, m.isText → m.step '?' = text := fun hm ↦
    step_eq_ofText hm (by decide) (by decide)
  induction k generalizing m n with
  | zero =>
    rw [show markList separator (0 + 1) = ['?'] from rfl, marks, if_pos ⟨rfl, hm⟩]
    simp
  | succ k ih =>
    have hrest := ih (m := text) (n := n + 1 + separator.toList.length) rfl
    rw [markList_succ, marks, if_pos ⟨rfl, hm⟩, hmark hm, marks_append, hsep.silent.marks_eq,
      hsep.silent.after_eq, hrest, List.range_succ_eq_map (n := k + 1), List.map_cons,
      List.map_map]
    refine congrArg₂ List.cons (by rw [Nat.zero_mul, Nat.add_zero]) ?_
    refine List.map_congr_left fun i _ ↦ ?_
    simp only [Function.comp, Nat.succ_eq_add_one, Nat.add_mul, String.length_toList]
    omega

theorem after_markList (hsep : PlainSeparator separator) (hm : m.isText) (k : Nat) :
    m.after (markList separator (k + 1)) = text := by
  have hmark : ∀ {m : ScanMode}, m.isText → m.step '?' = text := fun hm ↦
    step_eq_ofText hm (by decide) (by decide)
  induction k generalizing m with
  | zero => exact hmark hm
  | succ k ih =>
    rw [markList_succ, after_cons, hmark hm, after_append, hsep.silent.after_eq]
    exact ih rfl

inductive Rendered (separator : String) : Token → Piece → Prop
  | literal (w : String) : Rendered separator (.literal w) (.ofText w)
  | escaped (c : Char) : Rendered separator (.escaped c) (.ofText c.toString)
  | slot (v : Slot) : Rendered separator (.slot v) (.ofText v.source)
  | emptyList (p : Parameter) : Rendered separator (.parameter p) (.ofText "NULL")
  | marked (p : Parameter) (piece : Piece) (k : Nat) : piece.bound.length = k + 1 →
      piece.text.toList = markList separator (k + 1) → Rendered separator (.parameter p) piece

theorem rendered_expand (p : Parameter) (opts : BindOptions) (v : Value) :
    Rendered opts.listSeparator (.parameter p) (expand p opts v) := by
  have hlist : ∀ items : List Value,
      (opts.listSeparator.intercalate (items.map fun _ ↦ mark)).toList =
        markList opts.listSeparator items.length := by
    intro items
    have hmark : (String.toList ∘ fun _ : Value ↦ mark) = Function.const Value ['?'] := by
      funext _
      simp [mark]
    rw [String.toList_intercalate, markList, List.map_map, hmark, List.map_const]
  unfold expand
  split
  · exact .emptyList p
  · rename_i items hne _ _
    obtain ⟨k, hk⟩ := Nat.exists_eq_succ_of_ne_zero fun h ↦ hne (List.eq_nil_of_length_eq_zero h)
    refine .marked p _ k ?_ ((hlist items).trans (by rw [hk]))
    rw [numbered, List.length_map, List.length_zipIdx, hk]
  · exact .marked p _ 0 rfl (hlist [.null])

theorem rendered_of_render {resolver : Resolver} {ctx : Context} {opts : BindOptions} {now : Int}
    {token : Token} {piece : Piece} (h : render resolver ctx opts now token = .ok piece) :
    Rendered opts.listSeparator token piece := by
  cases token with
  | literal w => cases h; exact .literal w
  | escaped c => cases h; exact .escaped c
  | slot v => cases h; exact .slot v
  | parameter p =>
    obtain ⟨v, -, rfl⟩ := Outcome.map_eq_ok_iff.mp h
    exact rendered_expand p opts v

variable {token : Token} {piece : Piece} {tokens : List Token} {pieces : List Piece}

theorem Rendered.places_lt (h : Rendered separator token piece) {i : Nat}
    (hi : i ∈ piece.places separator n) : n ≤ i ∧ i < n + piece.text.length := by
  obtain ⟨k, hk, rfl⟩ := List.mem_map.mp hi
  rw [List.mem_range] at hk
  cases h with
  | literal | escaped | slot | emptyList => cases hk
  | marked p piece l hbound htext =>
    have hlength : piece.text.length = l * (separator.length + 1) + 1 := by
      rw [← String.length_toList, htext, length_markList]
    have hle := Nat.mul_le_mul_right (separator.length + 1) (show k ≤ l by omega)
    omega

theorem le_of_mem_ownedPlaces {i : Nat} (h : i ∈ ownedPlaces separator n pieces) : n ≤ i := by
  induction pieces generalizing n with
  | nil => cases h
  | cons piece pieces ih =>
    rcases List.mem_append.mp h with h | h
    · obtain ⟨k, -, rfl⟩ := List.mem_map.mp h
      exact Nat.le_add_right n _
    · have := ih h
      omega

theorem ownedPlaces_pairwise (h : List.Forall₂ (Rendered separator) tokens pieces) :
    (ownedPlaces separator n pieces).Pairwise (· < ·) := by
  induction h generalizing n with
  | nil => exact .nil
  | cons htoken _ ih =>
    refine List.pairwise_append.mpr ⟨?_, ih, fun i hi j hj ↦ ?_⟩
    · refine List.pairwise_map.mpr (List.pairwise_lt_range.imp fun hkl ↦ ?_)
      exact Nat.add_lt_add_left (Nat.mul_lt_mul_of_pos_right hkl (Nat.succ_pos _)) n
    · exact Nat.lt_of_lt_of_le (htoken.places_lt hi).2 (le_of_mem_ownedPlaces hj)

theorem append_eq_append_iff_of_bound {k : Nat} {a a' b b' : List Nat} (ha : ∀ i ∈ a, i < k)
    (ha' : ∀ i ∈ a', i < k) (hb : ∀ i ∈ b, k ≤ i) (hb' : ∀ i ∈ b', k ≤ i) :
    a ++ b = a' ++ b' ↔ a = a' ∧ b = b' := by
  have hfilter : ∀ {u v : List Nat}, (∀ i ∈ u, i < k) → (∀ i ∈ v, k ≤ i) →
      (u ++ v).filter (· < k) = u := by
    intro u v hu hv
    rw [List.filter_append, List.filter_eq_self.mpr fun i hi ↦ decide_eq_true (hu i hi),
      List.filter_eq_nil_iff.mpr fun i hi ↦ by simpa using hv i hi, List.append_nil]
  constructor
  · intro h
    have heq : a = a' := by rw [← hfilter ha hb, h, hfilter ha' hb']
    rw [heq] at h
    exact ⟨heq, List.append_cancel_left h⟩
  · rintro ⟨rfl, rfl⟩
    rfl

/-- A token leaves the marks alone. A slot must not show a mark; where a quote or a comment is
open, a parameter must have no values and a literal must not get out of it before a question
mark. -/
def Keeps (m : ScanMode) : Token → Piece → Prop
  | .slot v, _ => m.marks 0 v.source.toList = []
  | .parameter _, piece => m.isText ∨ piece.bound = []
  | .literal w, _ => m.isText ∨ m.marks 0 w.toList = []
  | .escaped _, _ => True

/-- Reading the pieces from the mode `m`, every token leaves the marks alone. -/
def Harmless : ScanMode → List Token → List Piece → Prop
  | m, token :: tokens, piece :: pieces =>
    Keeps m token piece ∧ Harmless (m.after piece.text.toList) tokens pieces
  | _, _, _ => True

theorem Rendered.marks_eq_places_iff (hsep : PlainSeparator separator)
    (h : Rendered separator token piece) (hlexed : Lexed (token :: tokens))
    (hm : (∃ w, token = .literal w) → m.isText → m = text) :
    m.marks n piece.text.toList = piece.places separator n ↔ Keeps m token piece := by
  cases h with
  | literal w =>
    cases hlexed with
    | literal hsilent _ _ _ =>
      refine marks_eq_nil_iff.trans ⟨Or.inr, fun h ↦ h.elim (fun ht ↦ ?_) id⟩
      rw [hm ⟨w, rfl⟩ ht]
      exact hsilent.marks_eq 0
  | escaped c =>
    cases hlexed with
    | escaped hc _ =>
      refine iff_of_true (marks_eq_nil_of_forall_ne fun d hd ↦ ?_) trivial
      rw [Piece.ofText, Char.toString_eq_singleton, String.toList_singleton,
        List.mem_singleton] at hd
      rintro rfl
      rw [← hd] at hc
      cases hc
  | slot v => exact marks_eq_nil_iff
  | emptyList p =>
    refine iff_of_true (marks_eq_nil_of_forall_ne fun c hc ↦ ?_) (Or.inr rfl)
    rw [show (Piece.ofText "NULL").text.toList = ['N', 'U', 'L', 'L'] from rfl] at hc
    rintro rfl
    simp at hc
  | marked p piece k hbound htext =>
    rw [htext, Piece.places, hbound]
    constructor
    · intro h
      by_contra hkeeps
      have hhidden : m.isText = false := Bool.eq_false_iff.mpr fun hm ↦ hkeeps (Or.inl hm)
      have hn : n ∈ m.marks n (markList separator (k + 1)) := by
        rw [h, List.range_succ_eq_map, List.map_cons]
        simp
      obtain ⟨s, hs⟩ := markList_cons separator k
      rw [hs, marks_cons_of_hidden hhidden] at hn
      have := (le_of_mem_marks hn).1
      omega
    · rintro (hm | hb)
      · exact marks_markList hsep hm k
      · rw [hb] at hbound
        cases hbound

theorem Rendered.after_eq_text (h : Rendered separator token piece)
    (hlexed : Lexed (token :: tokens)) (hne : ∀ w, token ≠ .literal w)
    (ht : (m.after piece.text.toList).isText) : m.after piece.text.toList = text := by
  have hend : ∃ s c, piece.text.toList = s ++ [c] ∧ c ≠ '-' ∧ c ≠ '/' := by
    cases h with
    | literal w => exact absurd rfl (hne w)
    | escaped c =>
      cases hlexed with
      | escaped hc _ =>
        refine ⟨[], c, by simp [Piece.ofText, Char.toString_eq_singleton], ?_, ?_⟩ <;>
        · rintro rfl
          cases hc
    | slot v =>
      cases hlexed with
      | slot hsource _ => exact ⟨_, '}', hsource, by decide, by decide⟩
    | emptyList p => exact ⟨['N', 'U', 'L'], 'L', rfl, by decide, by decide⟩
    | marked p piece k _ htext =>
      obtain ⟨s, hs⟩ := markList_append separator k
      exact ⟨s, '?', htext.trans hs, by decide, by decide⟩
  obtain ⟨s, c, hs, hdash, hslash⟩ := hend
  rw [hs, after_append, after_cons, after_nil] at ht ⊢
  exact step_eq_text hdash hslash ht

/-- Reading a bound statement finds the places of its values exactly if all tokens leave the
marks alone. -/
theorem marks_eq_ownedPlaces_iff (hsep : PlainSeparator separator) (hlexed : Lexed tokens)
    (h : List.Forall₂ (Rendered separator) tokens pieces)
    (hm : (∃ w rest, tokens = .literal w :: rest) → m.isText → m = text) :
    m.marks n (pieces.flatMap fun piece ↦ piece.text.toList) = ownedPlaces separator n pieces ↔
      Harmless m tokens pieces := by
  induction h generalizing m n with
  | nil => exact iff_of_true rfl trivial
  | @cons token piece tokens pieces htoken hrest ih =>
    have hpiece := htoken.marks_eq_places_iff (m := m) (n := n) hsep hlexed fun ⟨w, hw⟩ ↦
      hm ⟨w, tokens, by rw [hw]⟩
    have hnext : (∃ w rest, tokens = .literal w :: rest) →
        (m.after piece.text.toList).isText → m.after piece.text.toList = text := by
      rintro ⟨w, rest, rfl⟩
      refine htoken.after_eq_text hlexed fun u hu ↦ ?_
      rw [hu] at hlexed
      cases hlexed with
      | literal _ _ hadjacent _ => exact hadjacent w rest rfl
    have hrest := ih (n := n + piece.text.length) hlexed.tail hnext
    rw [List.flatMap_cons, marks_append, String.length_toList, ownedPlaces, Harmless, ← hpiece,
      ← hrest]
    -- The marks of a piece lie inside it, so the lists can only agree piece by piece.
    refine append_eq_append_iff_of_bound (k := n + piece.text.length) ?_ ?_ ?_ ?_
    · intro i hi
      rw [← String.length_toList]
      exact (le_of_mem_marks hi).2
    · exact fun i hi ↦ (htoken.places_lt hi).2
    · exact fun i hi ↦ (le_of_mem_marks hi).1
    · exact fun i hi ↦ le_of_mem_ownedPlaces hi

/-- A text that shows no mark and closes all quotes and comments it opens. -/
def Neutral (s : List Char) : Prop := text.Silent s text

theorem silent_slot {v : Slot} (hlexed : Lexed (.slot v :: tokens))
    (h : Neutral v.source.toList) (hm : m.isText) : m.Silent v.source.toList text := by
  cases hlexed with
  | slot hsource _ =>
    rw [hsource, List.cons_append] at h ⊢
    have hready : m.Ready ['{'] := ready_of_isText hm (by decide) (by decide)
    exact hready.silent h

theorem Rendered.after_eq_text_of_isText (hsep : PlainSeparator separator)
    (h : Rendered separator token piece) (hlexed : Lexed (token :: tokens))
    (hne : ∀ w, token ≠ .literal w) (hslot : ∀ v, token = .slot v → Neutral v.source.toList)
    (hm : m.isText) : m.after piece.text.toList = text := by
  cases h with
  | literal w => exact absurd rfl (hne w)
  | escaped c =>
    cases hlexed with
    | escaped hc _ =>
      rw [Piece.ofText, Char.toString_eq_singleton, String.toList_singleton]
      simp only [isEscapable, Bool.or_eq_true, beq_iff_eq] at hc
      rcases hc with (rfl | rfl) | rfl <;>
        exact step_eq_ofText hm (by decide) (by decide)
  | slot v =>
    exact (silent_slot hlexed (hslot v rfl) hm).after_eq
  | emptyList p =>
    have hfirst : m.step 'N' = text := step_eq_ofText hm (by decide) (by decide)
    rw [show (Piece.ofText "NULL").text.toList = ['N', 'U', 'L', 'L'] from rfl, after_cons, hfirst]
    rfl
  | marked p piece k _ htext =>
    rw [htext]
    exact after_markList hsep hm k

theorem harmless_of_neutral (hsep : PlainSeparator separator) (hlexed : Lexed tokens)
    (h : List.Forall₂ (Rendered separator) tokens pieces)
    (hslots : ∀ v, .slot v ∈ tokens → Neutral v.source.toList)
    (hm : tokens = [] ∨ m.isText ∧ ((∃ w rest, tokens = .literal w :: rest) → m = text)) :
    Harmless m tokens pieces := by
  induction h generalizing m with
  | nil => trivial
  | @cons token piece tokens pieces htoken hrest ih =>
    obtain ⟨htext, hliteral⟩ := hm.resolve_left (List.cons_ne_nil _ _)
    have hmem : ∀ v, .slot v ∈ tokens → Neutral v.source.toList := fun v hv ↦
      hslots v (List.mem_cons_of_mem _ hv)
    have htail := hlexed.tail
    by_cases hw : ∃ w, token = .literal w
    · obtain ⟨w, rfl⟩ := hw
      cases htoken
      cases hlexed with
      | @literal _ m' _ hsilent hopen hadjacent _ =>
        have hafter : m.after w.toList = m' := by
          rw [hliteral ⟨w, tokens, rfl⟩, hsilent.after_eq]
        refine ⟨Or.inl htext, ih htail hmem ?_⟩
        rw [show m.after (Piece.ofText w).text.toList = m' from hafter]
        refine hopen.symm.imp_right fun hopen ↦ ⟨hopen, ?_⟩
        rintro ⟨u, rest, hu⟩
        exact absurd hu (hadjacent u rest)
    · have hne : ∀ w, token ≠ .literal w := fun w he ↦ hw ⟨w, he⟩
      have hafter := htoken.after_eq_text_of_isText hsep hlexed hne
        (fun v hv ↦ hslots v (hv ▸ List.mem_cons_self ..)) htext
      refine ⟨?_, ih htail hmem ?_⟩
      · cases htoken with
        | literal w => exact absurd rfl (hne w)
        | escaped c => trivial
        | slot v =>
          have hneutral := hslots v (List.mem_cons_self ..)
          exact (silent_slot hlexed hneutral htext).marks_eq 0
        | emptyList p => exact Or.inl htext
        | marked p piece k _ _ => exact Or.inl htext
      · rw [hafter]
        exact Or.inr ⟨rfl, fun _ ↦ rfl⟩

end QueryCatalog.Binding
