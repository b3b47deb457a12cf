import QueryCatalog.Template.Item
import Mathlib.Data.List.Basic

namespace QueryCatalog

/-- Where the reader is. `dash` and `slash` may turn out to open a comment, `blockStar` to close
one. -/
inductive ScanMode
  | text
  | dash
  | slash
  | quoted (quote : Char)
  | line
  | block
  | blockStar
  deriving DecidableEq

namespace ScanMode

open Template

def isText : ScanMode → Bool
  | text | dash | slash => true
  | _ => false

def ofText (c : Char) : ScanMode :=
  if isQuote c then quoted c
  else if c = '-' then dash
  else if c = '/' then slash
  else text

def step : ScanMode → Char → ScanMode
  | text, c => ofText c
  | dash, c => if c = '-' then line else ofText c
  | slash, c => if c = '*' then block else ofText c
  | quoted q, c => if c = q then text else quoted q
  | line, c => if c = '\n' then text else line
  | block, c => if c = '*' then blockStar else block
  | blockStar, c => if c = '/' then text else if c = '*' then blockStar else block

def after (m : ScanMode) (s : List Char) : ScanMode := s.foldl step m

/-- The places of the question marks outside quotes and comments; the text starts at place `n`. -/
def marks (m : ScanMode) (n : Nat) : List Char → List Nat
  | [] => []
  | c :: s => (if c = '?' ∧ m.isText then [n] else []) ++ marks (m.step c) (n + 1) s

variable {m : ScanMode} {c : Char} {s t : List Char} {n : Nat}

@[simp] theorem after_nil : m.after [] = m := rfl

@[simp] theorem after_cons : m.after (c :: s) = (m.step c).after s := rfl

@[simp] theorem after_append : m.after (s ++ t) = (m.after s).after t :=
  List.foldl_append

@[simp] theorem marks_nil : m.marks n [] = [] := rfl

theorem marks_cons_of_ne (h : c ≠ '?') : m.marks n (c :: s) = (m.step c).marks (n + 1) s := by
  simp only [marks, h, false_and, if_false, List.nil_append]

theorem marks_cons_of_hidden (h : m.isText = false) :
    m.marks n (c :: s) = (m.step c).marks (n + 1) s := by
  simp only [marks, h, Bool.false_eq_true, and_false, if_false, List.nil_append]

theorem marks_append :
    m.marks n (s ++ t) = m.marks n s ++ (m.after s).marks (n + s.length) t := by
  induction s generalizing m n with
  | nil => rfl
  | cons c s ih =>
    have hn : n + (c :: s).length = n + 1 + s.length := by
      rw [List.length_cons]
      omega
    rw [List.cons_append, marks, ih, marks, List.append_assoc, after_cons, hn]

theorem le_of_mem_marks {i : Nat} (h : i ∈ m.marks n s) : n ≤ i ∧ i < n + s.length := by
  induction s generalizing m n with
  | nil => cases h
  | cons c s ih =>
    rw [List.length_cons]
    rcases List.mem_append.mp h with h | h
    · have hi : i = n := by
        split at h
        · exact List.mem_singleton.mp h
        · cases h
      omega
    · have := ih h
      omega

theorem marks_pairwise : (m.marks n s).Pairwise (· < ·) := by
  induction s generalizing m n with
  | nil => exact .nil
  | cons c s ih =>
    rw [marks]
    split
    · exact .cons (fun i hi ↦ (le_of_mem_marks hi).1) ih
    · exact ih

theorem marks_add (k : Nat) : m.marks (k + n) s = (m.marks n s).map (k + ·) := by
  induction s generalizing m n with
  | nil => rfl
  | cons c s ih =>
    rw [marks, marks, List.map_append, ← ih, Nat.add_assoc]
    split <;> rfl

theorem marks_eq_nil_iff : m.marks n s = [] ↔ m.marks 0 s = [] := by
  rw [show n = n + 0 from rfl, marks_add, List.map_eq_nil_iff]

theorem marks_eq_nil_of_forall_ne (h : ∀ c ∈ s, c ≠ '?') : m.marks n s = [] := by
  induction s generalizing m n with
  | nil => rfl
  | cons c s ih =>
    rw [marks_cons_of_ne (h c (List.mem_cons_self ..))]
    exact ih fun d hd ↦ h d (List.mem_cons_of_mem c hd)

theorem ofText_eq_text (hdash : c ≠ '-') (hslash : c ≠ '/') (h : (ofText c).isText) :
    ofText c = text := by
  unfold ofText at h ⊢
  split at h
  · cases h
  · rename_i hquote
    rw [if_neg hquote, if_neg hdash, if_neg hslash]

theorem step_eq_ofText (hm : m.isText) (hdash : c ≠ '-') (hstar : c ≠ '*') :
    m.step c = ofText c := by
  cases m with
  | text => rfl
  | dash => exact if_neg hdash
  | slash => exact if_neg hstar
  | quoted | line | block | blockStar => cases hm

theorem step_eq_text (hdash : c ≠ '-') (hslash : c ≠ '/') (h : (m.step c).isText) :
    m.step c = text := by
  cases m with
  | text => exact ofText_eq_text hdash hslash h
  | dash =>
    simp only [step, hdash, if_false] at h ⊢
    exact ofText_eq_text hdash hslash h
  | slash =>
    simp only [step] at h ⊢
    split at h
    · cases h
    · rename_i hstar
      rw [if_neg hstar]
      exact ofText_eq_text hdash hslash h
  | quoted q =>
    simp only [step] at h ⊢
    split at h
    · rename_i hend
      exact if_pos hend
    · cases h
  | line =>
    simp only [step] at h ⊢
    split at h
    · rename_i hend
      exact if_pos hend
    · cases h
  | block =>
    simp only [step] at h
    split at h <;> cases h
  | blockStar =>
    simp only [step, hslash, if_false] at h
    split at h <;> cases h

/-- Reading `s` leads from one mode to the other, and no mark comes into sight. -/
structure Silent (m : ScanMode) (s : List Char) (m' : ScanMode) : Prop where
  after_eq : m.after s = m'
  marks_eq : ∀ n, m.marks n s = []

theorem silent_iff {m' : ScanMode} : m.Silent s m' ↔ m.after s = m' ∧ m.marks 0 s = [] :=
  ⟨fun h ↦ ⟨h.after_eq, h.marks_eq 0⟩, fun h ↦ ⟨h.1, fun _ ↦ marks_eq_nil_iff.mpr h.2⟩⟩

theorem Silent.nil : m.Silent [] m := ⟨rfl, fun _ ↦ rfl⟩

theorem Silent.cons {m' : ScanMode} (hc : c ≠ '?' ∨ m.isText = false)
    (h : (m.step c).Silent s m') : m.Silent (c :: s) m' := by
  refine ⟨by rw [after_cons, h.after_eq], fun n ↦ ?_⟩
  rcases hc with hc | hm
  · rw [marks_cons_of_ne hc, h.marks_eq]
  · rw [marks_cons_of_hidden hm, h.marks_eq]

theorem Silent.append {m' m'' : ScanMode} (hs : m.Silent s m') (ht : m'.Silent t m'') :
    m.Silent (s ++ t) m'' := by
  refine ⟨by rw [after_append, hs.after_eq, ht.after_eq], fun n ↦ ?_⟩
  rw [marks_append, hs.marks_eq, hs.after_eq, ht.marks_eq, List.append_nil]

theorem Silent.of_forall (h : ∀ c ∈ s, m.step c = m ∧ (c ≠ '?' ∨ m.isText = false)) :
    m.Silent s m := by
  induction s with
  | nil => exact .nil
  | cons c s ih =>
    obtain ⟨hstep, hc⟩ := h c (List.mem_cons_self ..)
    refine .cons hc ?_
    rw [hstep]
    exact ih fun d hd ↦ h d (List.mem_cons_of_mem c hd)

theorem silent_quoted {q : Char} (h : q ∉ s) : (quoted q).Silent s (quoted q) :=
  .of_forall fun _ hc ↦ ⟨if_neg (ne_of_mem_of_not_mem hc h), Or.inr rfl⟩

theorem silent_line (h : '\n' ∉ s) : line.Silent s line :=
  .of_forall fun _ hc ↦ ⟨if_neg (ne_of_mem_of_not_mem hc h), Or.inr rfl⟩

end ScanMode

end QueryCatalog
