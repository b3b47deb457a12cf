import Mathlib.Data.Finset.Card
import Mathlib.Data.List.Induction
import QueryCatalog.Proofs.KeyMap
import QueryCatalog.Template.Compile

namespace QueryCatalog.Template

inductive MemoCall
  | get (text : String)
  | clear
  deriving DecidableEq

namespace MemoCall

def text? : MemoCall → Option String
  | get text => some text
  | clear => none

def texts (calls : List MemoCall) : List String := calls.filterMap text?

/-- The texts asked for since the memo was emptied last, the latest first. -/
def recentTexts (calls : List MemoCall) : List String :=
  texts (calls.reverse.takeWhile (· ≠ clear))

def keptTexts (calls : List MemoCall) : Finset String :=
  ((recentTexts calls).filter fun text ↦ (compile text).isOk).toFinset

variable {calls : List MemoCall} {text : String} {t : Template} {f : Fault}

theorem texts_concat (calls : List MemoCall) (c : MemoCall) :
    texts (calls ++ [c]) = texts calls ++ c.text?.toList := by
  cases c <;> simp [texts, text?]

theorem keptTexts_concat_get_of_ok (h : compile text = .ok t) :
    keptTexts (calls ++ [.get text]) = insert text (keptTexts calls) := by
  have hok : (compile text).isOk = true := by rw [h]; rfl
  simp [keptTexts, recentTexts, texts, text?, hok]

theorem keptTexts_concat_get_of_error (h : compile text = .error f) :
    keptTexts (calls ++ [.get text]) = keptTexts calls := by
  have herror : (compile text).isOk = false := by rw [h]; rfl
  simp [keptTexts, recentTexts, texts, text?, herror]

theorem ok_of_mem_keptTexts (h : text ∈ keptTexts calls) : ∃ t, compile text = .ok t := by
  rw [keptTexts, List.mem_toFinset, List.mem_filter] at h
  cases hcompile : compile text with
  | error f =>
    rw [hcompile] at h
    cases h.2
  | ok t => exact ⟨t, rfl⟩

theorem keptTexts_concat_clear (calls : List MemoCall) : keptTexts (calls ++ [.clear]) = ∅ := by
  simp [keptTexts, recentTexts, texts]

end MemoCall

namespace Memo

open MemoCall

def call (m : Memo) : MemoCall → Memo
  | .get text => (m.get text).2
  | .clear => m.clear

def after (m : Memo) (calls : List MemoCall) : Memo := calls.foldl call m

def answers (m : Memo) : List MemoCall → List (Except Fault Template)
  | [] => []
  | .get text :: calls => (m.get text).1 :: answers (m.get text).2 calls
  | .clear :: calls => answers m.clear calls

/-- The memo holds the texts that it has compiled since it was emptied last, each with its own
template, and has counted every lookup that succeeded. -/
structure Tracks (calls : List MemoCall) (m : Memo) : Prop where
  lookup_iff : ∀ text t, m.lookup? text = some t ↔ compile text = .ok t ∧ text ∈ keptTexts calls
  counted : m.hits + m.compiles = (texts calls).countP fun text ↦ (compile text).isOk
  discarded_eq : m.discarded = 0

section Tracks

variable {calls : List MemoCall} {m : Memo} {text : String} {t : Template} {f : Fault}

theorem keep_of_lookup_eq_none (h : m.lookup? text = none) (t : Template) :
    m.keep text t = (t, { m with templates := m.templates.insert text t }) := by
  rw [keep, h]

theorem tracks_new : Tracks [] {} where
  lookup_iff text t := by
    simp [lookup?, keptTexts, recentTexts, texts]
  counted := rfl
  discarded_eq := rfl

theorem Tracks.isSome_lookup_iff (h : Tracks calls m) (text : String) :
    (m.lookup? text).isSome ↔ text ∈ keptTexts calls := by
  rw [Option.isSome_iff_exists]
  constructor
  · rintro ⟨t, ht⟩
    exact ((h.lookup_iff text t).mp ht).2
  · intro hmem
    obtain ⟨t, ht⟩ := ok_of_mem_keptTexts hmem
    exact ⟨t, (h.lookup_iff text t).mpr ⟨ht, hmem⟩⟩

theorem Tracks.size_eq (h : Tracks calls m) : m.size = (keptTexts calls).card := by
  have hkeys : m.templates.keys.toFinset = keptTexts calls := by
    ext text
    rw [List.mem_toFinset, KeyMap.mem_keys_iff]
    exact h.isSome_lookup_iff text
  calc m.size
      = m.templates.keys.length := (List.length_map _).symm
    _ = m.templates.keys.toFinset.card := (List.toFinset_card_of_nodup m.templates.nodup_keys).symm
    _ = (keptTexts calls).card := by rw [hkeys]

/-- The ways a lookup can end. Between its two looks into the table nothing is put there, and so the
second one finds nothing either. -/
theorem Tracks.get_cases (h : Tracks calls m) (text : String) :
    (∃ f, compile text = .error f ∧ m.get text = (.error f, m)) ∨
    (∃ t, compile text = .ok t ∧ text ∈ keptTexts calls ∧
      m.get text = (.ok t, { m with hits := m.hits + 1 })) ∨
    (∃ t, compile text = .ok t ∧ text ∉ keptTexts calls ∧
      m.get text = (.ok t, { m with
        templates := m.templates.insert text t, compiles := m.compiles + 1 })) := by
  unfold Memo.get
  cases hlookup : m.lookup? text with
  | some t =>
    obtain ⟨hcompile, hkept⟩ := (h.lookup_iff text t).mp hlookup
    exact Or.inr (Or.inl ⟨t, hcompile, hkept, rfl⟩)
  | none =>
    cases hcompile : compile text with
    | error f => exact Or.inl ⟨f, rfl, rfl⟩
    | ok t =>
      have hnew : text ∉ keptTexts calls := by
        rw [← h.isSome_lookup_iff, hlookup]
        exact Bool.false_ne_true
      have hkeep := keep_of_lookup_eq_none (m := { m with compiles := m.compiles + 1 }) hlookup t
      refine Or.inr (Or.inr ⟨t, rfl, hnew, ?_⟩)
      simp only [hkeep]

theorem Tracks.get_eq (h : Tracks calls m) (text : String) : (m.get text).1 = compile text := by
  rcases h.get_cases text with
    ⟨f, hcompile, hget⟩ | ⟨t, hcompile, -, hget⟩ | ⟨t, hcompile, -, hget⟩
  all_goals rw [hget, hcompile]

theorem Tracks.get_of_error (h : Tracks calls m) (hcompile : compile text = .error f) :
    (m.get text).2 = m := by
  rcases h.get_cases text with ⟨f', -, hget⟩ | ⟨t, ht, -, -⟩ | ⟨t, ht, -, -⟩
  · rw [hget]
  · cases hcompile.symm.trans ht
  · cases hcompile.symm.trans ht

theorem countP_concat_get (calls : List MemoCall) (text : String) :
    (texts (calls ++ [.get text])).countP (fun text ↦ (compile text).isOk) =
      (texts calls).countP (fun text ↦ (compile text).isOk) +
        if (compile text).isOk then 1 else 0 := by
  simp [texts_concat, text?, List.countP_singleton]

theorem Tracks.get (h : Tracks calls m) (text : String) :
    Tracks (calls ++ [.get text]) (m.get text).2 := by
  have hcounted := countP_concat_get calls text
  rw [← h.counted] at hcounted
  rcases h.get_cases text with
    ⟨f, hcompile, hget⟩ | ⟨t, hcompile, hkept, hget⟩ | ⟨t, hcompile, hnew, hget⟩
  · have hsame : keptTexts (calls ++ [.get text]) = keptTexts calls :=
      keptTexts_concat_get_of_error hcompile
    rw [hcompile] at hcounted
    rw [hget]
    exact ⟨hsame ▸ h.lookup_iff, hcounted.symm, h.discarded_eq⟩
  · have hsame : keptTexts (calls ++ [.get text]) = keptTexts calls :=
      (keptTexts_concat_get_of_ok hcompile).trans (Finset.insert_eq_of_mem hkept)
    rw [hcompile] at hcounted
    rw [hget]
    refine ⟨hsame ▸ h.lookup_iff, ?_, h.discarded_eq⟩
    exact (Nat.add_right_comm ..).trans hcounted.symm
  · have hmore : keptTexts (calls ++ [.get text]) = insert text (keptTexts calls) :=
      keptTexts_concat_get_of_ok hcompile
    rw [hcompile] at hcounted
    rw [hget]
    refine ⟨fun text' t' ↦ ?_, hcounted.symm, h.discarded_eq⟩
    rw [hmore, Finset.mem_insert, lookup?]
    by_cases htext : text' = text
    · subst htext
      simp [hcompile]
    · rw [KeyMap.get?_insert_of_ne _ htext, ← lookup?, h.lookup_iff]
      simp [htext]

theorem Tracks.clear (h : Tracks calls m) : Tracks (calls ++ [.clear]) m.clear where
  lookup_iff text t := by
    simp [lookup?, Memo.clear, keptTexts_concat_clear]
  counted := by
    rw [texts_concat, text?, Option.toList_none, List.append_nil]
    exact h.counted
  discarded_eq := h.discarded_eq

theorem tracks_after (calls : List MemoCall) : Tracks calls (({} : Memo).after calls) := by
  induction calls using List.reverseRecOn with
  | nil => exact tracks_new
  | append_singleton calls c ih =>
    rw [after, List.foldl_concat, ← after]
    cases c with
    | get text => exact ih.get text
    | clear => exact ih.clear

theorem Tracks.answers_eq (h : Tracks calls m) (later : List MemoCall) :
    m.answers later = (texts later).map compile := by
  induction later generalizing calls m with
  | nil => rfl
  | cons c later ih =>
    cases c with
    | get text =>
      rw [answers, h.get_eq, ih (h.get text)]
      rfl
    | clear => exact ih h.clear

end Tracks

structure Transparent (calls : List MemoCall) (m : Memo) : Prop where
  answer : ∀ text, (m.get text).1 = compile text
  memoized : ∀ text, (m.lookup? text).isSome ↔ text ∈ keptTexts calls
  size_eq : m.size = (keptTexts calls).card
  successes : m.hits + m.compiles = (texts calls).countP fun text ↦ (compile text).isOk
  compiles_get : ∀ text, (m.get text).2.compiles =
    m.compiles + if (compile text).isOk ∧ text ∉ keptTexts calls then 1 else 0
  compiles_clear : m.clear.compiles = m.compiles
  get_of_fault : ∀ text f, compile text = .error f → (m.get text).2 = m
  discarded_eq : m.discarded = 0

theorem Tracks.compiles_get {calls : List MemoCall} {m : Memo} (h : Tracks calls m)
    (text : String) : (m.get text).2.compiles =
      m.compiles + if (compile text).isOk ∧ text ∉ keptTexts calls then 1 else 0 := by
  rcases h.get_cases text with
    ⟨f, hcompile, hget⟩ | ⟨t, hcompile, hkept, hget⟩ | ⟨t, hcompile, hnew, hget⟩
  · have hfault : ¬ (compile text).isOk := by rw [hcompile]; exact Bool.false_ne_true
    rw [hget, if_neg fun hok ↦ hfault hok.1]
    rfl
  · rw [hget, if_neg fun hnew ↦ hnew.2 hkept]
    rfl
  · have hok : (compile text).isOk := by rw [hcompile]; rfl
    rw [hget, if_pos ⟨hok, hnew⟩]

/-- A memo answers every lookup as the compiler does, whatever it was asked before. -/
theorem memo_transparent (calls : List MemoCall) :
    ({} : Memo).answers calls = (texts calls).map compile ∧
      Transparent calls (({} : Memo).after calls) := by
  have h := tracks_after calls
  exact ⟨tracks_new.answers_eq calls, h.get_eq, h.isSome_lookup_iff, h.size_eq, h.counted,
    h.compiles_get, rfl, fun text f ↦ h.get_of_error, h.discarded_eq⟩

end Memo

end QueryCatalog.Template
