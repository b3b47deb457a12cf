import QueryCatalog.Proofs.Binding.Coherence
import QueryCatalog.Proofs.Binding.MarkOwnership
import Mathlib.Data.List.Sort

namespace QueryCatalog

open ScanMode

namespace Binding

variable {resolver : Resolver} {ctx : Context} {opts : BindOptions} {now : Int}

theorem bind_eq_ok {t : Template} {plan : Plan} (h : bind resolver t ctx opts now = .ok plan) :
    ∃ t', filled t ctx opts = .ok t' ∧ renderAll resolver t' ctx opts now = .ok plan := by
  obtain ⟨_, -, h⟩ := Outcome.bind_eq_ok_iff.mp h
  exact Outcome.bind_eq_ok_iff.mp h

theorem lexed_of_filled {t t' : Template} (hslots : t.hasSlots)
    (h : filled t ctx opts = .ok t') : Template.Lexed t'.tokens := by
  unfold filled at h
  rw [if_pos hslots] at h
  obtain ⟨text, -, h⟩ := Outcome.bind_eq_ok_iff.mp h
  exact Template.lexed_of_compile (Outcome.mapError_eq_ok_iff.mp h)

end Binding

namespace Binder

open Binding

variable {ctx : Context} {opts : BindOptions} {now : Int}

/-- A statement bound from a template with slots shows the marks of its values and no others
exactly if the slots left in it are harmless, and slots that are neutral are. -/
theorem marks_agree_iff_harmless {b : Binder} (hb : b.Reachable) {t : Template}
    (hslots : t.hasSlots = true) (hsep : PlainSeparator opts.listSeparator) {plan : Plan}
    (hbind : (b.bind t ctx opts now).1 = .ok plan) :
    ∃ t' pieces, Binding.filled t ctx opts = .ok t' ∧
      List.Forall₂ (TokenOwns b.resolver ctx opts now) t'.tokens pieces ∧
      plan.sql = String.join (pieces.map Piece.text) ∧
      plan.bound = pieces.flatMap Piece.bound ∧
      ((text.marks 0 plan.sql.toList).length = plan.bound.length ∧
          (∀ i, i ∈ text.marks 0 plan.sql.toList ↔
            i ∈ ownedPlaces opts.listSeparator 0 pieces) ↔
        Harmless text t'.tokens pieces) ∧
      ((∀ v ∈ t'.slots, Neutral v.source.toList) → Harmless text t'.tokens pieces) := by
  rw [hb.coherent.bind.1] at hbind
  obtain ⟨t', hfilled, hrenderAll⟩ := bind_eq_ok hbind
  obtain ⟨pieces, hrender, rfl⟩ := renderAll_eq_ok hrenderAll
  obtain ⟨hrendered, howns⟩ := rendered_of_forall₂ hrender
  have hlexed := lexed_of_filled hslots hfilled
  have hiff := marks_eq_ownedPlaces_iff (m := text) (n := 0) hsep hlexed hrendered fun _ _ ↦ rfl
  rw [← toList_assemble_sql] at hiff
  refine ⟨t', pieces, hfilled, howns, rfl, rfl, ?_, fun hneutral ↦ ?_⟩
  · rw [← hiff]
    constructor
    · exact fun h ↦ marks_pairwise.eq_of_mem_iff (ownedPlaces_pairwise hrendered) h.2
    · intro h
      rw [h, length_ownedPlaces]
      exact ⟨rfl, fun i ↦ Iff.rfl⟩
  · refine harmless_of_neutral hsep hlexed hrendered (fun v hv ↦ hneutral v ?_)
      (Or.inr ⟨rfl, fun _ ↦ rfl⟩)
    exact List.mem_filterMap.mpr ⟨.slot v, hv, rfl⟩

def fragmentTemplate : Template :=
  ⟨"SELECT \x7bx\x7d :p", [.literal "SELECT ", .slot ⟨"x", none, "\x7bx\x7d"⟩, .literal " ",
    .parameter ⟨"p", []⟩]⟩

def fragmentArgs : Context :=
  ⟨KeyMap.ofList [("p", .null)], KeyMap.ofList [("x", "a\x7bb -> 'c?'\x7d")]⟩

theorem fragment_marks_agree :
    ∃ plan, (Binder.bind { resolver := .byName } fragmentTemplate fragmentArgs {} 0).1 =
        .ok plan ∧
      plan.sql = "SELECT a\x7bb -> 'c?'\x7d ?" ∧
      (text.marks 0 plan.sql.toList).length = plan.bound.length := by
  have hfill : Binding.filled fragmentTemplate fragmentArgs {} =
      .ok ⟨"SELECT a\x7bb -> 'c?'\x7d :p", [.literal "SELECT a",
        .slot ⟨"b", some "'c?'", "\x7bb -> 'c?'\x7d"⟩, .literal " ", .parameter ⟨"p", []⟩]⟩ := by
    decide +kernel
  have hsql : (Binder.bind { resolver := .byName } fragmentTemplate fragmentArgs {} 0).1.map
      Plan.sql = .ok "SELECT a\x7bb -> 'c?'\x7d ?" := by decide +kernel
  obtain ⟨plan, hbind, hplan⟩ := Outcome.map_eq_ok_iff.mp hsql
  obtain ⟨t', pieces, hfilled, -, -, -, hiff, hneutral⟩ :=
    marks_agree_iff_harmless (.new .byName) (by rfl) plainSeparator_default hbind
  rw [hfill] at hfilled
  cases hfilled
  have hharmless := hneutral fun v hv ↦ by
    have hv : v = ⟨"b", some "'c?'", "\x7bb -> 'c?'\x7d"⟩ := List.mem_singleton.mp hv
    rw [hv]
    exact silent_iff.mpr (by decide +kernel)
  exact ⟨plan, hbind, hplan, (hiff.mpr hharmless).1⟩

def injectedTemplate : Template :=
  ⟨"SELECT \x7bx\x7d", [.literal "SELECT ", .slot ⟨"x", none, "\x7bx\x7d"⟩]⟩

def injectedArgs : Context := ⟨∅, KeyMap.ofList [("x", "\x7ba -> ?\x7d")]⟩

/-- The default of a slot that a fragment brings in shows a mark that no value owns. -/
theorem fragment_injects_mark :
    Template.compile "SELECT \x7bx\x7d" = .ok injectedTemplate ∧ injectedTemplate.hasSlots = true ∧
      PlainSeparator ({} : BindOptions).listSeparator ∧
      ∃ plan, (Binder.bind { resolver := .byName } injectedTemplate injectedArgs {} 0).1 =
          .ok plan ∧
        plan.sql = "SELECT \x7ba -> ?\x7d" ∧
        (text.marks 0 plan.sql.toList).length = 1 ∧ plan.bound.length = 0 := by
  have hplan : (Binder.bind { resolver := .byName } injectedTemplate injectedArgs {} 0).1.map
      (fun plan ↦ (plan.sql, plan.bound.length)) = .ok ("SELECT \x7ba -> ?\x7d", 0) := by
    decide +kernel
  obtain ⟨plan, hbind, hplan⟩ := Outcome.map_eq_ok_iff.mp hplan
  obtain ⟨hsql, hbound⟩ := Prod.mk.inj hplan
  refine ⟨by decide +kernel, rfl, plainSeparator_default, plan, hbind, hsql, ?_, hbound⟩
  rw [hsql]
  decide +kernel

end Binder

end QueryCatalog
