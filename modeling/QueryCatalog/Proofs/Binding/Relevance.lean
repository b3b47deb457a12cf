import QueryCatalog.Proofs.Binding.Coherence
import QueryCatalog.Proofs.KeyMap

namespace QueryCatalog

theorem Token.slot?_eq_some_iff {token : Token} {slot : Slot} :
    token.slot? = some slot ↔ token = .slot slot := by
  cases token <;> simp [slot?]

theorem Token.parameter?_eq_some_iff {token : Token} {p : Parameter} :
    token.parameter? = some p ↔ token = .parameter p := by
  cases token <;> simp [parameter?]

namespace Template

variable {t : Template}

theorem mem_slots_iff {slot : Slot} : slot ∈ t.slots ↔ .slot slot ∈ t.tokens := by
  simp [slots, Token.slot?_eq_some_iff]

theorem mem_parameters_iff {p : Parameter} : p ∈ t.parameters ↔ .parameter p ∈ t.tokens := by
  simp [parameters, Token.parameter?_eq_some_iff]

end Template

namespace Binding

/-- Two contexts agree on all that a call mentions. Which parameters these are is known only when
the slots are filled. -/
structure Agree (t : Template) (opts : BindOptions) (ctx ctx' : Context) : Prop where
  reserved : opts.timestamped = true →
    ctx.params.contains timestampName = ctx'.params.contains timestampName
  fragments : ∀ slot ∈ t.slots, ctx.fragment? slot.name = ctx'.fragment? slot.name
  inSlots : opts.slotsFromParameters = true →
    ∀ slot ∈ t.slots, ctx.param? slot.name = ctx'.param? slot.name
  params : ∀ t', filled t ctx opts = .ok t' →
    ∀ p ∈ t'.parameters, ctx.param? p.name = ctx'.param? p.name

variable {t : Template} {ctx ctx' : Context} {opts : BindOptions} {now : Int} {resolver : Resolver}

theorem checkReserved_congr (h : opts.timestamped = true →
    ctx.params.contains timestampName = ctx'.params.contains timestampName) :
    checkReserved ctx opts = checkReserved ctx' opts := by
  unfold checkReserved
  cases htimed : opts.timestamped with
  | false => simp
  | true => rw [h htimed]

theorem fill_congr {slot : Slot} (hfragment : ctx.fragment? slot.name = ctx'.fragment? slot.name)
    (hparam : opts.slotsFromParameters = true → ctx.param? slot.name = ctx'.param? slot.name) :
    fill slot ctx opts = fill slot ctx' opts := by
  unfold fill
  rw [hfragment]
  cases hallowed : opts.slotsFromParameters with
  | false => rfl
  | true => rw [hparam hallowed]

theorem filled_congr
    (hfragments : ∀ slot ∈ t.slots, ctx.fragment? slot.name = ctx'.fragment? slot.name)
    (hparams : opts.slotsFromParameters = true →
      ∀ slot ∈ t.slots, ctx.param? slot.name = ctx'.param? slot.name) :
    filled t ctx opts = filled t ctx' opts := by
  have hsubstitute : substitute t ctx opts = substitute t ctx' opts := by
    rw [substitute, substitute]
    apply congrArg (Except.map String.join)
    apply Outcome.mapM_congr
    intro token hmem
    cases token with
    | slot slot =>
      have hslot := Template.mem_slots_iff.mpr hmem
      exact fill_congr (hfragments slot hslot) fun hallowed ↦ hparams hallowed slot hslot
    | literal | escaped | parameter => rfl
  rw [filled, filled, hsubstitute]

theorem resolve_congr {p : Parameter} (h : ctx.param? p.name = ctx'.param? p.name) :
    resolve resolver p ctx opts now = resolve resolver p ctx' opts now := by
  rw [resolve, resolve, base, base, h]

theorem renderAll_congr (h : ∀ p ∈ t.parameters, ctx.param? p.name = ctx'.param? p.name) :
    renderAll resolver t ctx opts now = renderAll resolver t ctx' opts now := by
  rw [renderAll, renderAll]
  apply congrArg (Except.map assemble)
  apply Outcome.mapM_congr
  intro token hmem
  cases token with
  | parameter p => rw [render, render, resolve_congr (h p (Template.mem_parameters_iff.mpr hmem))]
  | literal | escaped | slot => rfl

theorem bind_congr (h : Agree t opts ctx ctx') :
    bind resolver t ctx opts now = bind resolver t ctx' opts now := by
  rw [bind, bind, checkReserved_congr h.reserved, ← filled_congr h.fragments h.inSlots]
  cases hfilled : filled t ctx opts with
  | error e => rfl
  | ok t' =>
    cases checkReserved ctx' opts with
    | error e => rfl
    | ok u => exact renderAll_congr (h.params t' hfilled)

def mentionedParams (t : Template) (opts : BindOptions) (ctx : Context) : List String :=
  (if opts.timestamped then [timestampName] else []) ++
    ((if opts.slotsFromParameters then t.slots.map Slot.name else []) ++
      match filled t ctx opts with
      | .ok t' => t'.parameters.map Parameter.name
      | .error _ => [])

/-- What is left of a context without all that a call does not mention. -/
def mentioned (t : Template) (opts : BindOptions) (ctx : Context) : Context where
  params := ctx.params.filterKeys (mentionedParams t opts ctx).contains
  fragments := ctx.fragments.filterKeys (t.slots.map Slot.name).contains

theorem param?_mentioned {name : String} (h : name ∈ mentionedParams t opts ctx) :
    (mentioned t opts ctx).param? name = ctx.param? name :=
  KeyMap.get?_filterKeys_of_pos (List.contains_iff_mem.mpr h)

theorem agree_mentioned (t : Template) (opts : BindOptions) (ctx : Context) :
    Agree t opts ctx (mentioned t opts ctx) where
  reserved := by
    intro htimed
    have hparam : (mentioned t opts ctx).param? timestampName = ctx.param? timestampName := by
      apply param?_mentioned
      simp [mentionedParams, htimed]
    exact congrArg Option.isSome hparam.symm
  fragments := by
    intro slot hslot
    apply Eq.symm
    apply KeyMap.get?_filterKeys_of_pos
    exact List.contains_iff_mem.mpr (List.mem_map_of_mem hslot)
  inSlots := by
    intro hallowed slot hslot
    apply Eq.symm
    apply param?_mentioned
    simp only [mentionedParams, hallowed, if_true, List.mem_append]
    exact Or.inr (Or.inl (List.mem_map_of_mem hslot))
  params := by
    intro t' hfilled p hp
    apply Eq.symm
    apply param?_mentioned
    simp only [mentionedParams, hfilled, List.mem_append]
    exact Or.inr (Or.inr (List.mem_map_of_mem hp))

end Binding

namespace Binder

open Binding

/-- Binders with one resolver, whatever they have bound before, answer alike to contexts that agree
on what the call mentions; in particular nothing else of a context is read. -/
theorem bind_reads_what_is_mentioned {b b' : Binder} (hb : b.Reachable) (hb' : b'.Reachable)
    (hresolver : b.resolver = b'.resolver) (t : Template) (opts : BindOptions) (now : Int) :
    (∀ ctx ctx', Agree t opts ctx ctx' →
      (b.bind t ctx opts now).1 = (b'.bind t ctx' opts now).1) ∧
    ∀ ctx, (b.bind t ctx opts now).1 = (b'.bind t (mentioned t opts ctx) opts now).1 := by
  have hagree {ctx ctx' : Context} (h : Agree t opts ctx ctx') :
      (b.bind t ctx opts now).1 = (b'.bind t ctx' opts now).1 := by
    rw [hb.coherent.bind.1, hb'.coherent.bind.1, hresolver]
    exact bind_congr h
  exact ⟨fun _ _ ↦ hagree, fun ctx ↦ hagree (agree_mentioned t opts ctx)⟩

def reportTemplate : Template :=
  ⟨"SELECT \x7bx -> :a\x7d :_timestamp", [.literal "SELECT ",
    .slot ⟨"x", some ":a", "\x7bx -> :a\x7d"⟩, .literal " ", .parameter ⟨"_timestamp", []⟩]⟩

def reportOptions : BindOptions := { timestamped := true, slotsFromParameters := true }

def reportArgs : Context := (Context.empty.setParam "a" (.int 1)).setParam "x" (.string "")

def wordyArgs : Context := (reportArgs.setParam "b" (.string "secret")).setFragment "y" "secret"

/-- The empty parameter gives way to the default, so that `a` is read; `b` and `y` are not. -/
theorem report_ignores_the_rest :
    Agree reportTemplate reportOptions reportArgs wordyArgs ∧
      (Binder.bind { resolver := .byName } reportTemplate reportArgs reportOptions 7).1 =
        (Binder.bind { resolver := .byName } reportTemplate wordyArgs reportOptions 7).1 := by
  have hfilled : Binding.filled reportTemplate reportArgs reportOptions =
      .ok ⟨"SELECT :a :_timestamp", [.literal "SELECT ", .parameter ⟨"a", []⟩, .literal " ",
        .parameter ⟨"_timestamp", []⟩]⟩ := by decide +kernel
  have hagree : Agree reportTemplate reportOptions reportArgs wordyArgs := by
    refine ⟨fun _ ↦ rfl, by decide, fun _ ↦ ?_, fun t' ht' ↦ ?_⟩
    · intro slot hslot
      rw [List.mem_singleton.mp hslot]
      rfl
    · cases hfilled.symm.trans ht'
      intro p hp
      rcases List.mem_pair.mp hp with rfl | rfl <;> rfl
  exact ⟨hagree, (bind_reads_what_is_mentioned (.new .byName) (.new .byName) rfl reportTemplate
    reportOptions 7).1 _ _ hagree⟩

end Binder

end QueryCatalog
