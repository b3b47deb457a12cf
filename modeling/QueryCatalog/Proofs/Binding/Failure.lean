import QueryCatalog.Proofs.Binding.Coherence

namespace QueryCatalog

namespace Binding

section First

variable {α : Type} {kind : α → Token} {P : α → Prop} {tokens : List Token}

def FirstToken (kind : α → Token) (P : α → Prop) (tokens : List Token) (a : α) : Prop :=
  ∃ before after, tokens = before ++ kind a :: after ∧ P a ∧ ∀ a', kind a' ∈ before → ¬ P a'

theorem FirstToken.mem {a : α} (h : FirstToken kind P tokens a) : kind a ∈ tokens ∧ P a := by
  obtain ⟨before, after, rfl, ha, -⟩ := h
  exact ⟨List.mem_append_right _ List.mem_cons_self, ha⟩

theorem exists_firstToken {a : α} (hmem : kind a ∈ tokens) (ha : P a) :
    ∃ a', FirstToken kind P tokens a' := by
  induction tokens with
  | nil => cases hmem
  | cons token tokens ih =>
    by_cases hhead : ∃ a', kind a' = token ∧ P a'
    · obtain ⟨a', rfl, ha'⟩ := hhead
      exact ⟨a', [], tokens, rfl, ha', nofun⟩
    · have hne : kind a ≠ token := fun heq ↦ hhead ⟨a, heq, ha⟩
      obtain ⟨a', before, after, rfl, ha', hbefore⟩ :=
        ih ((List.mem_cons.mp hmem).resolve_left hne)
      refine ⟨a', token :: before, after, rfl, ha', fun a'' hmem' ha'' ↦ ?_⟩
      rcases List.mem_cons.mp hmem' with heq | hmem'
      · exact hhead ⟨a'', heq, ha''⟩
      · exact hbefore a'' hmem' ha''

/-- A computation that can fail on tokens of one kind only fails on the first of them that it
fails on. -/
theorem mapM_eq_error_iff_firstToken {β : Type} {f : Token → Result β} {fails : α → Error → Prop}
    (hf : ∀ token e, f token = .error e ↔ ∃ a, token = kind a ∧ fails a e) {e : Error} :
    tokens.mapM f = .error e ↔
      ∃ a, FirstToken kind (fun a ↦ ∃ e, fails a e) tokens a ∧ fails a e := by
  have hok : ∀ before : List Token, (∀ token ∈ before, ∃ b, f token = .ok b) ↔
      ∀ a, kind a ∈ before → ¬ ∃ e, fails a e := by
    intro before
    constructor
    · rintro h a hmem ⟨e, he⟩
      exact Outcome.exists_ok_iff.mp (h _ hmem) e ((hf _ e).mpr ⟨a, rfl, he⟩)
    · intro h token hmem
      refine Outcome.exists_ok_iff.mpr fun e he ↦ ?_
      obtain ⟨a, rfl, hfails⟩ := (hf token e).mp he
      exact h a hmem ⟨e, hfails⟩
  rw [Outcome.mapM_eq_error_iff]
  constructor
  · rintro ⟨before, token, after, rfl, hbefore, hfail⟩
    obtain ⟨a, rfl, hfails⟩ := (hf token e).mp hfail
    exact ⟨a, ⟨before, after, rfl, ⟨e, hfails⟩, (hok before).mp hbefore⟩, hfails⟩
  · rintro ⟨a, ⟨before, after, rfl, -, hbefore⟩, hfails⟩
    exact ⟨before, kind a, after, rfl, (hok before).mpr hbefore, (hf _ e).mpr ⟨a, rfl, hfails⟩⟩

end First

section Slots

variable {t : Template} {ctx : Context} {opts : BindOptions} {slot : Slot} {e : Error}

/-- There is no fragment for a slot, no parameter in place of one, and no default. -/
structure Unfilled (ctx : Context) (opts : BindOptions) (slot : Slot) : Prop where
  fragment : ctx.fragment? slot.name = none
  parameter : opts.slotsFromParameters = true → ctx.param? slot.name = none
  default : slot.default? = none

def supplied? (ctx : Context) (opts : BindOptions) (slot : Slot) : Option String :=
  match ctx.fragment? slot.name with
  | some fragment => some fragment
  | none =>
    if opts.slotsFromParameters then (ctx.param? slot.name).map Value.display else none

/-- The text in place of a slot that is filled: the default, if nothing else is supplied than the
empty text. -/
def slotText (ctx : Context) (opts : BindOptions) (slot : Slot) : String :=
  (((supplied? ctx opts slot).filter (· ≠ "")).or slot.default?).getD ""

def filledText (ctx : Context) (opts : BindOptions) (t : Template) : String :=
  String.join (t.tokens.map fun token ↦
    match token with
    | .slot slot => slotText ctx opts slot
    | token => token.source)

theorem unfilled_iff : Unfilled ctx opts slot ↔
    supplied? ctx opts slot = none ∧ slot.default? = none := by
  unfold supplied?
  constructor
  · intro h
    refine ⟨?_, h.default⟩
    rw [h.fragment]
    dsimp only
    split
    · rename_i hallowed
      rw [h.parameter hallowed, Option.map_none]
    · rfl
  · rintro ⟨hsupplied, hdefault⟩
    split at hsupplied
    · cases hsupplied
    · rename_i hfragment
      refine ⟨hfragment, fun hallowed ↦ ?_, hdefault⟩
      rw [if_pos hallowed, Option.map_eq_none_iff] at hsupplied
      exact hsupplied

theorem fill_eq (slot : Slot) (ctx : Context) (opts : BindOptions) : fill slot ctx opts =
    match supplied? ctx opts slot, slot.default? with
    | some fragment, none => .ok fragment
    | some fragment, some default => .ok (if fragment.isEmpty then default else fragment)
    | none, some default => .ok default
    | none, none => .error (.missingSlot slot.name) := rfl

theorem fill_eq_error_iff : fill slot ctx opts = .error e ↔
    Unfilled ctx opts slot ∧ e = .missingSlot slot.name := by
  rw [unfilled_iff, fill_eq]
  cases supplied? ctx opts slot <;> cases slot.default?
  case none.none =>
    simp only [true_and, Except.error.injEq]
    exact eq_comm
  all_goals simp

theorem fill_of_not_unfilled (h : ¬ Unfilled ctx opts slot) :
    fill slot ctx opts = .ok (slotText ctx opts slot) := by
  rw [unfilled_iff] at h
  rw [fill_eq, slotText]
  cases hs : supplied? ctx opts slot with
  | none => cases hd : slot.default? <;> simp_all
  | some text =>
    by_cases htext : text = "" <;> cases slot.default? <;> simp [Option.filter, htext]

theorem fillToken_eq_error_iff {token : Token} : fillToken ctx opts token = .error e ↔
    ∃ slot, token = .slot slot ∧ Unfilled ctx opts slot ∧ e = Error.missingSlot slot.name := by
  cases token with
  | slot slot => simp [fillToken, fill_eq_error_iff]
  | literal | escaped | parameter => simp [fillToken]

theorem substitute_eq_error_iff : substitute t ctx opts = .error e ↔
    ∃ slot, FirstToken .slot (Unfilled ctx opts) t.tokens slot ∧
      e = Error.missingSlot slot.name := by
  have hunfilled : (fun slot ↦ ∃ e, Unfilled ctx opts slot ∧ e = Error.missingSlot slot.name) =
      Unfilled ctx opts := by
    funext slot
    simp
  rw [substitute, Outcome.map_eq_error_iff,
    mapM_eq_error_iff_firstToken fun _ _ ↦ fillToken_eq_error_iff, hunfilled]
  refine exists_congr fun slot ↦ ?_
  constructor
  · exact fun h ↦ ⟨h.1, h.2.2⟩
  · exact fun h ↦ ⟨h.1, h.1.mem.2, h.2⟩

def AllFilled (ctx : Context) (opts : BindOptions) (t : Template) : Prop :=
  ∀ slot, .slot slot ∈ t.tokens → ¬ Unfilled ctx opts slot

theorem substitute_of_allFilled (h : AllFilled ctx opts t) :
    substitute t ctx opts = .ok (filledText ctx opts t) := by
  unfold substitute filledText
  refine Outcome.map_eq_ok_iff.mpr ⟨_, Outcome.mapM_eq_map fun token hmem ↦ ?_, rfl⟩
  cases token with
  | slot slot => exact fill_of_not_unfilled (h slot hmem)
  | literal | escaped | parameter => rfl

end Slots

section Parameters

variable {resolver : Resolver} {ctx : Context} {opts : BindOptions} {now : Int} {p : Parameter}
  {v w : Value} {path : List String} {e : Error}

/-- The resolver has an answer for every segment of a path, and none of them is asked of a null. -/
inductive Walks (resolver : Resolver) : Value → List String → Value → Prop
  | here (v : Value) : Walks resolver v [] v
  | onward {v v' w : Value} {segment : String} {path : List String} (hv : v.isNull = false)
      (hsegment : resolver v segment = some v') (h : Walks resolver v' path w) :
      Walks resolver v (segment :: path) w

theorem walk_eq_error_iff : walk resolver p v path = .error e ↔
    ∃ walked segment rest w, path = walked ++ segment :: rest ∧ Walks resolver v walked w ∧
      w.isNull = false ∧ resolver w segment = none ∧
      e = Error.unresolvedPath p.name p.dottedPath segment := by
  induction path generalizing v with
  | nil => simp [walk]
  | cons segment path ih =>
    rw [walk]
    constructor
    · intro h
      split at h
      · cases h
      · rename_i hnull
        have hv := Bool.eq_false_iff.mpr hnull
        split at h
        · rename_i v' hsegment
          obtain ⟨walked, segment', rest, w, rfl, hwalks, hrest⟩ := ih.mp h
          exact ⟨segment :: walked, segment', rest, w, rfl, .onward hv hsegment hwalks, hrest⟩
        · rename_i hsegment
          cases h
          exact ⟨[], segment, path, v, rfl, .here v, hv, hsegment, rfl⟩
    · rintro ⟨walked, segment', rest, w, hsplit, hwalks, hw, hnone, rfl⟩
      cases hwalks with
      | here =>
        cases hsplit
        rw [if_neg (by rw [hw]; exact Bool.false_ne_true), hnone]
      | onward hv hsegment hwalks =>
        cases hsplit
        rw [if_neg (by rw [hv]; exact Bool.false_ne_true), hsegment]
        exact ih.mpr ⟨_, segment', rest, w, rfl, hwalks, hw, hnone, rfl⟩

theorem walk_of_null {rest : List String} (h : Walks resolver v path .null) :
    walk resolver p v (path ++ rest) = .ok .null := by
  generalize hw : Value.null = w at h
  induction h with
  | here =>
    subst hw
    cases rest <;> rfl
  | onward hv hsegment _ ih =>
    rw [List.cons_append, walk, if_neg (by rw [hv]; exact Bool.false_ne_true), hsegment]
    exact ih hw

inductive StartsFrom (ctx : Context) (opts : BindOptions) (now : Int) (p : Parameter) :
    Value → Prop
  | instant (htimed : opts.timestamped = true) (hname : p.name = timestampName) :
      StartsFrom ctx opts now p (.dateTime now)
  | bound {v : Value} (hfree : ¬ (opts.timestamped = true ∧ p.name = timestampName))
      (hparam : ctx.param? p.name = some v) : StartsFrom ctx opts now p v

inductive Unresolved (resolver : Resolver) (ctx : Context) (opts : BindOptions) (now : Int)
    (p : Parameter) : Error → Prop
  | missing (hfree : ¬ (opts.timestamped = true ∧ p.name = timestampName))
      (hparam : ctx.param? p.name = none) :
      Unresolved resolver ctx opts now p (.missingParameter p.name)
  /-- The segments `walked` have values, and the segment behind them has none. -/
  | path {v w : Value} {walked rest : List String} {segment : String}
      (hstart : StartsFrom ctx opts now p v) (hpath : p.path = walked ++ segment :: rest)
      (hwalks : Walks resolver v walked w) (hw : w.isNull = false)
      (hsegment : resolver w segment = none) :
      Unresolved resolver ctx opts now p (.unresolvedPath p.name p.dottedPath segment)

theorem base_eq_ok_iff : base p ctx opts now = .ok v ↔ StartsFrom ctx opts now p v := by
  unfold base
  constructor
  · intro h
    split at h
    · rename_i hinstant
      cases h
      exact .instant hinstant.1 hinstant.2
    · rename_i hfree
      split at h
      · rename_i hparam
        cases h
        exact .bound hfree hparam
      · cases h
  · rintro (⟨htimed, hname⟩ | ⟨hfree, hparam⟩)
    · rw [if_pos ⟨htimed, hname⟩]
    · rw [if_neg hfree, hparam]

theorem base_eq_error_iff : base p ctx opts now = .error e ↔
    ¬ (opts.timestamped = true ∧ p.name = timestampName) ∧ ctx.param? p.name = none ∧
      e = .missingParameter p.name := by
  unfold base
  split
  · rename_i hinstant
    simp [hinstant]
  · rename_i hfree
    cases ctx.param? p.name with
    | none =>
      simp only [Except.error.injEq, hfree, not_false_eq_true, true_and]
      exact eq_comm
    | some v => simp

theorem resolve_eq_of_startsFrom (h : StartsFrom ctx opts now p v) :
    resolve resolver p ctx opts now = walk resolver p v p.path := by
  rw [resolve, base_eq_ok_iff.mpr h]
  rfl

theorem resolve_eq_error_iff : resolve resolver p ctx opts now = .error e ↔
    Unresolved resolver ctx opts now p e := by
  constructor
  · intro h
    cases hbase : base p ctx opts now with
    | error e' =>
      obtain ⟨hfree, hparam, rfl⟩ := base_eq_error_iff.mp hbase
      rw [resolve, hbase] at h
      cases h
      exact .missing hfree hparam
    | ok v =>
      have hstart := base_eq_ok_iff.mp hbase
      rw [resolve_eq_of_startsFrom hstart] at h
      obtain ⟨walked, segment, rest, w, hpath, hwalks, hw, hsegment, rfl⟩ := walk_eq_error_iff.mp h
      exact .path hstart hpath hwalks hw hsegment
  · rintro (⟨hfree, hparam⟩ | ⟨hstart, hpath, hwalks, hw, hsegment⟩)
    · rw [resolve, base_eq_error_iff.mpr ⟨hfree, hparam, rfl⟩]
      rfl
    · rw [resolve_eq_of_startsFrom hstart]
      exact walk_eq_error_iff.mpr ⟨_, _, _, _, hpath, hwalks, hw, hsegment, rfl⟩

theorem render_eq_error_iff {token : Token} : render resolver ctx opts now token = .error e ↔
    ∃ p, token = .parameter p ∧ Unresolved resolver ctx opts now p e := by
  cases token with
  | parameter p => simp [render, Outcome.map_eq_error_iff, resolve_eq_error_iff]
  | literal | escaped | slot => simp [render]

theorem renderAll_eq_error_iff {t : Template} : renderAll resolver t ctx opts now = .error e ↔
    ∃ p, FirstToken .parameter (fun p ↦ ∃ e, Unresolved resolver ctx opts now p e) t.tokens p ∧
      Unresolved resolver ctx opts now p e := by
  rw [renderAll, Outcome.map_eq_error_iff]
  exact mapM_eq_error_iff_firstToken fun _ _ ↦ render_eq_error_iff

end Parameters

section Bind

variable {resolver : Resolver} {t t' : Template} {ctx : Context} {opts : BindOptions} {now : Int}
  {e : Error}

def BindsReserved (ctx : Context) (opts : BindOptions) : Prop :=
  opts.timestamped = true ∧ ∃ v, ctx.param? timestampName = some v

/-- The template compiled from a text with filled slots; a template without slots is its own. -/
inductive FillsTo (ctx : Context) (opts : BindOptions) (t : Template) : Template → Prop
  | same (hslots : t.hasSlots = false) : FillsTo ctx opts t t
  | compiled {t' : Template} (hslots : t.hasSlots = true) (hall : AllFilled ctx opts t)
      (hcompile : Template.compile (filledText ctx opts t) = .ok t') : FillsTo ctx opts t t'

/-- How a call fails. A later cause gives the error only if there is no earlier one. -/
inductive Fails (resolver : Resolver) (t : Template) (ctx : Context) (opts : BindOptions)
    (now : Int) : Error → Prop
  | reserved (h : BindsReserved ctx opts) :
      Fails resolver t ctx opts now (.reservedParameter timestampName)
  | missingSlot {slot : Slot} (hfree : ¬ BindsReserved ctx opts)
      (hslot : FirstToken .slot (Unfilled ctx opts) t.tokens slot) :
      Fails resolver t ctx opts now (.missingSlot slot.name)
  | fault {f : Template.Fault} (hfree : ¬ BindsReserved ctx opts) (hslots : t.hasSlots = true)
      (hall : AllFilled ctx opts t)
      (hcompile : Template.compile (filledText ctx opts t) = .error f) :
      Fails resolver t ctx opts now (.template f)
  | parameter {t' : Template} {p : Parameter} {e : Error} (hfree : ¬ BindsReserved ctx opts)
      (hfills : FillsTo ctx opts t t')
      (hfirst : FirstToken .parameter (fun p ↦ ∃ e, Unresolved resolver ctx opts now p e)
        t'.tokens p)
      (hp : Unresolved resolver ctx opts now p e) : Fails resolver t ctx opts now e

theorem checkReserved_eq (ctx : Context) (opts : BindOptions) :
    (BindsReserved ctx opts ∧ checkReserved ctx opts = .error (.reservedParameter timestampName)) ∨
      (¬ BindsReserved ctx opts ∧ checkReserved ctx opts = .ok ()) := by
  have hcontains : BindsReserved ctx opts ↔
      opts.timestamped ∧ ctx.params.contains timestampName := by
    rw [BindsReserved, KeyMap.contains, Option.isSome_iff_exists, Context.param?]
  rw [hcontains, checkReserved]
  by_cases h : opts.timestamped ∧ ctx.params.contains timestampName
  · exact Or.inl ⟨h, if_pos h⟩
  · exact Or.inr ⟨h, if_neg h⟩

theorem hasSlots_of_mem {slot : Slot} (h : .slot slot ∈ t.tokens) : t.hasSlots = true :=
  List.any_eq_true.mpr ⟨_, h, rfl⟩

theorem filled_of_allFilled (hslots : t.hasSlots = true) (hall : AllFilled ctx opts t) :
    filled t ctx opts = compile (filledText ctx opts t) := by
  rw [filled, if_pos hslots, substitute_of_allFilled hall]
  rfl

theorem FillsTo.filled_eq (h : FillsTo ctx opts t t') : filled t ctx opts = .ok t' := by
  cases h with
  | same hslots =>
    rw [filled, hslots]
    rfl
  | compiled hslots hall hcompile =>
    rw [filled_of_allFilled hslots hall]
    exact Outcome.mapError_eq_ok_iff.mpr hcompile

theorem filled_of_unfilled {slot : Slot}
    (h : FirstToken .slot (Unfilled ctx opts) t.tokens slot) :
    filled t ctx opts = .error (.missingSlot slot.name) := by
  rw [filled, if_pos (hasSlots_of_mem h.mem.1), substitute_eq_error_iff.mpr ⟨slot, h, rfl⟩]
  rfl

theorem filled_of_fault {f : Template.Fault} (hslots : t.hasSlots = true)
    (hall : AllFilled ctx opts t) (hcompile : Template.compile (filledText ctx opts t) = .error f) :
    filled t ctx opts = .error (.template f) := by
  rw [filled_of_allFilled hslots hall, compile, hcompile]
  rfl

theorem exists_first_unfilled (h : ¬ AllFilled ctx opts t) :
    ∃ slot, FirstToken .slot (Unfilled ctx opts) t.tokens slot := by
  obtain ⟨slot, hmem, hunfilled⟩ : ∃ slot, .slot slot ∈ t.tokens ∧ Unfilled ctx opts slot := by
    simpa [AllFilled] using h
  exact exists_firstToken hmem hunfilled

theorem filled_cases (t : Template) (ctx : Context) (opts : BindOptions) :
    (∃ t', FillsTo ctx opts t t') ∨
      (∃ slot, FirstToken .slot (Unfilled ctx opts) t.tokens slot) ∨
      (t.hasSlots = true ∧ AllFilled ctx opts t ∧
        ∃ f, Template.compile (filledText ctx opts t) = .error f) := by
  by_cases hall : AllFilled ctx opts t
  · cases hslots : t.hasSlots with
    | false => exact Or.inl ⟨t, .same hslots⟩
    | true =>
      cases hcompile : Template.compile (filledText ctx opts t) with
      | error f => exact Or.inr (Or.inr ⟨rfl, hall, f, rfl⟩)
      | ok t' => exact Or.inl ⟨t', .compiled hslots hall hcompile⟩
  · exact Or.inr (Or.inl (exists_first_unfilled hall))

theorem bind_of_free (hfree : ¬ BindsReserved ctx opts) : bind resolver t ctx opts now =
    (do renderAll resolver (← filled t ctx opts) ctx opts now) := by
  rcases checkReserved_eq ctx opts with ⟨hreserved, -⟩ | ⟨-, hpassed⟩
  · exact absurd hreserved hfree
  · rw [bind, hpassed]
    rfl

theorem bind_of_unfilled (hfree : ¬ BindsReserved ctx opts) (h : filled t ctx opts = .error e) :
    bind resolver t ctx opts now = .error e := by
  rw [bind_of_free hfree, h]
  rfl

theorem bind_of_fillsTo (hfree : ¬ BindsReserved ctx opts) (h : FillsTo ctx opts t t') :
    bind resolver t ctx opts now = renderAll resolver t' ctx opts now := by
  rw [bind_of_free hfree, h.filled_eq]
  rfl

theorem Fails.bind_eq (h : Fails resolver t ctx opts now e) :
    bind resolver t ctx opts now = .error e := by
  cases h with
  | reserved h =>
    rcases checkReserved_eq ctx opts with ⟨-, hrefused⟩ | ⟨hfree, -⟩
    · rw [bind, hrefused]
      rfl
    · exact absurd h hfree
  | missingSlot hfree hslot => exact bind_of_unfilled hfree (filled_of_unfilled hslot)
  | fault hfree hslots hall hcompile =>
    exact bind_of_unfilled hfree (filled_of_fault hslots hall hcompile)
  | parameter hfree hfills hfirst hp =>
    rw [bind_of_fillsTo hfree hfills]
    exact renderAll_eq_error_iff.mpr ⟨_, hfirst, hp⟩

theorem fails_of_bind (h : bind resolver t ctx opts now = .error e) :
    Fails resolver t ctx opts now e := by
  have hsame {e' : Error} (hfails : Fails resolver t ctx opts now e') :
      Fails resolver t ctx opts now e := by
    cases hfails.bind_eq.symm.trans h
    exact hfails
  by_cases hfree : BindsReserved ctx opts
  · exact hsame (.reserved hfree)
  · rcases filled_cases t ctx opts with ⟨t', hfills⟩ | ⟨slot, hslot⟩ | ⟨hslots, hall, f, hcompile⟩
    · rw [bind_of_fillsTo hfree hfills] at h
      obtain ⟨p, hfirst, hp⟩ := renderAll_eq_error_iff.mp h
      exact .parameter hfree hfills hfirst hp
    · exact hsame (.missingSlot hfree hslot)
    · exact hsame (.fault hfree hslots hall hcompile)

inductive HasCause (resolver : Resolver) (t : Template) (ctx : Context) (opts : BindOptions)
    (now : Int) : Prop
  | reserved (h : BindsReserved ctx opts)
  | unfilled {slot : Slot} (hmem : .slot slot ∈ t.tokens) (h : Unfilled ctx opts slot)
  | fault {f : Template.Fault} (hslots : t.hasSlots = true) (hall : AllFilled ctx opts t)
      (hcompile : Template.compile (filledText ctx opts t) = .error f)
  | unresolved {t' : Template} {p : Parameter} {e : Error} (hfills : FillsTo ctx opts t t')
      (hmem : .parameter p ∈ t'.tokens) (h : Unresolved resolver ctx opts now p e)

theorem HasCause.fails (h : HasCause resolver t ctx opts now) :
    ∃ e, Fails resolver t ctx opts now e := by
  by_cases hfree : BindsReserved ctx opts
  · exact ⟨_, .reserved hfree⟩
  by_cases hall : AllFilled ctx opts t
  · cases h with
    | reserved h => exact absurd h hfree
    | unfilled hmem h => exact absurd h (hall _ hmem)
    | fault hslots _ hcompile => exact ⟨_, .fault hfree hslots hall hcompile⟩
    | unresolved hfills hmem h =>
      obtain ⟨p, hfirst⟩ := exists_firstToken
        (P := fun p ↦ ∃ e, Unresolved resolver ctx opts now p e) hmem ⟨_, h⟩
      obtain ⟨e, hp⟩ := hfirst.mem.2
      exact ⟨e, .parameter hfree hfills hfirst hp⟩
  · obtain ⟨slot, hslot⟩ := exists_first_unfilled hall
    exact ⟨_, .missingSlot hfree hslot⟩

theorem Fails.hasCause (h : Fails resolver t ctx opts now e) :
    HasCause resolver t ctx opts now := by
  cases h with
  | reserved h => exact .reserved h
  | missingSlot _ hslot => exact .unfilled hslot.mem.1 hslot.mem.2
  | fault _ hslots hall hcompile => exact .fault hslots hall hcompile
  | parameter _ hfills hfirst hp => exact .unresolved hfills hfirst.mem.1 hp

end Bind

end Binding

namespace Binder

open Binding

/-- The causes of a failure, the error that each of them gives, and nulls on the way as the value of
a path. -/
theorem bind_fails_iff {b : Binder} (hb : b.Reachable) (t : Template) (ctx : Context)
    (opts : BindOptions) (now : Int) :
    ((∃ e, (b.bind t ctx opts now).1 = .error e) ↔ HasCause b.resolver t ctx opts now) ∧
    (∀ e, (b.bind t ctx opts now).1 = .error e ↔ Fails b.resolver t ctx opts now e) ∧
    ∀ p v walked rest, StartsFrom ctx opts now p v → p.path = walked ++ rest →
      Walks b.resolver v walked .null →
        resolve b.resolver p ctx opts now = .ok .null ∧
        ∀ e, ¬ Unresolved b.resolver ctx opts now p e := by
  rw [hb.coherent.bind.1]
  refine ⟨?_, fun e ↦ ⟨fails_of_bind, Fails.bind_eq⟩, fun p v walked rest hstart hpath hwalks ↦ ?_⟩
  · constructor
    · rintro ⟨e, h⟩
      exact (fails_of_bind h).hasCause
    · intro hcause
      obtain ⟨e, hfails⟩ := hcause.fails
      exact ⟨e, hfails.bind_eq⟩
  · have hnull : resolve b.resolver p ctx opts now = .ok .null := by
      rw [resolve_eq_of_startsFrom hstart, hpath]
      exact walk_of_null hwalks
    refine ⟨hnull, fun e he ↦ ?_⟩
    rw [resolve_eq_error_iff.mpr he] at hnull
    cases hnull

def pathTemplate : Template :=
  ⟨"SELECT \x7bx\x7d :u.boss.id :y", [.literal "SELECT ", .slot ⟨"x", none, "\x7bx\x7d"⟩,
    .literal " ", .parameter ⟨"u", ["boss", "id"]⟩, .literal " ", .parameter ⟨"y", []⟩]⟩

/-- The fragment brings in a parameter whose path comes to an end too early. -/
def pathArgs : Context :=
  ⟨KeyMap.ofList [("u", .object [("boss", .null), ("org", .object [])])],
    KeyMap.ofList [("x", ":u.org.id")]⟩

theorem fragment_path_fails :
    (Binder.bind { resolver := .byName } pathTemplate pathArgs {} 0).1 =
        .error (.unresolvedPath "u" "org.id" "id") ∧
      Fails .byName pathTemplate pathArgs {} 0 (.unresolvedPath "u" "org.id" "id") ∧
      resolve .byName ⟨"u", ["boss", "id"]⟩ pathArgs {} 0 = .ok .null := by
  have hsql : (Binder.bind { resolver := .byName } pathTemplate pathArgs {} 0).1.map Plan.sql =
      .error (.unresolvedPath "u" "org.id" "id") := by decide +kernel
  have hbind := Outcome.map_eq_error_iff.mp hsql
  obtain ⟨-, hfails, hnull⟩ := bind_fails_iff (.new .byName) pathTemplate pathArgs {} 0
  exact ⟨hbind, (hfails _).mp hbind, (hnull ⟨"u", ["boss", "id"]⟩ _ ["boss"] ["id"]
    (.bound (by decide) rfl) rfl (.onward rfl rfl (.here _))).1⟩

end Binder

end QueryCatalog
