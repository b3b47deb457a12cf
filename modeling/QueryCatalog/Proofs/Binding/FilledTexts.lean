import QueryCatalog.Proofs.Binding.Failure
import QueryCatalog.Proofs.LastUses

namespace QueryCatalog

structure BindCall where
  template : Template
  ctx : Context
  opts : BindOptions
  now : Int

namespace BindCall

def alone (resolver : Resolver) (c : BindCall) : Result Plan :=
  (({ resolver } : Binder).bind c.template c.ctx c.opts c.now).1

/-- The text with its slots filled that the call compiles, if it comes to that and the text has no
fault. -/
def compiledText? (c : BindCall) : Option String :=
  if c.opts.timestamped ∧ c.ctx.params.contains timestampName then none
  else if c.template.hasSlots then
    match Binding.substitute c.template c.ctx c.opts with
    | .error _ => none
    | .ok text =>
      match Template.compile text with
      | .error _ => none
      | .ok _ => some text
  else none

end BindCall

inductive Error.OfParameter : Error → Prop
  | missing (name : String) : OfParameter (.missingParameter name)
  | unresolved (parameter path segment : String) :
      OfParameter (.unresolvedPath parameter path segment)

namespace Binding

variable {resolver : Resolver} {t : Template} {ctx : Context} {opts : BindOptions} {now : Int}
  {p : Parameter} {e : Error}

theorem Unresolved.ofParameter (h : Unresolved resolver ctx opts now p e) : e.OfParameter := by
  cases h with
  | missing => exact .missing _
  | path => exact .unresolved ..

theorem ofParameter_of_renderAll (h : renderAll resolver t ctx opts now = .error e) :
    e.OfParameter := by
  obtain ⟨p, -, hunresolved⟩ := renderAll_eq_error_iff.mp h
  exact hunresolved.ofParameter

end Binding

namespace Binder

def call (b : Binder) (c : BindCall) : Binder := (b.bind c.template c.ctx c.opts c.now).2

def after (b : Binder) (calls : List BindCall) : Binder := calls.foldl call b

def answers (b : Binder) : List BindCall → List (Result Plan)
  | [] => []
  | c :: calls => (b.bind c.template c.ctx c.opts c.now).1 :: answers (b.call c) calls

section Call

variable {resolver : Resolver} {b : Binder} {c : BindCall} {text : String} {t : Template}
  {f : Template.Fault}

theorem keys_compileFilled (b : Binder) (hcompile : Template.compile text = .ok t) :
    (b.compileFilled text).2.filled.keys =
      (text :: b.filled.keys.filter (· ≠ text)).take filledCapacity := by
  unfold compileFilled
  split
  · rename_i t' hkept
    exact RecencyMap.keys_touch_eq_take
      (RecencyMap.mem_keys_iff.mpr (Option.isSome_of_eq_some hkept))
  · have hbinding : Binding.compile text = .ok t := Outcome.mapError_eq_ok_iff.mpr hcompile
    rw [hbinding]
    exact RecencyMap.keys_insert ..

theorem Coherent.compileFilled_of_error (h : b.Coherent)
    (hcompile : Template.compile text = .error f) : (b.compileFilled text).2 = b := by
  unfold Binder.compileFilled
  split
  · rename_i t hkept
    rw [h text t hkept] at hcompile
    cases hcompile
  · have hbinding : Binding.compile text = .error (.template f) := by
      rw [Binding.compile, hcompile]
      rfl
    rw [hbinding]

theorem call_of_refused {e : Error} (h : Binding.checkReserved c.ctx c.opts = .error e) :
    b.call c = b := by
  rw [call, Binder.bind, h]

theorem filled_call_of_admitted (h : Binding.checkReserved c.ctx c.opts = .ok ()) :
    (b.call c).filled = (b.fill c.template c.ctx c.opts).2.filled := by
  rw [call, Binder.bind, h]
  rcases b.fill c.template c.ctx c.opts with ⟨result, b'⟩
  cases result <;> rfl

theorem Coherent.keys_call (h : b.Coherent) (c : BindCall) : (b.call c).filled.keys =
    match c.compiledText? with
    | none => b.filled.keys
    | some text => (text :: b.filled.keys.filter (· ≠ text)).take filledCapacity := by
  rw [BindCall.compiledText?]
  split_ifs with hreserved hslots
  · rw [call_of_refused (if_pos hreserved)]
  · rw [filled_call_of_admitted (if_neg hreserved), Binder.fill, if_pos hslots]
    cases hsubstitute : Binding.substitute c.template c.ctx c.opts with
    | error e => rfl
    | ok text =>
      cases hcompile : Template.compile text with
      | error f => simp only [h.compileFilled_of_error hcompile, hcompile]
      | ok t => simp only [keys_compileFilled b hcompile, hcompile]
  · rw [filled_call_of_admitted (if_neg hreserved), Binder.fill, if_neg hslots]

def compiledTexts (calls : List BindCall) : List String :=
  (calls.filterMap BindCall.compiledText?).reverse

theorem compiledTexts_concat (calls : List BindCall) (c : BindCall) :
    compiledTexts (calls ++ [c]) = c.compiledText?.toList ++ compiledTexts calls := by
  cases htext : c.compiledText? <;> simp [compiledTexts, htext]

theorem after_concat (b : Binder) (calls : List BindCall) (c : BindCall) :
    b.after (calls ++ [c]) = (b.after calls).call c :=
  List.foldl_concat ..

theorem coherent_after (resolver : Resolver) (calls : List BindCall) :
    (({ resolver } : Binder).after calls).Coherent := by
  induction calls using List.reverseRecOn with
  | nil => exact coherent_new resolver
  | append_singleton calls c ih =>
    rw [after_concat]
    exact ih.bind.2

/-- A binder keeps the texts that were used last. -/
theorem keys_after (resolver : Resolver) (calls : List BindCall) :
    (({ resolver } : Binder).after calls).filled.keys =
      (lastUses (compiledTexts calls)).take filledCapacity := by
  induction calls using List.reverseRecOn with
  | nil => rfl
  | append_singleton calls c ih =>
    have hcall := (coherent_after resolver calls).keys_call c
    rw [after_concat, hcall, ih, compiledTexts_concat]
    cases c.compiledText? with
    | none => rfl
    | some text => exact take_cons_filter_take (nodup_lastUses _) text filledCapacity

theorem size_after (resolver : Resolver) (calls : List BindCall) :
    (({ resolver } : Binder).after calls).filled.size =
      min filledCapacity (calls.filterMap BindCall.compiledText?).toFinset.card := by
  rw [RecencyMap.size_eq_length_keys, keys_after, List.length_take, length_lastUses, compiledTexts,
    List.toFinset_reverse]

theorem Coherent.answers_eq (h : b.Coherent) (calls : List BindCall) :
    b.answers calls = calls.map fun c ↦ c.alone b.resolver := by
  induction calls generalizing b with
  | nil => rfl
  | cons c calls ih =>
    have hresolver : (b.call c).resolver = b.resolver := bind_resolver ..
    have halone : (b.bind c.template c.ctx c.opts c.now).1 = c.alone b.resolver :=
      h.bind.1.trans (coherent_new b.resolver).bind.1.symm
    have hcoherent : (b.call c).Coherent := h.bind.2
    rw [answers, halone, ih hcoherent, hresolver, List.map_cons]

end Call

end Binder

namespace BindCall

variable {resolver : Resolver} {c : BindCall} {e : Error}

/-- A call that fails on a parameter has compiled its text, and one that fails earlier has not. -/
theorem compiledText?_of_alone_error (h : c.alone resolver = .error e) :
    (e.OfParameter ∧ (c.template.hasSlots → ∃ text,
      Binding.substitute c.template c.ctx c.opts = .ok text ∧ c.compiledText? = some text)) ∨
    (¬ e.OfParameter ∧ c.compiledText? = none) := by
  have hbind : Binding.bind resolver c.template c.ctx c.opts c.now = .error e :=
    (Binder.coherent_new resolver).bind.1.symm.trans h
  rw [Binding.bind, Binding.checkReserved] at hbind
  rw [compiledText?]
  split_ifs at hbind ⊢ with hreserved hslots
  · cases hbind
    exact Or.inr ⟨by rintro ⟨⟩, rfl⟩
  · rw [Binding.filled, if_pos hslots] at hbind
    cases hsubstitute : Binding.substitute c.template c.ctx c.opts with
    | error e' =>
      rw [hsubstitute] at hbind
      cases hbind
      obtain ⟨slot, -, rfl⟩ := Binding.substitute_eq_error_iff.mp hsubstitute
      exact Or.inr ⟨by rintro ⟨⟩, rfl⟩
    | ok text =>
      have hrest : (do Binding.renderAll resolver (← Binding.compile text) c.ctx c.opts c.now) =
          .error e := by
        rwa [hsubstitute] at hbind
      cases hcompile : Template.compile text with
      | error f =>
        rw [Binding.compile, hcompile] at hrest
        cases hrest
        simp only [hcompile]
        exact Or.inr ⟨by rintro ⟨⟩, trivial⟩
      | ok t =>
        rw [Binding.compile, hcompile] at hrest
        simp only [hcompile]
        exact Or.inl ⟨Binding.ofParameter_of_renderAll hrest, fun _ ↦ ⟨text, rfl, rfl⟩⟩
  · rw [Binding.filled, if_neg hslots] at hbind
    exact Or.inl ⟨Binding.ofParameter_of_renderAll hbind, fun hslots' ↦ absurd hslots' hslots⟩

end BindCall

/-- Whatever was bound before, a call is answered as if it were the only one. -/
theorem binder_transparent (resolver : Resolver) (calls : List BindCall) :
    ({ resolver } : Binder).answers calls = calls.map (BindCall.alone resolver) ∧
      (({ resolver } : Binder).after calls).filled.size =
        min 256 (calls.filterMap BindCall.compiledText?).toFinset.card ∧
      ∀ (c : BindCall) (e : Error), c.alone resolver = .error e →
        (∀ name, e = .reservedParameter name ∨ e = .missingSlot name → c.compiledText? = none) ∧
        (e.OfParameter → c.template.hasSlots → ∃ text,
          Binding.substitute c.template c.ctx c.opts = .ok text ∧
            c.compiledText? = some text) := by
  refine ⟨(Binder.coherent_new resolver).answers_eq calls, Binder.size_after resolver calls,
    fun c e h ↦ ?_⟩
  rcases BindCall.compiledText?_of_alone_error h with ⟨hparameter, htext⟩ | ⟨hearlier, htext⟩
  · refine ⟨?_, fun _ ↦ htext⟩
    rintro name (rfl | rfl) <;> cases hparameter
  · exact ⟨fun _ _ ↦ htext, fun hparameter ↦ absurd hparameter hearlier⟩

end QueryCatalog
