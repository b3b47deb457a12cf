import QueryCatalog.Proofs.Execution.Recording

namespace QueryCatalog

variable {σ α : Type}

namespace Interceptor

inductive Enters (call : Invocation) : List (Interceptor σ) → σ → σ → Prop
  | inside (s : σ) : Enters call [] s s
  | next {i : Interceptor σ} {hooks : List (Interceptor σ)} {s s' s'' : σ}
      (hbefore : i.before call s = (.ok (), s')) (hrest : Enters call hooks s' s'') :
      Enters call (i :: hooks) s s''

def opening (call : Invocation) (hooks : List (Interceptor σ)) : List Event :=
  hooks.map fun i ↦ .before i.name call.method

def closing (hooks : List (Interceptor σ)) (r : Result α) : List Event :=
  hooks.reverse.map fun i ↦
    match r with
    | .ok _ => .after i.name
    | .error e => .onError i.name e

def leave (call : Invocation) (hooks : List (Interceptor σ)) (r : Result α) (s : σ) : σ :=
  hooks.foldr (fun i s ↦
    match r with
    | .ok _ => i.after call s
    | .error e => i.onError call e s) s

/-- The hooks in front let the call pass, and the next one refuses it. -/
structure Refused (call : Invocation) (hooks : List (Interceptor σ)) (s : σ)
    (front : List (Interceptor σ)) (i : Interceptor σ) (e : Error) (s' : σ) : Prop where
  front_prefix : front ++ [i] <+: hooks
  refuses : ∃ t, Enters call front s t ∧ i.before call t = (.error e, s')

variable {call : Invocation} {hooks front : List (Interceptor σ)} {i : Interceptor σ}
  {s s' t t' : σ} {work : Action σ α} {r : Result α} {e : Error}

theorem enclose_append (hooks hooks' : List (Interceptor σ)) (work : Action σ α) :
    enclose call (hooks ++ hooks') work = enclose call hooks (enclose call hooks' work) := by
  induction hooks with
  | nil => rfl
  | cons i hooks ih => simp only [List.cons_append, enclose, ih]

theorem enclose_of_enters (h : Enters call hooks s t) (hwork : work t = (r, t')) :
    enclose call hooks work s = (r, leave call hooks r t') := by
  induction h with
  | inside s => exact hwork
  | next hbefore _ ih =>
    simp only [enclose, hbefore, ih hwork]
    cases r <;> rfl

theorem enclose_of_refused (h : Refused call hooks s front i e t) :
    enclose call hooks work s = (.error e, leave call front (.error e : Result α) t) := by
  obtain ⟨⟨rest, rfl⟩, u, henters, hbefore⟩ := h
  rw [List.append_assoc, enclose_append]
  apply enclose_of_enters henters
  simp [enclose, hbefore]

theorem enters_or_refused (call : Invocation) (hooks : List (Interceptor σ)) (s : σ) :
    (∃ t, Enters call hooks s t) ∨ ∃ front i e t, Refused call hooks s front i e t := by
  induction hooks generalizing s with
  | nil => exact Or.inl ⟨s, .inside s⟩
  | cons i hooks ih =>
    cases hbefore : i.before call s with
    | mk r s' =>
      cases r with
      | error e =>
        refine Or.inr ⟨[], i, e, s', ⟨hooks, rfl⟩, s, .inside s, hbefore⟩
      | ok u =>
        rcases ih s' with ⟨t, henters⟩ | ⟨front, j, e, t, ⟨rest, rfl⟩, u, henters, hrefuses⟩
        · exact Or.inl ⟨t, .next hbefore henters⟩
        · exact Or.inr ⟨i :: front, j, e, t, ⟨rest, rfl⟩, u, .next hbefore henters, hrefuses⟩

section Recorded

open Traced

theorem Enters.recorded (h : Enters call hooks s t) (events : List Event) :
    Enters call (hooks.map Traced.interceptor) ⟨s, events⟩
      ⟨t, (opening call hooks).reverse ++ events⟩ := by
  induction h generalizing events with
  | inside s => exact .inside _
  | @next i hooks s s' s'' hbefore _ ih =>
    have hnoted : (Traced.interceptor i).before call ⟨s, events⟩ =
        (.ok (), ⟨s', .before i.name call.method :: events⟩) := by
      simp [Traced.interceptor, noting, note, lift, hbefore]
    refine .next hnoted ?_
    simpa [opening] using ih (.before i.name call.method :: events)

theorem leave_recorded (hooks : List (Interceptor σ)) (r : Result α) (s : σ)
    (events : List Event) : leave call (hooks.map Traced.interceptor) r ⟨s, events⟩ =
      ⟨leave call hooks r s, (closing hooks r).reverse ++ events⟩ := by
  induction hooks with
  | nil => rfl
  | cons i hooks ih =>
    rw [leave] at ih
    rw [List.map_cons, leave, List.foldr_cons, ih]
    cases r <;> simp [Traced.interceptor, note, leave, closing]

theorem Refused.recorded (h : Refused call hooks s front i e t) (events : List Event) :
    Refused call (hooks.map Traced.interceptor) ⟨s, events⟩ (front.map Traced.interceptor)
      (Traced.interceptor i) e ⟨t, (opening call (front ++ [i])).reverse ++ events⟩ := by
  obtain ⟨hfront, u, henters, hbefore⟩ := h
  refine ⟨by simpa using hfront.map Traced.interceptor, _, henters.recorded events, ?_⟩
  simp [Traced.interceptor, noting, note, lift, hbefore, opening]

/-- What becomes of an operation inside hooks: all of them let it run, or one of them refuses. -/
inductive Nests (call : Invocation) (hooks : List (Interceptor σ)) (work : Work σ α) (s : σ) :
    Result α → σ → List Event → Prop
  | passed {t t' : σ} {r : Result α} {noted : List Event} (henters : Enters call hooks s t)
      (hwork : work t r t' noted) :
      Nests call hooks work s r (leave call hooks r t')
        (opening call hooks ++ noted ++ closing hooks r)
  | refused {front : List (Interceptor σ)} {i : Interceptor σ} {e : Error} {t : σ}
      (h : Refused call hooks s front i e t) :
      Nests call hooks work s (.error e) (leave call front (.error e : Result α) t)
        (opening call (front ++ [i]) ++ closing front (.error e : Result α))

theorem realizes_enclose {m : Action (Traced σ) α} {work : Work σ α} (hm : Realizes m work)
    (call : Invocation) (hooks : List (Interceptor σ)) :
    Realizes (enclose call (hooks.map Traced.interceptor) m) (Nests call hooks work) where
  total s := by
    rcases enters_or_refused call hooks s with ⟨t, henters⟩ | ⟨front, i, e, t, hrefused⟩
    · obtain ⟨r, t', noted, hwork⟩ := hm.total t
      exact ⟨r, _, _, .passed henters hwork⟩
    · exact ⟨_, _, _, .refused hrefused⟩
  runs {s _ _ _} h := by
    intro events
    cases h with
    | passed henters hwork =>
      rw [enclose_of_enters (henters.recorded events) (hm.runs hwork _), leave_recorded]
      simp only [List.reverse_append, List.append_assoc]
    | refused h =>
      rw [enclose_of_refused (h.recorded events), leave_recorded]
      simp only [List.reverse_append, List.append_assoc]

def Works (m : Action σ α) : Work σ α := fun s r s' noted ↦ m s = (r, s') ∧ noted = [.work]

theorem realizes_works (m : Action σ α) : Realizes (noting .work m) (Works m) where
  total s := ⟨_, _, _, rfl, rfl⟩
  runs := by
    rintro s r s' noted ⟨hm, rfl⟩
    exact .noting .work hm

end Recorded

theorem map_recorded_filter (hooks : List (Interceptor σ)) (call : Invocation) :
    (hooks.map Traced.interceptor).filter (·.appliesTo call) =
      (hooks.filter (·.appliesTo call)).map Traced.interceptor := by
  rw [List.filter_map]
  rfl

theorem Nests.invoke_eq {noted : List Event}
    (h : Nests call (hooks.filter (·.appliesTo call)) (Works work) s r s' noted) :
    invoke hooks call work s = (r, s') := by
  rw [invoke]
  cases h with
  | passed henters hwork => exact enclose_of_enters henters hwork.1
  | refused h => exact enclose_of_refused h

/-- The hooks that take part in a call are those that apply to it. A call from inside the catalog is
one without the hooks for calls from outside, and recording changes no outcome. -/
theorem invoke_nests (hooks : List (Interceptor σ)) (call : Invocation) (work : Action σ α)
    (s : σ) :
    (∃ r s' noted, Nests call (hooks.filter (·.appliesTo call)) (Works work) s r s' noted ∧
      invoke hooks call work s = (r, s')) ∧
    (∀ r s' noted,
      Traced.Runs (invoke (hooks.map Traced.interceptor) call (Traced.noting .work work)) s r s'
          noted ↔
        Nests call (hooks.filter (·.appliesTo call)) (Works work) s r s' noted) ∧
    ∀ method (m : Action (Traced σ) α),
      invoke (hooks.map Traced.interceptor) ⟨method, false⟩ m =
        invoke ((hooks.filter fun i ↦ !i.externalOnly).map Traced.interceptor) ⟨method, false⟩
          m := by
  have hrealizes := realizes_enclose (realizes_works work) call (hooks.filter (·.appliesTo call))
  refine ⟨?_, fun r s' noted ↦ ?_, fun method m ↦ ?_⟩
  · obtain ⟨r, s', noted, h⟩ := hrealizes.total s
    exact ⟨r, s', noted, h, h.invoke_eq⟩
  · rw [invoke, map_recorded_filter]
    exact hrealizes.runs_iff
  · rw [invoke, invoke, map_recorded_filter, map_recorded_filter, List.filter_filter]
    simp [appliesTo]

end Interceptor

end QueryCatalog
