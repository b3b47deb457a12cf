import Mathlib.Data.List.SplitBy
import QueryCatalog.Proofs.Merge.Grouping

namespace QueryCatalog.Merge

def groups (spec : Spec) (rows : List Row) : List (List Row) :=
  rows.splitBy fun r r' ↦ entityKey spec r == entityKey spec r'

/-- The key of the row was there before, but not in the row before. -/
def ComesBack (spec : Spec) (before : List Row) (r : Row) : Prop :=
  entityKey spec r ∈ before.map (entityKey spec) ∧
    before.getLast?.map (entityKey spec) ≠ some (entityKey spec r)

instance (spec : Spec) (before : List Row) (r : Row) : Decidable (ComesBack spec before r) :=
  inferInstanceAs (Decidable (_ ∧ _))

def fault? (spec : Spec) (before : List Row) : Result Row → Option Error
  | .error e => some e
  | .ok r =>
    if r.values.length ≠ r.columns.length then
      some (.rowWidth before.length r.values.length r.columns.length)
    else
      match Layout.build r.columns spec with
      | .error e => some e
      | .ok _ =>
        if ComesBack spec before r then
          some (.rowOrder (entityKey spec r).display before.length)
        else none

def Faultless (spec : Spec) (rows : List Row) : Prop :=
  ∀ before r, before ++ [r] <+: rows → fault? spec before (.ok r) = none

structure Answer where
  yields : Option (Result Value)
  left : List (Result Row)
  /-- No later call takes a row. -/
  ended : Bool

def Answer.nothing (left : List (Result Row)) : Answer := ⟨none, left, true⟩

def Answer.refused (e : Error) (left : List (Result Row)) : Answer := ⟨some (.error e), left, true⟩

def Stream.calls : Nat → Stream → List Answer
  | 0, _ => []
  | n + 1, s => ⟨s.next.1, s.next.2.rows, s.next.2.state.done⟩ :: calls n s.next.2

/-- The answers with the entities of groups, behind so many rows: each takes one row more than its
group has, or finds that there is none. -/
def served (spec : Spec) (rows : List (Result Row)) : Nat → List (List Row) → List Answer
  | _, [] => []
  | taken, group :: rest =>
    ⟨some (.ok (groupEntity spec group)), rows.drop (taken + group.length + 1),
      decide (rows.length ≤ taken + group.length)⟩ :: served spec rows (taken + group.length) rest

variable {spec : Spec} {earlier group rows : List Row} {r : Row} {st st' : State}
  {item : Result Row} {items : List (Result Row)} {e : Error}

theorem fault?_ok_eq_none_iff {before : List Row} :
    fault? spec before (.ok r) = none ↔ r.values.length = r.columns.length ∧
      (∃ layout, Layout.build r.columns spec = .ok layout) ∧ ¬ ComesBack spec before r := by
  rw [fault?]
  by_cases hwidth : r.values.length = r.columns.length
  · rw [if_neg (not_not.mpr hwidth)]
    cases hlayout : Layout.build r.columns spec with
    | error e => simp
    | ok layout => simp [hwidth]
  · rw [if_pos hwidth]
    simp [hwidth]

theorem faultless_nil (spec : Spec) : Faultless spec [] := by
  intro before r h
  have := h.length_le
  simp at this

theorem faultless_concat_iff : Faultless spec (rows ++ [r]) ↔
    Faultless spec rows ∧ fault? spec rows (.ok r) = none := by
  constructor
  · intro h
    exact ⟨fun before r' h' ↦ h before r' (h'.trans (List.prefix_append ..)),
      h rows r List.prefix_rfl⟩
  · rintro ⟨hrows, hr⟩ before r' h
    rcases List.prefix_concat_iff.mp h with h | h
    · obtain ⟨rfl, hlast⟩ := List.append_inj' h rfl
      cases hlast
      exact hr
    · exact hrows before r' h

theorem faultless_or_fault {before : List Row} (h : Faultless spec before)
    (items : List (Result Row)) :
    (∃ good, items = good.map .ok ∧ Faultless spec (before ++ good)) ∨
      ∃ good item rest e, items = good.map .ok ++ item :: rest ∧ Faultless spec (before ++ good) ∧
        fault? spec (before ++ good) item = some e := by
  induction items generalizing before with
  | nil => exact Or.inl ⟨[], rfl, by rwa [List.append_nil]⟩
  | cons item items ih =>
    cases hitem : fault? spec before item with
    | some e =>
      exact Or.inr ⟨[], item, items, e, rfl, by rwa [List.append_nil], by rwa [List.append_nil]⟩
    | none =>
      cases item with
      | error e => cases hitem
      | ok r =>
        rcases ih (faultless_concat_iff.mpr ⟨h, hitem⟩) with
          ⟨good, rfl, hgood⟩ | ⟨good, item, rest, e, rfl, hgood, hfault⟩
        · rw [List.append_assoc] at hgood
          exact Or.inl ⟨r :: good, rfl, hgood⟩
        · rw [List.append_assoc] at hgood hfault
          exact Or.inr ⟨r :: good, item, rest, e, rfl, hgood, hfault⟩

theorem take_row {layout : Layout} {n : Nat} {values : List Value}
    (h : ∀ e, (st.take layout n values).1 ≠ some (.error e)) :
    (st.take layout n values).2.row = st.row ∧ (st.take layout n values).2.done = st.done := by
  unfold State.take at h ⊢
  dsimp only at h ⊢
  cases hcurrent : st.current? with
  | none =>
    rw [hcurrent] at h
    dsimp only at h ⊢
    split
    · rename_i hclosed
      rw [if_pos hclosed] at h
      exact absurd rfl (h _)
    · exact ⟨rfl, rfl⟩
  | some e =>
    rw [hcurrent] at h
    dsimp only at h ⊢
    split
    · exact ⟨rfl, rfl⟩
    · rename_i hkey
      rw [if_neg hkey] at h
      split
      · rename_i hclosed
        rw [if_pos hclosed] at h
        exact absurd rfl (h _)
      · exact ⟨rfl, rfl⟩

theorem feed_row {spec : Spec} (st : State) (r : Row)
    (h : ∀ e, (st.feed spec (.ok r)).1 ≠ some (.error e)) :
    (st.feed spec (.ok r)).2.row = st.row + 1 ∧ (st.feed spec (.ok r)).2.done = st.done := by
  unfold State.feed at h ⊢
  dsimp only at h ⊢
  split
  · rename_i hwidth
    rw [if_pos hwidth] at h
    exact absurd rfl (h _)
  · rename_i hwidth
    rw [if_neg hwidth] at h
    split
    · rename_i e hlayout
      rw [hlayout] at h
      exact absurd rfl (h _)
    · rename_i layout hlayout
      rw [hlayout] at h
      exact take_row h

theorem Opened.getLast?_key {e : OpenEntity} (h : Opened spec group e st) (earlier : List Row) :
    (earlier ++ group).getLast?.map (entityKey spec) = some e.key := by
  rw [List.getLast?_append_of_ne_nil _ h.nonempty, List.getLast?_eq_some_getLast h.nonempty,
    Option.map_some, h.key _ (List.getLast_mem _)]

theorem Opened.mem_keys_iff {e : OpenEntity} (h : Opened spec group e st) (k : Key) :
    k ∈ group.map (entityKey spec) ↔ k = e.key := by
  rw [List.mem_map]
  constructor
  · rintro ⟨r, hr, rfl⟩
    exact h.key r hr
  · rintro rfl
    obtain ⟨r, hr⟩ := List.exists_mem_of_ne_nil group h.nonempty
    exact ⟨r, hr, h.key r hr⟩

def OneKey (spec : Spec) (group : List Row) : Prop :=
  ∀ x ∈ group, ∀ y ∈ group, entityKey spec x = entityKey spec y

/-- A merge that has taken rows without fault. The open group is that of the last row, and the
closed keys are those of the rows before it. -/
inductive Reached (spec : Spec) : List Row → List Row → State → Prop
  | start : Reached spec [] [] {}
  | inside {earlier group : List Row} {e : OpenEntity} {st : State}
      (opened : Opened spec group e st) (done : st.done = false)
      (row : st.row = (earlier ++ group).length)
      (closed : ∀ k, k ∈ st.closed ↔ k ∈ earlier.map (entityKey spec))
      (fresh : e.key ∉ st.closed) : Reached spec earlier group st

namespace Reached

theorem done_eq (h : Reached spec earlier group st) : st.done = false := by
  cases h with
  | start => rfl
  | inside _ hdone => exact hdone

theorem row_eq (h : Reached spec earlier group st) : st.row = (earlier ++ group).length := by
  cases h with
  | start => rfl
  | inside _ _ hrow => exact hrow

theorem laid (h : Reached spec earlier group st) : Laid spec st := by
  cases h with
  | start => exact nofun
  | inside hopened => exact hopened.laid

theorem take_comesBack {layout : Layout} (h : Reached spec earlier group st) (st' : State)
    (hcurrent : st'.current? = st.current?) (hclosed : st'.closed = st.closed)
    (hback : ComesBack spec (earlier ++ group) r) (hreads : Reads spec r layout) (n : Nat) :
    (st'.take layout n r.values).1 = some (.error (.rowOrder (entityKey spec r).display n)) ∧
      (st'.take layout n r.values).2.done = true := by
  obtain ⟨hmem, hlast⟩ := hback
  cases h with
  | start => cases hmem
  | @inside _ _ e _ hopened hdone hrow hkeys hfresh =>
    have hother : e.key ≠ entityKey spec r := by
      intro heq
      apply hlast
      rw [hopened.getLast?_key, heq]
    have hmem' : entityKey spec r ∈ st'.closed := by
      rw [hclosed, hkeys]
      rw [List.map_append, List.mem_append, hopened.mem_keys_iff] at hmem
      exact hmem.resolve_right (Ne.symm hother)
    simp [State.take, hcurrent, hopened.current, hreads.key_eq, hother, hmem', State.fail]

theorem feed_fault (h : Reached spec earlier group st)
    (hfault : fault? spec (earlier ++ group) item = some e) :
    (st.feed spec item).1 = some (.error e) ∧ (st.feed spec item).2.done = true := by
  cases item with
  | error e' =>
    cases hfault
    exact ⟨rfl, rfl⟩
  | ok r =>
    rw [fault?] at hfault
    split at hfault
    · rename_i hwidth
      cases hfault
      simp only [State.feed, hwidth, h.row_eq, ne_eq, not_false_eq_true, if_true]
      exact ⟨rfl, rfl⟩
    · rename_i hwidth
      rw [not_not] at hwidth
      cases hlayout : Layout.build r.columns spec with
      | error e' =>
        rw [hlayout] at hfault
        cases hfault
        have hfor : State.layoutFor { st with row := st.row + 1 } spec r.columns = .error e :=
          (h.laid.layoutFor r.columns).trans hlayout
        simp only [State.feed, hwidth, hfor, ne_eq, not_true_eq_false, if_false]
        exact ⟨rfl, rfl⟩
      | ok layout =>
        rw [hlayout] at hfault
        have hreads := reads_of_build hwidth hlayout
        dsimp only at hfault
        split at hfault
        · rename_i hback
          cases hfault
          rw [h.laid.feed hwidth hlayout, ← h.row_eq]
          exact h.take_comesBack { st with row := st.row + 1, layout? := some layout } rfl rfl hback
            hreads st.row
        · cases hfault

theorem oneKey (h : Reached spec earlier group st) : OneKey spec group := by
  cases h with
  | start => exact nofun
  | inside hopened =>
    intro x hx y hy
    rw [hopened.key x hx, hopened.key y hy]

theorem feed_joining {layout : Layout} (h : Reached spec earlier group st)
    (hwidth : r.values.length = r.columns.length)
    (hlayout : Layout.build r.columns spec = .ok layout)
    (hkey : ∀ x ∈ group, entityKey spec x = entityKey spec r) :
    ∃ st', st.feed spec (.ok r) = (none, st') ∧ Reached spec earlier (group ++ [r]) st' := by
  cases h with
  | start =>
    obtain ⟨e, st', hfeed, hclosed, hopened⟩ := feed_first hwidth hlayout
    obtain ⟨hrow, hdone⟩ := Merge.feed_row {} r (by rw [hfeed]; exact nofun)
    rw [hfeed] at hrow hdone
    refine ⟨st', hfeed, .inside hopened hdone hrow ?_ ?_⟩
    · simp [hclosed]
    · simp [hclosed]
  | @inside _ _ e _ hopened hdone hrow hclosed hfresh =>
    have hlast := List.getLast_mem hopened.nonempty
    have he : e.key = entityKey spec r := (hopened.key _ hlast).symm.trans (hkey _ hlast)
    obtain ⟨e', st', hfeed, hsame, hopened'⟩ := hopened.feed_same hwidth hlayout he
    obtain ⟨hrow', hdone'⟩ := Merge.feed_row st r (by rw [hfeed]; simp)
    rw [hfeed] at hrow' hdone'
    have he' : e'.key = e.key :=
      (hopened'.key r (List.mem_append_right _ (List.mem_singleton_self r))).symm.trans he.symm
    refine ⟨st', hfeed, .inside hopened' (hdone'.trans hdone) ?_ ?_ ?_⟩
    · rw [hrow', hrow, ← List.append_assoc]
      simp only [List.length_append, List.length_singleton]
    · rwa [hsame]
    · rwa [hsame, he']

theorem feed_closing {layout : Layout} (h : Reached spec earlier group st) (hne : group ≠ [])
    (hwidth : r.values.length = r.columns.length)
    (hlayout : Layout.build r.columns spec = .ok layout)
    (hback : ¬ ComesBack spec (earlier ++ group) r)
    (hkey : ∀ x ∈ group, entityKey spec x ≠ entityKey spec r) :
    ∃ st', st.feed spec (.ok r) = (some (.ok (groupEntity spec group)), st') ∧
      Reached spec (earlier ++ group) [r] st' := by
  cases h with
  | start => exact absurd rfl hne
  | @inside _ _ e _ hopened hdone hrow hclosed hfresh =>
    have hlast := List.getLast_mem hopened.nonempty
    have he : e.key ≠ entityKey spec r := hopened.key _ hlast ▸ hkey _ hlast
    have hnew : entityKey spec r ∉ st.closed := by
      rw [hclosed]
      intro hmem
      refine hback ⟨?_, ?_⟩
      · rw [List.map_append]
        exact List.mem_append_left _ hmem
      · rw [hopened.getLast?_key]
        exact fun heq ↦ he (Option.some.inj heq)
    obtain ⟨e', st', hfeed, hadded, hopened'⟩ := hopened.feed_other hwidth hlayout he hnew
    obtain ⟨hrow', hdone'⟩ := Merge.feed_row st r (by rw [hfeed]; simp)
    rw [hfeed] at hrow' hdone'
    have he' : e'.key = entityKey spec r := (hopened'.key r (List.mem_singleton_self r)).symm
    refine ⟨st', hfeed, .inside hopened' (hdone'.trans hdone) ?_ ?_ ?_⟩
    · rw [hrow', hrow]
      simp only [List.length_append, List.length_singleton]
    · intro k
      rw [hadded, List.mem_cons, hclosed, List.map_append, List.mem_append,
        hopened.mem_keys_iff, or_comm]
    · rw [hadded, he', List.mem_cons, not_or]
      exact ⟨Ne.symm he, hnew⟩

theorem feed_row (h : Reached spec earlier group st)
    (hr : fault? spec (earlier ++ group) (.ok r) = none) :
    (∃ st', st.feed spec (.ok r) = (none, st') ∧ Reached spec earlier (group ++ [r]) st') ∨
    (group ≠ [] ∧ (∀ x ∈ group, entityKey spec x ≠ entityKey spec r) ∧
      ∃ st', st.feed spec (.ok r) = (some (.ok (groupEntity spec group)), st') ∧
        Reached spec (earlier ++ group) [r] st') := by
  obtain ⟨hwidth, ⟨layout, hlayout⟩, hback⟩ := fault?_ok_eq_none_iff.mp hr
  by_cases hkey : ∀ x ∈ group, entityKey spec x = entityKey spec r
  · exact Or.inl (h.feed_joining hwidth hlayout hkey)
  · push Not at hkey
    obtain ⟨y, hy, hother⟩ := hkey
    have hne : group ≠ [] := List.ne_nil_of_mem hy
    have hothers : ∀ x ∈ group, entityKey spec x ≠ entityKey spec r := by
      intro x hx
      rwa [h.oneKey x hx y hy]
    exact Or.inr ⟨hne, hothers, h.feed_closing hne hwidth hlayout hback hothers⟩

end Reached

section Groups

theorem groups_nil : groups spec [] = [] := List.splitBy_nil _

theorem flatten_groups (spec : Spec) (rows : List Row) : (groups spec rows).flatten = rows :=
  List.flatten_splitBy ..

theorem infix_of_mem_groups (h : group ∈ groups spec rows) : group <:+: rows := by
  rw [← flatten_groups spec rows]
  exact List.infix_of_mem_flatten h

theorem groups_of_oneKey (hne : group ≠ []) (h : OneKey spec group) :
    groups spec group = [group] := by
  apply List.splitBy_of_isChain hne
  apply List.Pairwise.isChain
  apply List.pairwise_of_forall_mem_list
  intro x hx y hy
  exact beq_iff_eq.mpr (h x hx y hy)

theorem oneKey_of_mem_groups (h : group ∈ groups spec rows) : OneKey spec group := by
  have hchain : List.IsChain Eq (group.map (entityKey spec)) := by
    rw [List.isChain_map]
    exact (List.isChain_of_mem_splitBy h).imp fun _ _ ↦ beq_iff_eq.mp
  intro x hx y hy
  exact hchain.pairwise.forall_of_forall (fun _ _ ↦ rfl) (List.mem_map_of_mem hx)
    (List.mem_map_of_mem hy)

theorem groups_append_cons (hne : group ≠ []) (h : OneKey spec group)
    (hr : ∀ x ∈ group, entityKey spec x ≠ entityKey spec r) (tail : List Row) :
    groups spec (group ++ r :: tail) = group :: groups spec (r :: tail) := by
  have hsplit :
      groups spec (group ++ r :: tail) = groups spec group ++ groups spec (r :: tail) := by
    apply List.splitBy_append_cons
    intro x hx
    exact beq_eq_false_iff_ne.mpr (hr x (List.mem_of_getLast? hx))
  rw [hsplit, groups_of_oneKey hne h]
  rfl

theorem served_append (gs gs' : List (List Row)) (taken : Nat) :
    served spec items taken (gs ++ gs') =
      served spec items taken gs ++ served spec items (taken + gs.flatten.length) gs' := by
  induction gs generalizing taken with
  | nil => rfl
  | cons g gs ih =>
    rw [List.cons_append, served, served, ih, List.flatten_cons, List.length_append,
      ← Nat.add_assoc taken, List.cons_append]

theorem length_served (gs : List (List Row)) (taken : Nat) :
    (served spec items taken gs).length = gs.length := by
  induction gs generalizing taken with
  | nil => rfl
  | cons g gs ih => rw [served, List.length_cons, List.length_cons, ih]

theorem yields_of_mem_served {gs : List (List Row)} {taken : Nat} {a : Answer}
    (h : a ∈ served spec items taken gs) :
    ∃ group ∈ gs, a.yields = some (.ok (groupEntity spec group)) := by
  induction gs generalizing taken with
  | nil => cases h
  | cons g gs ih =>
    rcases List.mem_cons.mp h with rfl | h
    · exact ⟨g, List.mem_cons_self .., rfl⟩
    · obtain ⟨group, hgroup, hyields⟩ := ih h
      exact ⟨group, List.mem_cons_of_mem g hgroup, hyields⟩

end Groups

section Calls

theorem take_calls {n m : Nat} (h : n ≤ m) (s : Stream) :
    (Stream.calls m s).take n = Stream.calls n s := by
  induction n generalizing m s with
  | zero => rfl
  | succ n ih =>
    obtain ⟨m, rfl⟩ := Nat.exists_eq_succ_of_ne_zero (Nat.ne_zero_of_lt h)
    rw [Stream.calls, Stream.calls, List.take_succ_cons, ih (Nat.le_of_succ_le_succ h)]

theorem calls_over {s : Stream} (h : s.state.done = true) (n : Nat) :
    Stream.calls n s = List.replicate n (.nothing s.rows) := by
  have hnext : s.next = (none, s) := if_pos h
  induction n with
  | zero => rfl
  | succ n ih =>
    rw [Stream.calls, hnext, ih, h, List.replicate_succ]
    rfl

theorem next_feed_none (hdone : st.done = false) (hfeed : st.feed spec item = (none, st'))
    (hdone' : st'.done = false) :
    Stream.next ⟨spec, st, item :: items⟩ = Stream.next ⟨spec, st', items⟩ := by
  simp only [Stream.next, hdone, hdone', Stream.pull, hfeed, Bool.false_eq_true, if_false]

theorem calls_feed_none (hdone : st.done = false) (hfeed : st.feed spec item = (none, st'))
    (hdone' : st'.done = false) (n : Nat) :
    Stream.calls n ⟨spec, st, item :: items⟩ = Stream.calls n ⟨spec, st', items⟩ := by
  cases n with
  | zero => rfl
  | succ n => rw [Stream.calls, Stream.calls, next_feed_none hdone hfeed hdone']

theorem calls_feed_some {out : Result Value} (hdone : st.done = false)
    (hfeed : st.feed spec item = (some out, st')) (n : Nat) :
    Stream.calls (n + 1) ⟨spec, st, item :: items⟩ =
      ⟨some out, items, st'.done⟩ :: Stream.calls n ⟨spec, st', items⟩ := by
  have hnext : Stream.next ⟨spec, st, item :: items⟩ = (some out, ⟨spec, st', items⟩) := by
    simp only [Stream.next, hdone, Stream.pull, hfeed]
    rfl
  rw [Stream.calls, hnext]

end Calls

namespace Reached

theorem earlier_eq_nil (h : Reached spec earlier group st) (hnil : group = []) : earlier = [] := by
  cases h with
  | start => rfl
  | inside hopened => exact absurd hnil hopened.nonempty

theorem groups_eq (h : Reached spec earlier group st) :
    groups spec group = if group = [] then [] else [group] := by
  split
  · rename_i hnil
    rw [hnil, groups_nil]
  · rename_i hne
    exact groups_of_oneKey hne h.oneKey

/-- The groups that rows without fault close come out one by one, each with the row behind it. -/
theorem walk (ending : List (Result Row)) {tail : List Row} (h : Reached spec earlier group st)
    (hgood : Faultless spec (earlier ++ group ++ tail))
    (hitems : items = (earlier ++ group ++ tail).map .ok ++ ending) :
    ∃ gs group' st', Reached spec (earlier ++ gs.flatten) group' st' ∧
      groups spec (group ++ tail) = gs ++ groups spec group' ∧
      ∀ n, Stream.calls (gs.length + n) ⟨spec, st, tail.map .ok ++ ending⟩ =
        served spec items earlier.length gs ++ Stream.calls n ⟨spec, st', ending⟩ := by
  induction tail generalizing earlier group st with
  | nil =>
    refine ⟨[], group, st, ?_, ?_, ?_⟩
    · rwa [List.flatten_nil, List.append_nil]
    · rw [List.append_nil]
      rfl
    · intro n
      rw [List.length_nil, Nat.zero_add]
      rfl
  | cons r tail ih =>
    have hr : fault? spec (earlier ++ group) (.ok r) = none := by
      apply hgood
      rw [List.append_cons _ r tail]
      exact List.prefix_append ..
    rcases h.feed_row hr with ⟨st', hfeed, hreached⟩ | ⟨hne, hother, st', hfeed, hreached⟩
    · have hassoc : earlier ++ (group ++ [r]) ++ tail = earlier ++ group ++ r :: tail := by
        simp only [List.append_assoc, List.singleton_append]
      obtain ⟨gs, group', st'', hreached', hgroups, hcalls⟩ :=
        ih hreached (hassoc ▸ hgood) (hassoc ▸ hitems)
      refine ⟨gs, group', st'', hreached', ?_, ?_⟩
      · rw [← hgroups, ← List.append_cons]
      · intro n
        rw [List.map_cons, List.cons_append,
          calls_feed_none h.done_eq hfeed hreached.done_eq, hcalls]
    · have hassoc : earlier ++ group ++ [r] ++ tail = earlier ++ group ++ r :: tail :=
        (List.append_cons ..).symm
      obtain ⟨gs, group', st'', hreached', hgroups, hcalls⟩ :=
        ih hreached (hassoc ▸ hgood) (hassoc ▸ hitems)
      have hleft : items.drop (earlier.length + group.length + 1) = tail.map .ok ++ ending := by
        rw [hitems, ← hassoc, List.map_append, List.append_assoc]
        apply List.drop_left'
        simp only [List.length_map, List.length_append, List.length_singleton]
      have hmore : ¬ items.length ≤ earlier.length + group.length := by
        rw [hitems]
        simp only [List.length_map, List.length_append, List.length_cons]
        omega
      refine ⟨group :: gs, group', st'', ?_, ?_, ?_⟩
      · rwa [List.flatten_cons, ← List.append_assoc]
      · rw [groups_append_cons hne h.oneKey hother, List.cons_append, ← hgroups,
          List.singleton_append]
      · intro n
        rw [List.length_cons, Nat.add_right_comm, List.map_cons, List.cons_append,
          calls_feed_some h.done_eq hfeed, hcalls, served, hleft, decide_eq_false hmore,
          hreached.done_eq, List.length_append]
        rfl

theorem calls_end (h : Reached spec earlier group st)
    (hlength : items.length = (earlier ++ group).length) (n : Nat) :
    Stream.calls n ⟨spec, st, []⟩ = (served spec items earlier.length (groups spec group) ++
      List.replicate n (Answer.nothing [])).take n := by
  cases n with
  | zero => rw [List.take_zero, Stream.calls]
  | succ n =>
    have hnext : Stream.next ⟨spec, st, []⟩ = (st.finish.1, ⟨spec, st.finish.2, []⟩) := by
      simp only [Stream.next, h.done_eq, Stream.pull]
      rfl
    have hcalls : Stream.calls (n + 1) ⟨spec, st, []⟩ =
        ⟨st.finish.1, [], true⟩ :: List.replicate n (.nothing []) := by
      rw [Stream.calls, hnext, calls_over (s := ⟨spec, st.finish.2, []⟩) rfl]
      rfl
    rw [hcalls, h.groups_eq]
    cases h with
    | start =>
      rw [if_pos rfl, served, List.nil_append, List.take_replicate, Nat.min_self,
        List.replicate_succ]
      rfl
    | inside hopened =>
      have hover : items.length ≤ earlier.length + group.length := by
        rw [hlength, List.length_append]
      rw [if_neg hopened.nonempty, served, served, List.cons_append, List.nil_append,
        List.take_succ_cons, List.take_replicate, Nat.min_eq_left (Nat.le_succ n),
        List.drop_eq_nil_of_le (Nat.le_succ_of_le hover), decide_eq_true hover, ← hopened.value_eq]
      simp only [State.finish, hopened.current, Option.map_some]

theorem calls_fault (h : Reached spec earlier group st)
    (hfault : fault? spec (earlier ++ group) item = some e) (n : Nat) :
    Stream.calls n ⟨spec, st, item :: items⟩ =
      (Answer.refused e items :: List.replicate n (.nothing items)).take n := by
  obtain ⟨hyields, hdone⟩ := h.feed_fault hfault
  cases n with
  | zero => rw [List.take_zero, Stream.calls]
  | succ n =>
    rw [calls_feed_some h.done_eq (Prod.ext hyields rfl), hdone, calls_over hdone,
      List.take_succ_cons, List.take_replicate, Nat.min_eq_left (Nat.le_succ n)]
    rfl

end Reached

section Interruption

def Fits (spec : Spec) (r : Row) : Prop :=
  r.values.length = r.columns.length ∧ ∃ layout, Layout.build r.columns spec = .ok layout

/-- Some key occurs, then another one, then the first again. -/
def Interrupted (keys : List Key) : Prop := ∃ x y, x ≠ y ∧ [x, y, x].Sublist keys

theorem interrupted_of_comesBack (h : ComesBack spec rows r) :
    Interrupted (rows.map (entityKey spec) ++ [entityKey spec r]) := by
  obtain ⟨hmem, hlast⟩ := h
  rcases List.eq_nil_or_concat rows with rfl | ⟨before, last, rfl⟩
  · cases hmem
  rw [List.concat_eq_append] at hmem hlast ⊢
  rw [List.getLast?_append_cons, List.getLast?_singleton, Option.map_some] at hlast
  have hne : entityKey spec r ≠ entityKey spec last := fun heq ↦ hlast (congrArg some heq.symm)
  rw [List.map_append, List.mem_append] at hmem
  have hbefore : entityKey spec r ∈ before.map (entityKey spec) := by
    refine hmem.resolve_right fun h ↦ hne ?_
    rwa [List.map_singleton, List.mem_singleton] at h
  refine ⟨_, _, hne, ?_⟩
  rw [List.map_append, List.map_singleton]
  have hpair : [entityKey spec r, entityKey spec last].Sublist
      (before.map (entityKey spec) ++ [entityKey spec last]) :=
    (List.singleton_sublist.mpr hbefore).append_right _
  exact hpair.append_right _

theorem sublist_concat_cases {α : Type*} {l l' : List α} {a b : α}
    (h : (l ++ [a]).Sublist (l' ++ [b])) : (l ++ [a]).Sublist l' ∨ l.Sublist l' ∧ a = b := by
  obtain ⟨front, back, heq, hfront, hback⟩ := List.sublist_append_iff.mp h
  rcases List.sublist_singleton.mp hback with rfl | rfl
  · rw [List.append_nil] at heq
    exact Or.inl (heq ▸ hfront)
  · obtain ⟨rfl, hab⟩ := List.append_inj' heq rfl
    exact Or.inr ⟨hfront, List.singleton_inj.mp hab⟩

/-- If a key closes an interruption then it comes back, unless there was an interruption before. -/
theorem comesBack_of_interrupted
    (h : Interrupted (rows.map (entityKey spec) ++ [entityKey spec r]))
    (hrows : ¬ Interrupted (rows.map (entityKey spec))) : ComesBack spec rows r := by
  obtain ⟨x, y, hne, hsub⟩ := h
  have hlonger : ¬ ([x, y] ++ [x]).Sublist (rows.map (entityKey spec)) :=
    fun h ↦ hrows ⟨x, y, hne, h⟩
  obtain ⟨hpair, rfl⟩ := (sublist_concat_cases hsub).resolve_left hlonger
  refine ⟨hpair.subset (List.mem_cons_self ..), fun hlast ↦ hlonger ?_⟩
  -- The row before has the key too, so it closed the interruption already.
  obtain ⟨last, hlast, hkey⟩ := Option.map_eq_some_iff.mp hlast
  obtain ⟨before, rfl⟩ := List.getLast?_eq_some_iff.mp hlast
  rw [List.map_append, List.map_singleton, hkey] at hpair ⊢
  apply List.Sublist.append_right
  rcases sublist_concat_cases (show ([_] ++ [y]).Sublist _ from hpair) with hbefore | ⟨-, hy⟩
  · exact hbefore
  · exact absurd hy.symm hne

theorem faultless_iff_not_interrupted (h : ∀ r ∈ rows, Fits spec r) :
    Faultless spec rows ↔ ¬ Interrupted (rows.map (entityKey spec)) := by
  induction rows using List.reverseRecOn with
  | nil =>
    refine iff_of_true (faultless_nil spec) ?_
    rintro ⟨x, y, -, hsub⟩
    cases hsub
  | append_singleton rows r ih =>
    obtain ⟨hwidth, hlayout⟩ := h r (List.mem_append_right _ (List.mem_singleton_self r))
    rw [faultless_concat_iff, ih fun r' hr' ↦ h r' (List.mem_append_left _ hr'), List.map_append,
      List.map_singleton]
    constructor
    · rintro ⟨hrows, hr⟩ hinterrupted
      exact (fault?_ok_eq_none_iff.mp hr).2.2 (comesBack_of_interrupted hinterrupted hrows)
    · intro hnot
      refine ⟨fun ⟨x, y, hne, hsub⟩ ↦ ?_, ?_⟩
      · exact hnot ⟨x, y, hne, hsub.trans (List.sublist_append_left ..)⟩
      · rw [fault?_ok_eq_none_iff]
        exact ⟨hwidth, hlayout, fun hback ↦ hnot (interrupted_of_comesBack hback)⟩

end Interruption

section Answers

variable {good : List Row}

theorem take_append_take {α : Type*} (l l' : List α) (n : Nat) :
    (l ++ l'.take n).take n = (l ++ l').take n := by
  rw [List.take_append, List.take_append, List.take_take, Nat.min_eq_left (Nat.sub_le ..)]

/-- The calls before the last stretch are those of `walk`, and they are cut after `n`. -/
theorem calls_of_walk {gs : List (List Row)} {s s' : Stream} {answers : List Answer} {n : Nat}
    (h : Stream.calls (gs.length + n) s = served spec items 0 gs ++ Stream.calls n s')
    (h' : Stream.calls n s' = answers.take n) :
    Stream.calls n s = (served spec items 0 gs ++ answers).take n := by
  rw [← take_calls (Nat.le_add_left n gs.length), h, h', take_append_take]

theorem calls_of_faultless (h : Faultless spec good) (n : Nat) :
    Stream.calls n ⟨spec, {}, good.map .ok⟩ =
      (served spec (good.map .ok) 0 (groups spec good) ++
        List.replicate n (Answer.nothing [])).take n := by
  obtain ⟨gs, group', st', hreached, hgroups, hcalls⟩ :=
    Reached.start.walk [] h (List.append_nil (good.map Except.ok)).symm
  rw [List.nil_append] at hreached hgroups
  have hgood : gs.flatten ++ group' = good := by
    rw [← flatten_groups spec good, hgroups, List.flatten_append, flatten_groups]
  have hlength :
      (good.map Except.ok : List (Result Row)).length = (gs.flatten ++ group').length := by
    rw [hgood, List.length_map]
  rw [List.append_nil] at hcalls
  rw [calls_of_walk (hcalls n) (hreached.calls_end hlength n), ← List.append_assoc, hgroups,
    served_append, Nat.zero_add]

theorem calls_of_fault {rest : List (Result Row)} (h : Faultless spec good)
    (hfault : fault? spec good item = some e) (n : Nat) :
    Stream.calls n ⟨spec, {}, good.map .ok ++ item :: rest⟩ =
      (served spec (good.map Except.ok ++ item :: rest) 0 (groups spec good).dropLast ++
        Answer.refused e rest :: List.replicate n (.nothing rest)).take n := by
  obtain ⟨gs, group', st', hreached, hgroups, hcalls⟩ :=
    Reached.start.walk (item :: rest) h (Eq.refl (good.map Except.ok ++ item :: rest))
  rw [List.nil_append] at hreached hgroups
  have hgood : gs.flatten ++ group' = good := by
    rw [← flatten_groups spec good, hgroups, List.flatten_append, flatten_groups]
  rw [← hgood] at hfault
  have hlast : (groups spec good).dropLast = gs := by
    rw [hgroups]
    by_cases hne : group' = []
    · have hnil : gs.flatten = [] := hreached.earlier_eq_nil hne
      rw [hnil, hne, List.append_nil] at hgood
      rw [← hgood, groups_nil] at hgroups
      rw [(List.append_eq_nil_iff.mp hgroups.symm).1, hne, groups_nil]
      rfl
    · rw [groups_of_oneKey hne hreached.oneKey, List.dropLast_concat]
  rw [calls_of_walk (hcalls n) (hreached.calls_fault hfault n), hlast]

theorem exists_group_of_yields {n : Nat} {a : Answer} {v : Value}
    (ha : a ∈ Stream.calls n ⟨spec, {}, items⟩) (hyields : a.yields = some (.ok v)) :
    ∃ good, good.map .ok <+: items ∧ ∃ group ∈ groups spec good, v = groupEntity spec group := by
  have hserved {gs : List (List Row)} (h : a ∈ served spec items 0 gs) :
      ∃ group ∈ gs, v = groupEntity spec group := by
    obtain ⟨group, hgroup, hgroups⟩ := yields_of_mem_served h
    rw [hyields] at hgroups
    cases hgroups
    exact ⟨group, hgroup, rfl⟩
  have hover {m : Nat} {left : List (Result Row)} : a ∉ List.replicate m (Answer.nothing left) := by
    intro h
    rw [List.eq_of_mem_replicate h] at hyields
    cases hyields
  rcases faultless_or_fault (faultless_nil spec) items with
    ⟨good, rfl, hgood⟩ | ⟨good, item, rest, e, rfl, hgood, hfault⟩
  · rw [List.nil_append] at hgood
    rw [calls_of_faultless hgood] at ha
    rcases List.mem_append.mp (List.mem_of_mem_take ha) with ha | ha
    · exact ⟨good, List.prefix_rfl, hserved ha⟩
    · exact absurd ha hover
  · rw [List.nil_append] at hgood hfault
    rw [calls_of_fault hgood hfault] at ha
    rcases List.mem_append.mp (List.mem_of_mem_take ha) with ha | ha
    · obtain ⟨group, hgroup, hv⟩ := hserved ha
      exact ⟨good, List.prefix_append .., group, List.dropLast_subset _ hgroup, hv⟩
    · rcases List.mem_cons.mp ha with rfl | ha
      · cases hyields
      · exact absurd ha hover

theorem not_refused_of_faultless {a : Answer} {n : Nat} (h : Faultless spec rows)
    (ha : a ∈ Stream.calls n ⟨spec, {}, rows.map .ok⟩) (e : Error) :
    a.yields ≠ some (.error e) := by
  rw [calls_of_faultless h] at ha
  rcases List.mem_append.mp (List.mem_of_mem_take ha) with ha | ha
  · obtain ⟨group, -, hyields⟩ := yields_of_mem_served ha
    rw [hyields]
    exact nofun
  · rw [List.eq_of_mem_replicate ha]
    exact nofun

theorem exists_refused_of_fault {rest : List (Result Row)} (h : Faultless spec good)
    (hfault : fault? spec good item = some e) :
    ∃ n, Answer.refused e rest ∈ Stream.calls n ⟨spec, {}, good.map .ok ++ item :: rest⟩ := by
  refine ⟨(groups spec good).dropLast.length + 1, ?_⟩
  rw [calls_of_fault h hfault, List.take_append, length_served, Nat.add_sub_cancel_left,
    List.take_succ_cons]
  exact List.mem_append_right _ (List.mem_cons_self ..)

theorem refused_iff (rows : List Row) :
    (∃ n, ∃ a ∈ Stream.calls n ⟨spec, {}, rows.map .ok⟩, ∃ e, a.yields = some (.error e)) ↔
      ¬ Faultless spec rows := by
  constructor
  · rintro ⟨n, a, ha, e, hyields⟩ h
    exact not_refused_of_faultless h ha e hyields
  · intro h
    rcases faultless_or_fault (faultless_nil spec) (rows.map .ok) with
      ⟨good, heq, hgood⟩ | ⟨good, item, rest, e, heq, hgood, hfault⟩
    · obtain rfl := List.map_injective_iff.mpr (fun _ _ ↦ Except.ok.inj) heq
      exact absurd hgood h
    · rw [heq]
      obtain ⟨n, hn⟩ := exists_refused_of_fault hgood hfault
      exact ⟨n, _, hn, e, rfl⟩

/-- A source without fault gives every group. Otherwise the first item at fault is the last that is
taken, and the group before it does not come out. If every row fits, the fault is that a key was
interrupted. -/
theorem merge_answers (spec : Spec) (items : List (Result Row)) :
    ((∃ good : List Row, items = good.map .ok ∧ Faultless spec good ∧
        ∀ n, Stream.calls n ⟨spec, {}, items⟩ =
          (served spec items 0 (groups spec good) ++ List.replicate n (Answer.nothing [])).take n) ∨
      ∃ (good : List Row) (item : Result Row) (rest : List (Result Row)) (e : Error),
        items = good.map .ok ++ item :: rest ∧ Faultless spec good ∧
        fault? spec good item = some e ∧
        ∀ n, Stream.calls n ⟨spec, {}, items⟩ =
          (served spec items 0 (groups spec good).dropLast ++
            Answer.refused e rest :: List.replicate n (.nothing rest)).take n) ∧
    ∀ rows : List Row, items = rows.map .ok → (∀ r ∈ rows, Fits spec r) →
      ((∃ n, ∃ a ∈ Stream.calls n ⟨spec, {}, items⟩, ∃ e, a.yields = some (.error e)) ↔
        Interrupted (rows.map (entityKey spec))) := by
  refine ⟨?_, ?_⟩
  · rcases faultless_or_fault (faultless_nil spec) items with
      ⟨good, rfl, hgood⟩ | ⟨good, item, rest, e, rfl, hgood, hfault⟩
    · exact Or.inl ⟨good, rfl, hgood, calls_of_faultless hgood⟩
    · exact Or.inr ⟨good, item, rest, e, rfl, hgood, hfault, calls_of_fault hgood hfault⟩
  · rintro rows rfl hfits
    rw [refused_iff, faultless_iff_not_interrupted hfits, not_not]

/-- A row of the first order that comes after the second order. -/
theorem merge_refuses_interrupted_order :
    ∃ n, ∃ a ∈ Stream.calls n ⟨orderSpec, {}, (orderRows ++ orderRows.take 1).map .ok⟩,
      ∃ e, a.yields = some (.error e) := by
  have hfits : ∀ r ∈ orderRows ++ orderRows.take 1, Fits orderSpec r := by
    simp only [orderRows, List.take_succ_cons, List.take_zero, List.cons_append, List.nil_append,
      List.forall_mem_cons]
    exact ⟨⟨rfl, _, rfl⟩, ⟨rfl, _, rfl⟩, ⟨rfl, _, rfl⟩, ⟨rfl, _, rfl⟩, ⟨rfl, _, rfl⟩,
      List.forall_mem_nil _⟩
  apply ((merge_answers orderSpec _).2 _ rfl hfits).mpr
  refine ⟨[.int 1], [.int 2], by decide, ?_⟩
  decide +kernel

end Answers

end QueryCatalog.Merge
