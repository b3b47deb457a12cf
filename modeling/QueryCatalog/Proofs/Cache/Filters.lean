import QueryCatalog.Proofs.Cache.Conservation
import QueryCatalog.Proofs.Outcome
import QueryCatalog.Proofs.Text.Lowering

namespace QueryCatalog

namespace RefreshFilter

open Text

def Occurs (text name : String) : Prop :=
  ∃ before part after, name = before ++ part ++ after ∧
    part.toList.map Char.toLower = text.toList.map Char.toLower

/-- All that a filter with this text promises about a name. -/
structure Finds (text name : String) : Prop where
  alone : ∃ f, parse text = .ok f ∧ f.matchesName name = true
  among : ∀ (raw : List String) (filters : List RefreshFilter), text ∈ raw →
    parseAll raw = .ok filters → anyMatches filters name = true
  /-- A write of this name leaves nothing in a cache that has the filter. -/
  clears : ∀ {α β σ : Type} (work : Action (Cached α σ) β) (w : Cached α σ) (raw : List String),
    text ∈ raw → parseAll raw = .ok (work w).2.cache.filters →
      (Cached.write name work w).2.cache.store.size = 0

section Matching

variable {text name : String}

theorem occurs_iff_isInfix {needle l : List Char} : occurs needle l = true ↔ needle <:+: l := by
  induction l with
  | nil => rw [occurs, List.isEmpty_iff, List.infix_nil]
  | cons c l ih =>
    rw [occurs, Bool.or_eq_true, List.isPrefixOf_iff_prefix, ih, List.infix_cons_iff]

theorem parse_plain (hne : text ≠ "") (hplain : ¬ "re:".toList <+: text.toList) :
    parse text = .ok (.substring (lower text).toList) := by
  unfold parse
  split
  · rename_i rest h
    exact absurd ⟨rest, h.symm⟩ hplain
  · rename_i h
    exact absurd (String.toList_eq_nil_iff.mp h) hne
  · rfl

theorem matchesName_substring (text name : String) :
    matchesName (.substring (lower text).toList) name = true ↔
      lowerFrom [] text.toList <:+: lowerFrom [] name.toList := by
  rw [matchesName, occurs_iff_isInfix, lower, lower, String.toList_ofList,
    String.toList_ofList]

theorem anyMatches_of_mem {raw : List String} {filters : List RefreshFilter} {f : RefreshFilter}
    (hf : parse text = .ok f) (hmatches : f.matchesName name = true) (hmem : text ∈ raw)
    (hraw : parseAll raw = .ok filters) : anyMatches filters name = true := by
  obtain ⟨f', hf', hparse⟩ :=
    Outcome.exists_of_forall₂ (Outcome.forall₂_of_mapM hraw).flip hmem
  cases hf.symm.trans hparse
  exact List.any_eq_true.mpr ⟨f, hf', hmatches⟩

theorem size_of_write {α β σ : Type} {work : Action (Cached α σ) β} {w : Cached α σ}
    (h : anyMatches (work w).2.cache.filters name = true) :
    (Cached.write name work w).2.cache.store.size = 0 := by
  have hcache : (Cached.write name work w).2.cache = (work w).2.cache.invalidate := if_pos h
  rw [hcache]
  exact Store.size_of_empty fun _ ↦ Store.eq_empty_of_mem_clear

theorem finds_iff_matches :
    Finds text name ↔ ∃ f, parse text = .ok f ∧ f.matchesName name = true := by
  constructor
  · exact Finds.alone
  · rintro ⟨f, hparse, hmatches⟩
    have hamong {raw filters} (hmem : text ∈ raw) (hraw : parseAll raw = .ok filters) :=
      anyMatches_of_mem hparse hmatches hmem hraw
    exact ⟨⟨f, hparse, hmatches⟩, fun _ _ ↦ hamong, fun _ _ _ hmem hraw ↦
      size_of_write (hamong hmem hraw)⟩

theorem finds_iff_isInfix (hne : text ≠ "") (hplain : ¬ "re:".toList <+: text.toList) :
    Finds text name ↔ lowerFrom [] text.toList <:+: lowerFrom [] name.toList := by
  rw [finds_iff_matches, ← matchesName_substring, parse_plain hne hplain]
  simp only [Except.ok.injEq, exists_eq_left']

end Matching

section Forms

/-- What stands next to a capital sigma in a text settles its form wherever the text stands. The
characters before it are held in reverse. -/
def SettledBetween (before after : List Char) : Prop :=
  surrounding? before = some false ∨ surrounding? after = some true ∨
    (surrounding? before = some true ∧ surrounding? after = some false)

instance (before after : List Char) : Decidable (SettledBetween before after) :=
  inferInstanceAs (Decidable (_ ∨ _ ∨ _))

def Settled (text : List Char) : Prop :=
  EachSigma text fun p q ↦ SettledBetween p.reverse q

instance (text : List Char) : Decidable (Settled text) :=
  inferInstanceAs (Decidable (EachSigma text _))

/-- The text stands between others without any of its capital sigmas changing its form. -/
def KeepsForms (before text after : List Char) : Prop :=
  EachSigma text fun p q ↦
    endsWord (p.reverse ++ before.reverse) (q ++ after) = endsWord p.reverse q

instance (before text after : List Char) : Decidable (KeepsForms before text after) :=
  inferInstanceAs (Decidable (EachSigma text _))

variable {text p q : List Char}

theorem SettledBetween.endsWord_append (h : SettledBetween p q) (before after : List Char) :
    endsWord (p ++ before) (q ++ after) = endsWord p q := by
  simp only [endsWord, startsCased_eq, surrounding?_append]
  rcases h with hp | hq | ⟨hp, hq⟩
  · simp [hp]
  · simp [hq]
  · simp [hp, hq]

theorem Settled.keepsForms (h : Settled text) (before after : List Char) :
    KeepsForms before text after :=
  fun p q hsplit ↦ (h p q hsplit).endsWord_append before.reverse after

theorem KeepsForms.isInfix {before after : List Char} (h : KeepsForms before text after) :
    lowerFrom [] text <:+: lowerFrom [] (before ++ text ++ after) := by
  have hsame : lowerWithin before.reverse after text = lowerFrom [] text := by
    rw [lowerFrom_eq]
    apply lowerWithin_congr
    intro p q hsplit
    rw [List.append_nil, List.append_nil]
    exact h p q hsplit
  rw [lowerFrom_between, hsame]
  exact ⟨_, _, rfl⟩

theorem infix_of_occurrence {text before part after : String}
    (hpart : part.toList.map Char.toLower = text.toList.map Char.toLower)
    (hforms : KeepsForms before.toList text.toList after.toList) :
    lowerFrom [] text.toList <:+: lowerFrom [] (before ++ part ++ after).toList := by
  -- The lower case forgets in which case of ASCII the text stands in the name.
  have hname : lowerFrom [] (before ++ part ++ after).toList =
      lowerFrom [] (before.toList ++ text.toList ++ after.toList) := by
    rw [← lowerFrom_map_toLower [] (before ++ part ++ after).toList,
      ← lowerFrom_map_toLower [] (before.toList ++ text.toList ++ after.toList)]
    simp only [String.toList_append, List.map_append, hpart]
  rw [hname]
  exact hforms.isInfix

theorem not_infix_of_form_changed {before after : List Char}
    (hends : endsWord (p.reverse ++ before.reverse) (q ++ after) ≠ endsWord p.reverse q)
    (hp : lowerWithin before.reverse (capitalSigma :: q ++ after) p =
      lowerWithin [] (capitalSigma :: q) p)
    (hq : lowerWithin (capitalSigma :: (p.reverse ++ before.reverse)) after q =
      lowerWithin (capitalSigma :: p.reverse) [] q)
    (hbefore : ∀ rest, ∀ c ∈ lowerWithin [] rest before, c = 'x')
    (hafter : ∀ front, ∀ c ∈ lowerFrom front after, c = 'x') :
    ¬ lowerFrom [] (p ++ capitalSigma :: q) <:+:
      lowerFrom [] (before ++ (p ++ capitalSigma :: q) ++ after) := by
  have hform := sigmaForm_injective.ne hends
  have hletter : ∀ ends, sigmaForm ends ≠ 'x' := by decide
  intro hfound
  have hcount := hfound.sublist.count_le (sigmaForm (endsWord p.reverse q))
  rw [lowerFrom_between, lowerFrom_eq, lowerWithin_sigma, lowerWithin_sigma,
    hp, hq] at hcount
  simp only [List.append_nil, List.count_append, List.count_cons_self,
    List.count_cons_of_ne hform, List.count_eq_zero.mpr fun hmem ↦ hletter _ (hbefore _ _ hmem),
    List.count_eq_zero.mpr fun hmem ↦ hletter _ (hafter _ _ hmem)] at hcount
  omega

/-- A text that does not settle the form of a capital sigma is missed next to a letter: behind the
text if only its end ends a word, and else in front of it. -/
theorem exists_not_isInfix (h : ¬ SettledBetween p.reverse q) :
    ∃ before after : List Char, ¬ lowerFrom [] (p ++ capitalSigma :: q) <:+:
      lowerFrom [] (before ++ (p ++ capitalSigma :: q) ++ after) := by
  have hletter : surrounding? ['x'] = some true := by decide +kernel
  rw [SettledBetween, not_or, not_or, not_and] at h
  obtain ⟨hp, hq, hboth⟩ := h
  cases hcased : surrounding? p.reverse with
  | some cased =>
    obtain rfl : cased = true := by simpa [hcased] using hp
    have hnone : surrounding? q = none :=
      Option.eq_none_iff_forall_ne_some.mpr fun cased' ↦ by
        cases cased' with
        | true => exact hq
        | false => exact hboth hcased
    -- This sigma hides the letter from those before it, and there is none behind it.
    refine ⟨[], ['x'], not_infix_of_form_changed ?_ ?_ ?_ ?_ fun _ _ ↦ List.mem_singleton.mp⟩
    · simp [endsWord, startsCased_eq, surrounding?_append, hcased, hnone, hletter]
    · exact lowerWithin_before_sigma [] p _ _
    · rw [List.reverse_nil, List.append_nil]
      exact lowerWithin_of_sigma_notMem (sigma_notMem_of_surrounding?_eq_none hnone)
    · exact fun _ _ hmem ↦ absurd hmem List.not_mem_nil
  | none =>
    have hfree : capitalSigma ∉ p := fun hmem ↦
      sigma_notMem_of_surrounding?_eq_none hcased (List.mem_reverse.mpr hmem)
    -- Here it hides the letter from those behind it, and there is none before it.
    refine ⟨['x'], [], not_infix_of_form_changed ?_ ?_ ?_ (fun _ _ ↦ List.mem_singleton.mp) ?_⟩
    · simp [endsWord, startsCased_eq, surrounding?_append, hcased, hletter,
        Option.getD_eq_iff, hq]
    · exact lowerWithin_of_sigma_notMem hfree
    · exact lowerWithin_behind_sigma [] q _ _
    · exact fun _ _ hmem ↦ absurd hmem List.not_mem_nil

end Forms

/-- The names in which a text occurs are all found if and only if it settles the forms of its
capital sigmas, as it does when it has none. Whatever the text, it is found wherever it stands
without a change of these forms, and a name that is not found is one that the filter does not
match. -/
theorem finds_occurrences_iff_settled {text : String} (hne : text ≠ "")
    (hplain : ¬ "re:".toList <+: text.toList) :
    ((∀ name, Occurs text name → Finds text name) ↔ Settled text.toList) ∧
      (∀ before part after : String,
        part.toList.map Char.toLower = text.toList.map Char.toLower →
        KeepsForms before.toList text.toList after.toList →
        Finds text (before ++ part ++ after)) ∧
      ∀ name, Finds text name ↔ ∃ f, parse text = .ok f ∧ f.matchesName name = true := by
  have hfinds (before part after : String)
      (hpart : part.toList.map Char.toLower = text.toList.map Char.toLower)
      (hforms : KeepsForms before.toList text.toList after.toList) :
      Finds text (before ++ part ++ after) :=
    (finds_iff_isInfix hne hplain).mpr (infix_of_occurrence hpart hforms)
  refine ⟨⟨fun hall p q hsplit ↦ ?_, fun hsettled ↦ ?_⟩, hfinds, fun _ ↦ finds_iff_matches⟩
  · by_contra hunsettled
    obtain ⟨before, after, hmissed⟩ := exists_not_isInfix hunsettled
    have hoccurs : Occurs text (String.ofList before ++ text ++ String.ofList after) :=
      ⟨_, text, _, rfl, rfl⟩
    have hfound := (finds_iff_isInfix hne hplain).mp (hall _ hoccurs)
    simp only [String.toList_append, String.toList_ofList, hsplit] at hfound
    exact hmissed hfound
  · rintro name ⟨before, part, after, rfl, hpart⟩
    exact hfinds before part after hpart (hsettled.keepsForms before.toList after.toList)

/-- A sigma that an underscore follows ends its word wherever the text stands; one at the end of
the text does so unless a letter follows. -/
theorem settled_sigma_is_found :
    "ΟΡΟΣ_id" ≠ "" ∧ ¬ "re:".toList <+: "ΟΡΟΣ_id".toList ∧ Settled "ΟΡΟΣ_id".toList ∧
      Finds "ΟΡΟΣ_id" ("παλιός" ++ "ΟΡΟΣ_ID" ++ "2") ∧
      KeepsForms "δύο ".toList "ΟΡΟΣ".toList "_a".toList ∧
      Finds "ΟΡΟΣ" ("δύο " ++ "ΟΡΟΣ" ++ "_a") := by
  have hne : "ΟΡΟΣ_id" ≠ "" := by decide +kernel
  have hplain : ¬ "re:".toList <+: "ΟΡΟΣ_id".toList := by decide +kernel
  have hsettled : Settled "ΟΡΟΣ_id".toList := by decide +kernel
  have hforms : KeepsForms "δύο ".toList "ΟΡΟΣ".toList "_a".toList := by decide +kernel
  have hfound := (finds_occurrences_iff_settled hne hplain).1.mpr hsettled
  have hkept : Finds "ΟΡΟΣ" ("δύο " ++ "ΟΡΟΣ" ++ "_a") :=
    (finds_occurrences_iff_settled (by decide +kernel) (by decide +kernel)).2.1 _ _ _ rfl hforms
  exact ⟨hne, hplain, hsettled, hfound _ ⟨_, "ΟΡΟΣ_ID", _, rfl, by decide +kernel⟩, hforms, hkept⟩

/-- The sigma of the filter is made small as the end of a word, and that of the name is not. -/
theorem sigma_at_the_end_is_missed :
    "ΟΡΟΣ" ≠ "" ∧ ¬ "re:".toList <+: "ΟΡΟΣ".toList ∧ Occurs "ΟΡΟΣ" "ΟΡΟΣΗΜΟ" ∧
      parseAll ["ΟΡΟΣ"] = .ok [.substring "ορος".toList] ∧
      anyMatches [.substring "ορος".toList] "ΟΡΟΣΗΜΟ" = false := by
  have hoccurs : Occurs "ΟΡΟΣ" "ΟΡΟΣΗΜΟ" := ⟨"", "ΟΡΟΣ", "ΗΜΟ", by decide +kernel, rfl⟩
  exact ⟨by decide +kernel, by decide +kernel, hoccurs, by decide +kernel, by decide +kernel⟩

end RefreshFilter

end QueryCatalog
