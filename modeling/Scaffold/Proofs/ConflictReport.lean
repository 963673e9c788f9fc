import Scaffold.Proofs.ConflictFilter

/-!
# What the filter reports

The outcome of filtering a list of modules, read as a report: who is kept, who is dropped, and which
pairs are ambiguous. A pair is come upon from both of its modules, and from one of them once for
every repetition in its list, and is reported when it is first come upon. So the module that stands
earlier in the list is named first. What is kept has no conflict left.
-/

namespace Scaffold.Resolution

/-! ### The first of each pair -/

lemma mem_distinctAmbiguities_cons {reported rest : List Ambiguity} {a b : Ambiguity}
    (h : a ∈ distinctAmbiguities reported (b :: rest)) :
    a = b ∨ (a.pair ≠ b.pair ∧ ∃ reported', a ∈ distinctAmbiguities reported' rest) := by
  have hpair : ∀ {as : List Ambiguity}, a ∈ distinctAmbiguities as rest →
      a.pair ∉ as.map Ambiguity.pair := fun hmem =>
    (mem_pairs_distinctAmbiguities.mp (List.mem_map_of_mem hmem)).2
  rw [distinctAmbiguities] at h
  split at h
  · next hreported =>
    obtain ⟨c, hc, hsame⟩ := List.any_eq_true.mp hreported
    refine .inr ⟨fun heq => hpair h ?_, reported, h⟩
    rw [heq, Ambiguity.sameAs_iff.mp hsame]
    exact List.mem_map_of_mem hc
  · rcases List.mem_cons.mp h with rfl | hrest
    · exact .inl rfl
    · refine .inr ⟨fun heq => hpair hrest ?_, b :: reported, hrest⟩
      rw [heq]
      exact List.mem_cons_self

lemma nodup_pairs_distinctAmbiguities (reported as : List Ambiguity) :
    ((distinctAmbiguities reported as).map Ambiguity.pair).Nodup := by
  induction as generalizing reported with
  | nil => exact List.nodup_nil
  | cons a rest ih =>
    rw [distinctAmbiguities]
    split
    · exact ih reported
    · have hnew : a.pair ∉ (distinctAmbiguities (a :: reported) rest).map Ambiguity.pair :=
        fun hmem => (mem_pairs_distinctAmbiguities.mp hmem).2 List.mem_cons_self
      rw [List.map_cons, List.nodup_cons]
      exact ⟨hnew, ih (a :: reported)⟩

lemma mem_of_mem_distinctAmbiguities {reported as : List Ambiguity} {a : Ambiguity}
    (h : a ∈ distinctAmbiguities reported as) : a ∈ as := by
  induction as generalizing reported with
  | nil => exact h
  | cons b rest ih =>
    rcases mem_distinctAmbiguities_cons h with rfl | ⟨-, reported', hrest⟩
    · exact List.mem_cons_self
    · exact List.mem_cons_of_mem b (ih hrest)

/-- An ambiguity that is reported is among the first ones, or none of these is about its pair. -/
lemma mem_or_pair_not_mem {reported as bs : List Ambiguity} {a : Ambiguity}
    (h : a ∈ distinctAmbiguities reported (as ++ bs)) :
    a ∈ as ∨ a.pair ∉ as.map Ambiguity.pair := by
  induction as generalizing reported with
  | nil => exact .inr List.not_mem_nil
  | cons b rest ih =>
    rcases mem_distinctAmbiguities_cons h with rfl | ⟨hne, reported', hrest⟩
    · exact .inl List.mem_cons_self
    · rcases ih hrest with hmem | hnot
      · exact .inl (List.mem_cons_of_mem b hmem)
      · exact .inr fun hmem => (List.mem_cons.mp hmem).elim hne hnot

/-! ### Earlier and later -/

section Order

variable {α : Type} {a b : α} {l : List α}

lemma pair_sublist_or (ha : a ∈ l) (hb : b ∈ l) (hne : a ≠ b) :
    [a, b].Sublist l ∨ [b, a].Sublist l := by
  induction l with
  | nil => cases ha
  | cons x rest ih =>
    by_cases hax : a = x
    · have hrest : b ∈ rest :=
        (List.mem_cons.mp hb).resolve_left fun hbx => hne (hax.trans hbx.symm)
      subst hax
      exact .inl ((List.singleton_sublist.mpr hrest).cons_cons a)
    · have ha' : a ∈ rest := (List.mem_cons.mp ha).resolve_left hax
      by_cases hbx : b = x
      · subst hbx
        exact .inr ((List.singleton_sublist.mpr ha').cons_cons b)
      · have hb' : b ∈ rest := (List.mem_cons.mp hb).resolve_left hbx
        exact (ih ha' hb').imp (List.Sublist.cons x) (List.Sublist.cons x)

/-- Of two entries of a list without repetitions only one comes before the other. -/
lemma not_pair_sublist (hl : l.Nodup) (h : [a, b].Sublist l) : ¬ [b, a].Sublist l := by
  induction l with
  | nil => cases h
  | cons x rest ih =>
    obtain ⟨hx, hrest⟩ := List.nodup_cons.mp hl
    intro h'
    cases h with
    | cons _ h =>
      cases h' with
      | cons _ h' => exact ih hrest h h'
      | cons_cons _ h' => exact hx (h.subset (by simp))
    | cons_cons _ h =>
      cases h' with
      | cons _ h' => exact hx (h'.subset (by simp))
      | cons_cons _ h' => exact hx (h.subset (by simp))

lemma nodup_eraseDups [DecidableEq α] (l : List α) : l.eraseDups.Nodup := by
  induction l using List.reverseRecOn with
  | nil => exact List.nodup_nil
  | append_singleton l a ih =>
    rw [List.eraseDups_append]
    by_cases ha : a ∈ l
    · simpa [List.removeAll, ha] using ih
    · have hnew : ∀ b ∈ l.eraseDups, b ≠ a := by
        intro b hb heq
        exact ha (List.mem_eraseDups.mp (heq ▸ hb))
      simpa [List.removeAll, ha, List.eraseDups_cons, List.nodup_append, ih] using hnew

end Order

/-! ### The report -/

/-- Two modules that exclude each other. -/
def AreOpposed (m n : Module) : Prop := n.name ∈ m.excludes ∧ m.name ∈ n.excludes

section Report

variable {modules : List Module} {m n : Module} {a : Ambiguity}

lemma name_ne_of_pair_sublist (h : (modules.map Module.name).Nodup)
    (hmn : [m, n].Sublist modules) : m.name ≠ n.name := by
  have hpair := h.sublist (hmn.map Module.name)
  simpa using hpair

/-- The ambiguity of two modules names the one first that comes earlier in the list. -/
lemma pair_sublist_of_mem_ambiguities (h : (modules.map Module.name).Nodup)
    (ha : a ∈ (filterConflicts modules).ambiguities) :
    ∃ m n, [m, n].Sublist modules ∧ AreOpposed m n ∧ a = ⟨m.name, n.name⟩ := by
  have hfound := mem_of_mem_distinctAmbiguities ha
  obtain ⟨m, hm, hma⟩ := List.mem_flatMap.mp hfound
  obtain ⟨n, hn, hne, hexcludes, hback, rfl⟩ := (mem_ambiguitiesOf h).mp hma
  have hmodules : m ≠ n := fun heq => hne (congrArg Module.name heq)
  rcases pair_sublist_or hm hn hmodules with hmn | hnm
  · exact ⟨m, n, hmn, ⟨hexcludes, hback⟩, rfl⟩
  · -- impossible: the pair is come upon from `n` before it is from `m`
    obtain ⟨before, after, rfl, hbefore, hafter⟩ := List.cons_sublist_iff.mp hnm
    have hlater : m ∈ after := List.singleton_sublist.mp hafter
    have hopposite : ⟨n.name, m.name⟩ ∈ ambiguitiesOf (Module.tableOf (before ++ after)) n :=
      (mem_ambiguitiesOf h).mpr ⟨m, hm, hne.symm, hback, hexcludes, rfl⟩
    have hfirst : Ambiguity.pair ⟨m.name, n.name⟩ ∈
        (before.flatMap (ambiguitiesOf (Module.tableOf (before ++ after)))).map Ambiguity.pair :=
      List.mem_map.mpr ⟨_, List.mem_flatMap.mpr ⟨n, hbefore, hopposite⟩, Sym2.eq_swap⟩
    simp only [filterConflicts, List.flatMap_append] at ha
    rcases mem_or_pair_not_mem ha with hearly | hlate
    · obtain ⟨k, hk, hka⟩ := List.mem_flatMap.mp hearly
      obtain ⟨_, -, -, -, -, heq⟩ := (mem_ambiguitiesOf h).mp hka
      have hname : m.name = k.name := congrArg Ambiguity.first heq
      rw [List.map_append, List.nodup_append] at h
      exact absurd hname.symm
        (h.2.2 _ (List.mem_map_of_mem hk) _ (List.mem_map_of_mem hlater))
    · exact absurd hfirst hlate

lemma mem_ambiguities_of_pair_sublist (h : (modules.map Module.name).Nodup)
    (hmn : [m, n].Sublist modules) (hopposed : AreOpposed m n) :
    ⟨m.name, n.name⟩ ∈ (filterConflicts modules).ambiguities := by
  have hm : m ∈ modules := hmn.subset (by simp)
  have hn : n ∈ modules := hmn.subset (by simp)
  have hreported := (mem_pairs_filterConflicts h).mpr
    ⟨m, hm, n, hn, name_ne_of_pair_sublist h hmn, hopposed.1, hopposed.2, rfl⟩
  obtain ⟨a, ha, hpair⟩ := List.mem_map.mp hreported
  obtain ⟨m', n', hmn', -, rfl⟩ := pair_sublist_of_mem_ambiguities h ha
  have hm' : m' ∈ modules := hmn'.subset (by simp)
  have hn' : n' ∈ modules := hmn'.subset (by simp)
  rcases Sym2.eq_iff.mp hpair with ⟨hfirst, hsecond⟩ | ⟨hfirst, hsecond⟩
  · dsimp only at hfirst hsecond
    rwa [hfirst, hsecond] at ha
  · -- impossible: each of the two modules would come before the other
    obtain rfl := List.inj_on_of_nodup_map h hm' hn hfirst
    obtain rfl := List.inj_on_of_nodup_map h hn' hm hsecond
    exact absurd hmn' (not_pair_sublist h.of_map hmn)

/-- Both modules of an ambiguity are dropped. -/
lemma mem_excluded_of_mem_ambiguities (h : (modules.map Module.name).Nodup)
    (ha : a ∈ (filterConflicts modules).ambiguities) :
    a.first ∈ (filterConflicts modules).excluded ∧
      a.second ∈ (filterConflicts modules).excluded := by
  obtain ⟨m, n, hmn, hopposed, rfl⟩ := pair_sublist_of_mem_ambiguities h ha
  have hm : m ∈ modules := hmn.subset (by simp)
  have hn : n ∈ modules := hmn.subset (by simp)
  have hne := name_ne_of_pair_sublist h hmn
  constructor
  · exact mem_excluded_filterConflicts.mpr
      ⟨List.mem_map_of_mem hm, n, hn, hne.symm, hopposed.2⟩
  · exact mem_excluded_filterConflicts.mpr ⟨List.mem_map_of_mem hn, m, hm, hne, hopposed.1⟩

lemma not_mem_excluded_iff (hm : m ∈ modules) :
    m.name ∉ (filterConflicts modules).excluded ↔
      ∀ n ∈ modules, n.name ≠ m.name → m.name ∉ n.excludes := by
  rw [mem_excluded_filterConflicts]
  constructor
  · intro hnot n hn hne hexcludes
    exact hnot ⟨List.mem_map_of_mem hm, n, hn, hne, hexcludes⟩
  · rintro hall ⟨-, n, hn, hne, hexcludes⟩
    exact hall n hn hne hexcludes

lemma mem_excluded_iff_exists_not_kept {name : String} :
    name ∈ (filterConflicts modules).excluded ↔
      ∃ m ∈ modules, m ∉ (filterConflicts modules).kept ∧ m.name = name := by
  constructor
  · intro hname
    obtain ⟨m, hm, rfl⟩ := List.mem_map.mp (mem_excluded_filterConflicts.mp hname).1
    exact ⟨m, hm, fun hkept => (mem_kept_filterConflicts.mp hkept).2 hname, rfl⟩
  · rintro ⟨m, hm, hnot, rfl⟩
    by_contra hname
    exact hnot (mem_kept_filterConflicts.mpr ⟨hm, hname⟩)

/-- Of the modules that are kept none excludes another one. -/
lemma not_mem_excludes_of_kept (hm : m ∈ (filterConflicts modules).kept)
    (hn : n ∈ (filterConflicts modules).kept) (hne : n.name ≠ m.name) : m.name ∉ n.excludes := by
  obtain ⟨hmem, hnot⟩ := mem_kept_filterConflicts.mp hm
  exact (not_mem_excluded_iff hmem).mp hnot n (mem_kept_filterConflicts.mp hn).1 hne

/-- Where no module excludes another one, filtering leaves the list and has nothing to report. -/
lemma filterConflicts_eq_self (h : (modules.map Module.name).Nodup)
    (hpeace : ∀ m ∈ modules, ∀ n ∈ modules, n.name ≠ m.name → m.name ∉ n.excludes) :
    filterConflicts modules = ⟨modules, [], []⟩ := by
  have hexcluded : (filterConflicts modules).excluded = [] := by
    refine List.eq_nil_iff_forall_not_mem.mpr fun name hname => ?_
    obtain ⟨m, hm, hnot, rfl⟩ := mem_excluded_iff_exists_not_kept.mp hname
    exact (not_mem_excluded_iff hm).mpr (hpeace m hm) hname
  have hkept : (filterConflicts modules).kept = modules := by
    refine List.filter_eq_self.mpr fun m _ => ?_
    change decide (m.name ∉ (filterConflicts modules).excluded) = true
    simp [hexcluded]
  have hambiguities : (filterConflicts modules).ambiguities = [] := by
    refine List.eq_nil_iff_forall_not_mem.mpr fun a ha => ?_
    have hfirst := (mem_excluded_of_mem_ambiguities h ha).1
    rw [hexcluded] at hfirst
    cases hfirst
  calc filterConflicts modules
      = ⟨(filterConflicts modules).kept, (filterConflicts modules).excluded,
          (filterConflicts modules).ambiguities⟩ := rfl
    _ = ⟨modules, [], []⟩ := by rw [hkept, hexcluded, hambiguities]

end Report

/-- The outcome of filtering tells exactly what the modules exclude: those are kept that no other
module excludes, the names of the others are listed once, and each pair of opposed modules is
reported once, the one that comes earlier first. -/
structure Filtered.IsExact (f : Filtered) (modules : List Module) : Prop where
  kept : f.kept = modules.filter fun m => ∀ n ∈ modules, n.name ≠ m.name → m.name ∉ n.excludes
  excluded : ∀ name, name ∈ f.excluded ↔ ∃ m ∈ modules, m ∉ f.kept ∧ m.name = name
  excludedOnce : f.excluded.Nodup
  ambiguities : ∀ a, a ∈ f.ambiguities ↔
    ∃ m n, [m, n].Sublist modules ∧ AreOpposed m n ∧ a = ⟨m.name, n.name⟩
  reportedOnce : (f.ambiguities.map Ambiguity.pair).Nodup
  bothExcluded : ∀ a ∈ f.ambiguities, a.first ∈ f.excluded ∧ a.second ∈ f.excluded

/-- Filtering modules of distinct names is exact, and what is kept has no conflict left: filtering
it again changes nothing. -/
theorem filterConflicts_isExact (modules : List Module) (h : (modules.map Module.name).Nodup) :
    (filterConflicts modules).IsExact modules ∧
      (∀ m ∈ (filterConflicts modules).kept, ∀ n ∈ (filterConflicts modules).kept,
        n.name ≠ m.name → m.name ∉ n.excludes) ∧
      filterConflicts (filterConflicts modules).kept =
        ⟨(filterConflicts modules).kept, [], []⟩ := by
  have hpeace : ∀ m ∈ (filterConflicts modules).kept, ∀ n ∈ (filterConflicts modules).kept,
      n.name ≠ m.name → m.name ∉ n.excludes :=
    fun m hm n hn hne => not_mem_excludes_of_kept hm hn hne
  have hnames : ((filterConflicts modules).kept.map Module.name).Nodup :=
    h.sublist (List.filter_sublist.map _)
  refine ⟨⟨?_, fun name => mem_excluded_iff_exists_not_kept, nodup_eraseDups _, ?_,
    nodup_pairs_distinctAmbiguities _ _, fun a => mem_excluded_of_mem_ambiguities h⟩, hpeace,
    filterConflicts_eq_self hnames hpeace⟩
  · exact List.filter_congr fun m hm => decide_eq_decide.mpr (not_mem_excluded_iff hm)
  · intro a
    constructor
    · exact pair_sublist_of_mem_ambiguities h
    · rintro ⟨m, n, hmn, hopposed, rfl⟩
      exact mem_ambiguities_of_pair_sublist h hmn hopposed

/-- Four modules: two opposed ones, one of which names the other twice, one that excludes itself and
one of the two, and one that nobody excludes. -/
theorem filterConflicts_isExact_of_four :
    let m (name : String) (excludes : List String) : Module := ⟨name, "", "p", [], excludes, 0⟩
    let modules := [m "a" ["b", "b"], m "b" ["a", "x"], m "c" ["c", "b"], m "d" []]
    (modules.map Module.name).Nodup ∧ (filterConflicts modules).IsExact modules ∧
      filterConflicts modules = ⟨[m "c" ["c", "b"], m "d" []], ["b", "a"], [⟨"a", "b"⟩]⟩ := by
  intro m modules
  have hnames : (modules.map Module.name).Nodup := by decide
  exact ⟨hnames, (filterConflicts_isExact modules hnames).1, by decide⟩

end Scaffold.Resolution
