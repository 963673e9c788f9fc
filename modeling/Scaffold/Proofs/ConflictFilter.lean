import Mathlib.Data.Sym.Sym2
import Scaffold.Proofs.ModuleLookup

/-!
# What the conflicts of a list come to

Whom a list of modules drops and which pairs it reports, said of the modules themselves: a name is
dropped if another module of the list excludes it, and a pair is reported if its two modules exclude
each other. Which of the two comes first is an accident of the order, so ambiguities are compared as
unordered pairs.
-/

namespace Scaffold.Resolution

/-- The two names of an ambiguity, in no order. -/
def Ambiguity.pair (a : Ambiguity) : Sym2 String := s(a.first, a.second)

lemma Ambiguity.sameAs_iff {a b : Ambiguity} : a.sameAs b = true ↔ a.pair = b.pair := by
  obtain ⟨x, y⟩ := a
  obtain ⟨z, w⟩ := b
  simp [sameAs, pair]

/-- Leaving out what has been reported loses no other pair. -/
lemma mem_pairs_distinctAmbiguities {reported as : List Ambiguity} {p : Sym2 String} :
    p ∈ (distinctAmbiguities reported as).map Ambiguity.pair ↔
      p ∈ as.map Ambiguity.pair ∧ p ∉ reported.map Ambiguity.pair := by
  induction as generalizing reported with
  | nil => simp [distinctAmbiguities]
  | cons a rest ih =>
    have hany : reported.any a.sameAs = true ↔ a.pair ∈ reported.map Ambiguity.pair := by
      rw [List.any_eq_true, List.mem_map]
      refine exists_congr fun b => and_congr_right fun _ => ?_
      rw [Ambiguity.sameAs_iff, eq_comm]
    rw [distinctAmbiguities]
    by_cases ha : a.pair ∈ reported.map Ambiguity.pair
    · rw [if_pos (hany.mpr ha), ih, List.map_cons, List.mem_cons]
      constructor
      · rintro ⟨hp, hnot⟩
        exact ⟨.inr hp, hnot⟩
      · rintro ⟨rfl | hp, hnot⟩
        · exact absurd ha hnot
        · exact ⟨hp, hnot⟩
    · rw [if_neg (mt hany.mp ha), List.map_cons, List.mem_cons, ih, List.map_cons, List.mem_cons,
        List.map_cons, List.mem_cons]
      constructor
      · rintro (rfl | ⟨hp, hnot⟩)
        · exact ⟨.inl rfl, ha⟩
        · exact ⟨.inr hp, fun h => hnot (.inr h)⟩
      · rintro ⟨rfl | hp, hnot⟩
        · exact .inl rfl
        · by_cases hpa : p = a.pair
          · exact .inl hpa
          · exact .inr ⟨hp, fun h => h.elim hpa hnot⟩

section Filter

variable {modules : List Module} {name : String} {m : Module}

lemma mem_excludedBy :
    name ∈ excludedBy (Module.tableOf modules) m ↔
      name ∈ m.excludes ∧ name ≠ m.name ∧ name ∈ modules.map Module.name := by
  rw [excludedBy, List.mem_filter, Bool.and_eq_true, Module.isSome_find?_tableOf]
  simp

/-- A name of the list is dropped if another module of the list excludes it. -/
lemma mem_excluded_filterConflicts :
    name ∈ (filterConflicts modules).excluded ↔
      name ∈ modules.map Module.name ∧ ∃ m ∈ modules, m.name ≠ name ∧ name ∈ m.excludes := by
  simp only [filterConflicts, List.mem_eraseDups, List.mem_flatMap, mem_excludedBy]
  constructor
  · rintro ⟨m, hm, hexcludes, hne, hname⟩
    exact ⟨hname, m, hm, hne.symm, hexcludes⟩
  · rintro ⟨hname, m, hm, hne, hexcludes⟩
    exact ⟨m, hm, hexcludes, hne.symm, hname⟩

lemma mem_kept_filterConflicts :
    m ∈ (filterConflicts modules).kept ↔
      m ∈ modules ∧ m.name ∉ (filterConflicts modules).excluded := by
  simp [filterConflicts]

/-- Where names differ, a name excludes another one back if the module of that name does. -/
lemma excludesBack_iff (h : (modules.map Module.name).Nodup) {other : String} :
    excludesBack (Module.tableOf modules) name other = true ↔
      ∃ n ∈ modules, n.name = name ∧ other ∈ n.excludes := by
  unfold excludesBack
  cases hfind : Table.find? (Module.tableOf modules) name with
  | none =>
    have hnot : name ∉ modules.map Module.name := by
      rw [← Module.isSome_find?_tableOf, hfind]
      simp
    refine iff_of_false (by simp) ?_
    rintro ⟨n, hn, rfl, -⟩
    exact hnot (List.mem_map_of_mem hn)
  | some k =>
    obtain ⟨hk, hname⟩ := (Module.find?_tableOf h).mp hfind
    dsimp only
    rw [List.contains_iff_mem]
    constructor
    · intro hother
      exact ⟨k, hk, hname, hother⟩
    · rintro ⟨n, hn, hn', hother⟩
      have hsame := (Module.find?_tableOf h).mpr ⟨hn, hn'⟩
      rw [hfind] at hsame
      exact Option.some.inj hsame ▸ hother

lemma mem_ambiguitiesOf (h : (modules.map Module.name).Nodup) {a : Ambiguity} :
    a ∈ ambiguitiesOf (Module.tableOf modules) m ↔
      ∃ n ∈ modules, m.name ≠ n.name ∧ n.name ∈ m.excludes ∧ m.name ∈ n.excludes ∧
        a = ⟨m.name, n.name⟩ := by
  simp only [ambiguitiesOf, List.mem_map, List.mem_filter, mem_excludedBy, excludesBack_iff h]
  constructor
  · rintro ⟨name, ⟨⟨hexcludes, hne, -⟩, n, hn, rfl, hback⟩, rfl⟩
    exact ⟨n, hn, hne.symm, hexcludes, hback, rfl⟩
  · rintro ⟨n, hn, hne, hexcludes, hback, rfl⟩
    exact ⟨n.name, ⟨⟨hexcludes, hne.symm, n, hn, rfl⟩, n, hn, rfl, hback⟩, rfl⟩

/-- A pair is reported if two modules of the list of these names exclude each other. -/
lemma mem_pairs_filterConflicts (h : (modules.map Module.name).Nodup) {p : Sym2 String} :
    p ∈ (filterConflicts modules).ambiguities.map Ambiguity.pair ↔
      ∃ m ∈ modules, ∃ n ∈ modules, m.name ≠ n.name ∧ n.name ∈ m.excludes ∧ m.name ∈ n.excludes ∧
        p = s(m.name, n.name) := by
  simp only [filterConflicts, mem_pairs_distinctAmbiguities, List.map_nil, List.not_mem_nil,
    not_false_eq_true, and_true]
  simp only [List.mem_map, List.mem_flatMap, mem_ambiguitiesOf h]
  constructor
  · rintro ⟨a, ⟨m, hm, n, hn, hne, hexcludes, hback, rfl⟩, rfl⟩
    exact ⟨m, hm, n, hn, hne, hexcludes, hback, rfl⟩
  · rintro ⟨m, hm, n, hn, hne, hexcludes, hback, rfl⟩
    exact ⟨⟨m.name, n.name⟩, ⟨m, hm, n, hn, hne, hexcludes, hback, rfl⟩, rfl⟩

end Filter

end Scaffold.Resolution
