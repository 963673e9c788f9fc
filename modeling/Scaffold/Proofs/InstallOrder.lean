import Scaffold.Proofs.ConflictReport
import Scaffold.Proofs.DiscoveryOrder
import Scaffold.Proofs.PresentationOrder

/-!
# The order of installation

What is installed, and in which order: the include closure without what conflicts drop, a higher
priority before a lower one. The passes before the sort leave the modules in the order in which they
were first picked or then discovered, and the sort keeps that order among modules of one priority.
So for any two of them it can be said which comes first.
-/

namespace Scaffold.Resolution

/-! ### What a selection picks -/

/-- The names that become known by a choice: that of a module which is given as such. -/
def namesGiven : Choice → List String
  | .name _ => []
  | .module m => [m.name]

/-- The name of the module that a choice picks: the name of a module that is known. -/
def namePicked (known : List String) : Choice → List String
  | .name name => if name ∈ known then [name] else []
  | .module m => [m.name]

/-- The names of the modules that a selection picks, choice by choice. Modules that are given as such
are known from then on. -/
def namesPicked (known : List String) : List Choice → List String
  | [] => []
  | choice :: rest => namePicked known choice ++ namesPicked (namesGiven choice ++ known) rest

section Picked

variable {c : Chosen} {known : List String}

lemma nameKeyed_take (h : NameKeyed c.table) (choice : Choice) :
    NameKeyed (c.take choice).table := by
  cases choice with
  | name name =>
    rw [Chosen.take]
    split
    · exact h
    · split <;> exact h
  | module m =>
    rw [Chosen.take]
    split
    · exact h
    · exact h.insert m

/-- A choice makes known what it gives. -/
lemma isSome_find?_take (choice : Choice) (name : String) :
    (Table.find? (c.take choice).table name).isSome = true ↔
      name ∈ namesGiven choice ∨ (Table.find? c.table name).isSome = true := by
  cases choice with
  | name other =>
    have htable : (c.take (.name other)).table = c.table := by
      rw [Chosen.take]
      split
      · rfl
      · split <;> rfl
    simp [namesGiven, htable]
  | module m =>
    rw [Chosen.take, namesGiven, List.mem_singleton]
    cases hfind : Table.find? c.table m.name with
    | some m' =>
      refine (or_iff_right_of_imp ?_).symm
      rintro rfl
      simp [hfind]
    | none =>
      dsimp only
      rw [Table.find?_insert]
      by_cases hname : m.name = name
      · simp [hname]
      · rw [if_neg hname, or_iff_right (Ne.symm hname)]

/-- A choice stands for the module that it picks. -/
lemma names_take (hkey : NameKeyed c.table)
    (hknown : ∀ name, (Table.find? c.table name).isSome = true ↔ name ∈ known) (choice : Choice) :
    (c.take choice).modules.map Module.name =
      c.modules.map Module.name ++ namePicked known choice := by
  cases choice with
  | name name =>
    rw [Chosen.take, namePicked]
    cases hfind : Table.find? c.table name with
    | some m =>
      rw [if_pos ((hknown name).mp (by rw [hfind]; rfl)), List.map_append, List.map_singleton,
        hkey name m hfind]
    | none =>
      have hnot : name ∉ known := fun hmem => by simpa [hfind] using (hknown name).mpr hmem
      rw [if_neg hnot, List.append_nil]
      dsimp only
      split <;> rfl
  | module m =>
    rw [Chosen.take, namePicked]
    cases hfind : Table.find? c.table m.name with
    | some m' => rw [List.map_append, List.map_singleton, hkey m.name m' hfind]
    | none => rw [List.map_append, List.map_singleton]

lemma nameKeyed_foldl_take (selected : List Choice) (h : NameKeyed c.table) :
    NameKeyed (selected.foldl Chosen.take c).table := by
  induction selected generalizing c with
  | nil => exact h
  | cons choice rest ih => exact ih (nameKeyed_take h choice)

lemma nameKeyed_chosen (selected : List Choice) (catalog : List Module) :
    NameKeyed (chosen selected catalog).table :=
  nameKeyed_foldl_take selected (nameKeyed_tableOf catalog)

lemma names_foldl_take (selected : List Choice) (hkey : NameKeyed c.table)
    (hknown : ∀ name, (Table.find? c.table name).isSome = true ↔ name ∈ known) :
    (selected.foldl Chosen.take c).modules.map Module.name =
      c.modules.map Module.name ++ namesPicked known selected := by
  induction selected generalizing c known with
  | nil => exact (List.append_nil _).symm
  | cons choice rest ih =>
    have hknown' : ∀ name, (Table.find? (c.take choice).table name).isSome = true ↔
        name ∈ namesGiven choice ++ known := fun name => by
      rw [isSome_find?_take, hknown, List.mem_append]
    rw [List.foldl_cons, ih (nameKeyed_take hkey choice) hknown', names_take hkey hknown,
      List.append_assoc, namesPicked]

/-- A selection stands for modules of the names that it picks from the catalog. -/
lemma names_chosen (selected : List Choice) (catalog : List Module) :
    (chosen selected catalog).modules.map Module.name =
      namesPicked (catalog.map Module.name) selected :=
  names_foldl_take selected (nameKeyed_tableOf catalog) fun _ => Module.isSome_find?_tableOf

lemma names_distinct (modules : List Module) :
    (distinct modules).map Module.name = (modules.map Module.name).eraseDups := by
  have hfrom : ∀ seen : List String, (distinctFrom seen modules).map Module.name =
      ((modules.map Module.name).filter fun name => name ∉ seen).eraseDups := by
    induction modules with
    | nil => exact fun seen => rfl
    | cons m rest ih =>
      intro seen
      rw [List.map_cons, distinctFrom]
      by_cases hm : m.name ∈ seen
      · rw [if_pos hm, ih, List.filter_cons_of_neg (by simpa using hm)]
      · have hrest : ((rest.map Module.name).filter fun name => name ∉ m.name :: seen) =
            ((rest.map Module.name).filter fun name => name ∉ seen).filter
              fun name => !name == m.name := by
          rw [List.filter_filter]
          congr 1
          funext name
          simp only [List.mem_cons, not_or, beq_eq_decide, Bool.decide_and, decide_not]
        rw [if_neg hm, List.map_cons, ih, hrest, List.filter_cons_of_pos (by simpa using hm),
          List.eraseDups_cons]
  rw [distinct, hfrom]
  simp

end Picked

/-! ### Which of two modules comes first -/

section Order

variable {α : Type} {m n : Module}

lemma pair_sublist_filter_iff {a b : α} {l : List α} {p : α → Bool} :
    [a, b].Sublist (l.filter p) ↔ [a, b].Sublist l ∧ p a = true ∧ p b = true := by
  constructor
  · intro h
    have hmem : ∀ x ∈ [a, b], p x = true := fun x hx => (List.mem_filter.mp (h.subset hx)).2
    exact ⟨h.trans List.filter_sublist, hmem a (by simp), hmem b (by simp)⟩
  · rintro ⟨h, ha, hb⟩
    have hfilter := h.filter p
    rwa [List.filter_cons_of_pos ha, List.filter_cons_of_pos hb] at hfilter

lemma pair_sublist_sortByPriority {l : List Module} (hle : n.priority ≤ m.priority)
    (h : [m, n].Sublist l) : [m, n].Sublist (sortByPriority l) :=
  List.pair_sublist_mergeSort
    (fun a b c hab hbc => by simp only [decide_eq_true_eq] at *; omega)
    (fun a b => by simp only [Bool.or_eq_true, decide_eq_true_eq]; omega)
    (by simpa using hle) h

lemma priority_le_of_pair_sublist {l : List Module} (h : [m, n].Sublist (sortByPriority l)) :
    n.priority ≤ m.priority := by
  have hpair : [m, n].Pairwise fun a b => b.priority ≤ a.priority :=
    (pairwise_sortByPriority l).sublist h
  simpa using hpair

/-- Of two modules in the order of installation the one with the higher priority comes first, or if
they have the same priority the one that came first before. -/
lemma pair_sublist_sortByPriority_iff {l : List Module} (hl : l.Nodup) :
    [m, n].Sublist (sortByPriority l) ↔
      m ∈ l ∧ n ∈ l ∧
        (n.priority < m.priority ∨ m.priority = n.priority ∧ [m, n].Sublist l) := by
  have hsorted : (sortByPriority l).Nodup := (perm_sortByPriority l).nodup_iff.mpr hl
  have hmem : ∀ k, k ∈ sortByPriority l ↔ k ∈ l := fun _ => (perm_sortByPriority l).mem_iff
  constructor
  · intro h
    have hm : m ∈ l := (hmem m).mp (h.subset (by simp))
    have hn : n ∈ l := (hmem n).mp (h.subset (by simp))
    refine ⟨hm, hn, (priority_le_of_pair_sublist h).lt_or_eq.imp_right fun heq => ⟨heq.symm, ?_⟩⟩
    have hne : m ≠ n := by simpa using hsorted.sublist h
    refine (pair_sublist_or hm hn hne).resolve_right fun hback => ?_
    exact not_pair_sublist hsorted h (pair_sublist_sortByPriority heq.ge hback)
  · rintro ⟨hm, hn, hlt | ⟨heq, hbefore⟩⟩
    · have hne : m ≠ n := fun hmn => absurd hlt (by rw [hmn]; exact lt_irrefl _)
      refine (pair_sublist_or ((hmem m).mpr hm) ((hmem n).mpr hn) hne).resolve_right fun hback => ?_
      exact absurd hlt (not_lt.mpr (priority_le_of_pair_sublist hback))
    · exact pair_sublist_sortByPriority heq.ge hbefore

end Order

/-! ### The order -/

/-- The modules of a resolution are those of a sequence that it does not exclude, each once. Of two
of them the one with the higher priority comes first, or if they have the same priority the one that
comes first in the sequence. -/
structure IsInstallOrder (r : Resolution) (sequence : List Module) : Prop where
  distinct : r.names.Nodup
  installed : r.modules.Perm (sequence.filter fun m => m.name ∉ r.excluded)
  precedes_iff : ∀ m n, [m, n].Sublist r.modules ↔
    m ∈ r.modules ∧ n ∈ r.modules ∧
      (n.priority < m.priority ∨ m.priority = n.priority ∧ [m, n].Sublist sequence)

/-- What is installed of a selection is its include closure without what is excluded, in the order
of priorities and, where these are the same, in the order of the closure: first what was picked, in
the order in which it was first picked, and then what this brings in, depth first. -/
theorem ofSelection_isInstallOrder (selected : List Choice) (catalog : List Module) :
    let c := chosen selected catalog
    let r := ofSelection selected catalog
    ∃ picked found, (closure c.table c.modules).modules = picked ++ found ∧
      picked.map Module.name = (namesPicked (catalog.map Module.name) selected).eraseDups ∧
      found.map Module.name = r.included ∧
      BringsIn c.table {name | name ∈ picked.map Module.name} (picked.flatMap Module.includes)
        r.included ∧
      r.IsInstallOrder (picked ++ found) := by
  intro c r
  have hkey : NameKeyed c.table := nameKeyed_chosen selected catalog
  have hpicked : (distinct c.modules).map Module.name = _ :=
    (names_distinct c.modules).trans (congrArg List.eraseDups (names_chosen selected catalog))
  have hfound : (r.included.filterMap (Table.find? c.table)).map Module.name = r.included := by
    have hnames := names_closure c.modules hkey
    rw [closure, List.map_append] at hnames
    exact List.append_cancel_left hnames
  refine ⟨distinct c.modules, r.included.filterMap (Table.find? c.table), rfl, hpicked, hfound,
    bringsIn_discover c.table _ _, ?_⟩
  have hnames := nodup_names_closure hkey c.modules
  have hkept := nodup_names_kept hnames
  have hperm : r.modules.Perm (filterConflicts (closure c.table c.modules).modules).kept :=
    perm_sortByPriority _
  refine ⟨(hperm.map Module.name).nodup_iff.mpr hkept, hperm, fun m n => ?_⟩
  have horder : [m, n].Sublist r.modules ↔ _ := pair_sublist_sortByPriority_iff hkept.of_map
  rw [horder, hperm.mem_iff, hperm.mem_iff]
  -- what is kept is a filtered sequence, so two modules that are kept have kept their order
  refine and_congr_right fun hm => and_congr_right fun hn => or_congr_right ?_
  refine and_congr_right fun _ => pair_sublist_filter_iff.trans ?_
  exact and_iff_left ⟨(List.mem_filter.mp hm).2, (List.mem_filter.mp hn).2⟩

/-- Modules of one priority keep the order in which they were picked and then discovered, and a
negative priority comes last although it was picked first. -/
example :
    (ofSelection [.name "d", .name "b", .name "a", .name "b"]
      [⟨"a", "", "", ["c"], [], 0⟩, ⟨"b", "", "", [], [], 0⟩, ⟨"c", "", "", [], [], 0⟩,
        ⟨"d", "", "", [], [], -1⟩]).names = ["b", "a", "c", "d"] := by
  cbv

end Scaffold.Resolution
