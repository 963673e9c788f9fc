import Mathlib.Data.List.Permutation
import Scaffold.Proofs.ConflictFilter

/-!
# Resolutions and the order of presentation

The order in which names are selected, modules are listed and other modules are named decides in
which order modules are discovered and conflicts are met. This file compares two resolutions of one
catalog in two orders: what they come to as sets is the same, and so is the order of installation
where priorities settle it.
-/

namespace Scaffold

/-- Two modules that differ at most in the order in which they name other modules. -/
structure Module.IsReordering (m n : Module) : Prop where
  name : m.name = n.name
  description : m.description = n.description
  path : m.path = n.path
  priority : m.priority = n.priority
  includes : m.includes.Perm n.includes
  excludes : m.excludes.Perm n.excludes

/-- Two catalogs that differ at most in the order of their modules, and in the order in which each
module names others. -/
def Module.AreReordered (catalog catalog' : List Module) : Prop :=
  ∃ rewritten, List.Forall₂ Module.IsReordering catalog rewritten ∧ rewritten.Perm catalog'

lemma Module.IsReordering.refl (m : Module) : m.IsReordering m :=
  ⟨rfl, rfl, rfl, rfl, .refl _, .refl _⟩

lemma Module.IsReordering.symm {m n : Module} (h : m.IsReordering n) : n.IsReordering m :=
  ⟨h.name.symm, h.description.symm, h.path.symm, h.priority.symm, h.includes.symm, h.excludes.symm⟩

namespace Resolution

/-- Every module of a list has a reordering in the other list. -/
def Restated (modules modules' : List Module) : Prop :=
  ∀ m ∈ modules, ∃ m' ∈ modules', m.IsReordering m'

/-- Whatever a table knows, another one knows up to order. -/
def Restates (table table' : Table String Module) : Prop :=
  ∀ name m, Table.find? table name = some m →
    ∃ m', Table.find? table' name = some m' ∧ m.IsReordering m'

section Catalogs

variable {catalog catalog' : List Module}

lemma restated_of_forall₂ (h : List.Forall₂ Module.IsReordering catalog catalog') :
    Restated catalog catalog' := by
  induction h with
  | nil => simp [Restated]
  | @cons m m' rest rest' hsame _ ih =>
    refine List.forall_mem_cons.mpr ⟨⟨m', List.mem_cons_self, hsame⟩, fun n hn => ?_⟩
    obtain ⟨n', hn', hsame'⟩ := ih n hn
    exact ⟨n', List.mem_cons_of_mem _ hn', hsame'⟩

lemma restated_of_areReordered (h : Module.AreReordered catalog catalog') :
    Restated catalog catalog' ∧ Restated catalog' catalog := by
  obtain ⟨rewritten, hwritten, hperm⟩ := h
  have hback : List.Forall₂ Module.IsReordering rewritten catalog :=
    (hwritten.imp fun _ _ hsame => hsame.symm).flip
  constructor
  · intro m hm
    obtain ⟨m', hm', hsame⟩ := restated_of_forall₂ hwritten m hm
    exact ⟨m', hperm.mem_iff.mp hm', hsame⟩
  · intro m' hm'
    exact restated_of_forall₂ hback m' (hperm.mem_iff.mpr hm')

lemma perm_names_of_areReordered (h : Module.AreReordered catalog catalog') :
    (catalog.map Module.name).Perm (catalog'.map Module.name) := by
  obtain ⟨rewritten, hwritten, hperm⟩ := h
  have hnames : catalog.map Module.name = rewritten.map Module.name := by
    clear hperm
    induction hwritten with
    | nil => rfl
    | cons hsame _ ih => rw [List.map_cons, List.map_cons, hsame.name, ih]
  rw [hnames]
  exact hperm.map Module.name

lemma restates_tableOf (h : (catalog.map Module.name).Nodup) (h' : (catalog'.map Module.name).Nodup)
    (hrestated : Restated catalog catalog') :
    Restates (Module.tableOf catalog) (Module.tableOf catalog') := by
  intro name m hfind
  obtain ⟨hm, hname⟩ := (Module.find?_tableOf h).mp hfind
  obtain ⟨m', hm', hsame⟩ := hrestated m hm
  exact ⟨m', (Module.find?_tableOf h').mpr ⟨hm', hsame.name ▸ hname⟩, hsame⟩

end Catalogs

/-! ### Closures -/

/-- The include closure of the modules that names stand for. -/
def namedClosure (table : Table String Module) (names : List String) : List Module :=
  (closure table (names.filterMap (Table.find? table))).modules

section Closures

variable {table table' : Table String Module} {names names' : List String}

/-- A closed set of the one presentation is closed in the other one as well. -/
lemma includeClosed_of_restates (hkey : NameKeyed table) (hkey' : NameKeyed table')
    (htable : Restates table table') (hnames : ∀ n ∈ names, n ∈ names') {S : Set String}
    (hS : IncludeClosed table' (names'.filterMap (Table.find? table')) S) :
    IncludeClosed table (names.filterMap (Table.find? table)) S := by
  constructor
  · intro m hm
    obtain ⟨name, hname, hfind⟩ := List.mem_filterMap.mp hm
    obtain ⟨m', hfind', hsame⟩ := htable name m hfind
    rw [hsame.name]
    exact hS.selected m' (List.mem_filterMap.mpr ⟨name, hnames name hname, hfind'⟩)
  · intro name hname m hm other hother hknown
    rw [recordOf?_of_names hkey] at hm
    obtain ⟨m', hfind', hsame⟩ := htable name m hm
    obtain ⟨k, hk⟩ := Option.isSome_iff_exists.mp hknown
    obtain ⟨k', hk', -⟩ := htable other k hk
    have hm' : recordOf? table' (names'.filterMap (Table.find? table')) name = some m' := by
      rw [recordOf?_of_names hkey', hfind']
    exact hS.includes name hname m' hm' other (hsame.includes.mem_iff.mp hother) (by simp [hk'])

lemma names_namedClosure_subset (hkey : NameKeyed table) (hkey' : NameKeyed table')
    (htable : Restates table table') (hnames : ∀ n ∈ names, n ∈ names') {name : String}
    (h : name ∈ (namedClosure table names).map Module.name) :
    name ∈ (namedClosure table' names').map Module.name := by
  have hclosed := includeClosed_names (names'.filterMap (Table.find? table')) hkey'
  exact names_subset_of_includeClosed _ hkey
    (includeClosed_of_restates hkey hkey' htable hnames hclosed) h

/-- The closures of two presentations have the same modules up to order. -/
lemma restated_namedClosure (hkey : NameKeyed table) (hkey' : NameKeyed table')
    (htable : Restates table table') (hnames : ∀ n ∈ names, n ∈ names') :
    Restated (namedClosure table names) (namedClosure table' names') := by
  intro m hm
  obtain ⟨hname, hfind⟩ := (mem_closure_of_names hkey).mp hm
  obtain ⟨m', hfind', hsame⟩ := htable m.name m hfind
  have hname' := names_namedClosure_subset hkey hkey' htable hnames hname
  rw [hsame.name] at hname' hfind'
  exact ⟨m', (mem_closure_of_names hkey').mpr ⟨hname', hfind'⟩, hsame⟩

end Closures

/-! ### Conflicts -/

section Conflicts

variable {modules modules' : List Module}

lemma Restated.mem_names (h : Restated modules modules') {name : String}
    (hname : name ∈ modules.map Module.name) : name ∈ modules'.map Module.name := by
  obtain ⟨m, hm, rfl⟩ := List.mem_map.mp hname
  obtain ⟨m', hm', hsame⟩ := h m hm
  exact List.mem_map.mpr ⟨m', hm', hsame.name.symm⟩

lemma Restated.mem_excluded (h : Restated modules modules') {name : String}
    (hname : name ∈ (filterConflicts modules).excluded) :
    name ∈ (filterConflicts modules').excluded := by
  obtain ⟨hmem, m, hm, hne, hexcludes⟩ := mem_excluded_filterConflicts.mp hname
  obtain ⟨m', hm', hsame⟩ := h m hm
  refine mem_excluded_filterConflicts.mpr ⟨h.mem_names hmem, m', hm', ?_, ?_⟩
  · rw [← hsame.name]
    exact hne
  · exact hsame.excludes.mem_iff.mp hexcludes

lemma Restated.mem_pairs (h : Restated modules modules') (hnodup : (modules.map Module.name).Nodup)
    (hnodup' : (modules'.map Module.name).Nodup) {p : Sym2 String}
    (hp : p ∈ (filterConflicts modules).ambiguities.map Ambiguity.pair) :
    p ∈ (filterConflicts modules').ambiguities.map Ambiguity.pair := by
  obtain ⟨m, hm, n, hn, hne, hmn, hnm, rfl⟩ := (mem_pairs_filterConflicts hnodup).mp hp
  obtain ⟨m', hm', hsame⟩ := h m hm
  obtain ⟨n', hn', hsame'⟩ := h n hn
  rw [hsame.name, hsame'.name] at hne ⊢
  rw [hsame'.name] at hmn
  rw [hsame.name] at hnm
  refine (mem_pairs_filterConflicts hnodup').mpr ⟨m', hm', n', hn', hne, ?_, ?_, rfl⟩
  · exact hsame.excludes.mem_iff.mp hmn
  · exact hsame'.excludes.mem_iff.mp hnm

/-- What is kept of two presentations is the same up to order. -/
lemma Restated.kept (h : Restated modules modules') (h' : Restated modules' modules) :
    Restated (filterConflicts modules).kept (filterConflicts modules').kept := by
  intro m hm
  obtain ⟨hmem, hnot⟩ := mem_kept_filterConflicts.mp hm
  obtain ⟨m', hm', hsame⟩ := h m hmem
  refine ⟨m', mem_kept_filterConflicts.mpr ⟨hm', fun hexcluded => hnot ?_⟩, hsame⟩
  rw [hsame.name]
  exact h'.mem_excluded hexcluded

end Conflicts

/-! ### Order -/

/-- What counts for the place of a module in the order of installation, and for what is said of it
there. -/
def rank (m : Module) : String × Int := (m.name, m.priority)

lemma pairwise_sortByPriority (modules : List Module) :
    (sortByPriority modules).Pairwise fun m n => n.priority ≤ m.priority := by
  have hpairwise : (sortByPriority modules).Pairwise
      fun m n => decide (n.priority ≤ m.priority) = true :=
    List.pairwise_mergeSort
      (fun a b c hab hbc => by simp only [decide_eq_true_eq] at *; omega)
      (fun a b => by simp only [Bool.or_eq_true, decide_eq_true_eq]; omega) _
  simpa only [decide_eq_true_eq] using hpairwise

lemma perm_sortByPriority (modules : List Module) : (sortByPriority modules).Perm modules :=
  List.mergeSort_perm _ _

section Order

variable {modules modules' : List Module}

lemma nodup_rank (h : (modules.map Module.name).Nodup) : (modules.map rank).Nodup := by
  refine List.Nodup.of_map Prod.fst ?_
  rw [List.map_map]
  exact h

lemma Restated.mem_rank (h : Restated modules modules') {x : String × Int}
    (hx : x ∈ modules.map rank) : x ∈ modules'.map rank := by
  obtain ⟨m, hm, rfl⟩ := List.mem_map.mp hx
  obtain ⟨m', hm', hsame⟩ := h m hm
  exact List.mem_map.mpr ⟨m', hm', by rw [rank, rank, hsame.name, hsame.priority]⟩

/-- Modules whose priorities differ are ordered by these alone. -/
lemma Restated.names_sortByPriority (h : Restated modules modules')
    (h' : Restated modules' modules) (hnodup : (modules.map Module.name).Nodup)
    (hnodup' : (modules'.map Module.name).Nodup)
    (hpriorities : (modules.map Module.priority).Nodup) :
    (sortByPriority modules).map Module.name = (sortByPriority modules').map Module.name := by
  have hranks : (modules.map rank).Perm (modules'.map rank) :=
    (List.perm_ext_iff_of_nodup (nodup_rank hnodup) (nodup_rank hnodup')).mpr fun _ =>
      ⟨h.mem_rank, h'.mem_rank⟩
  have hsort (l : List Module) : ((sortByPriority l).map rank).Perm (l.map rank) :=
    (perm_sortByPriority l).map rank
  have hordered (l : List Module) :
      ((sortByPriority l).map rank).Pairwise fun a b => b.2 ≤ a.2 :=
    List.pairwise_map.mpr (pairwise_sortByPriority l)
  have hinj : ∀ a ∈ modules.map rank, ∀ b ∈ modules.map rank, a.2 = b.2 → a = b := by
    intro a ha b hb
    refine List.inj_on_of_nodup_map ?_ ha hb
    rw [List.map_map]
    exact hpriorities
  have hperm : ((sortByPriority modules).map rank).Perm ((sortByPriority modules').map rank) :=
    ((hsort modules).trans hranks).trans (hsort modules').symm
  -- Two entries neither of which has the lower priority have the same one, so they are the same.
  have heq : (sortByPriority modules).map rank = (sortByPriority modules').map rank := by
    refine hperm.eq_of_pairwise (fun a b ha hb hba hab => ?_) (hordered _) (hordered _)
    have ha' := (hsort modules).mem_iff.mp ha
    have hb' := (hsort modules).mem_iff.mp (hperm.mem_iff.mpr hb)
    exact hinj a ha' b hb' (le_antisymm hab hba)
  have hnames := congrArg (List.map Prod.fst) heq
  rw [List.map_map, List.map_map] at hnames
  exact hnames

end Order

/-! ### Resolutions -/

section Resolutions

variable (names : List String) (catalog : List Module)

/-- The parts of a resolution of names. -/
lemma ofSelection_names :
    ofSelection (names.map Choice.name) catalog =
      let table := Module.tableOf catalog
      let filtered := filterConflicts (namedClosure table names)
      { modules := sortByPriority filtered.kept
        included := (closure table (names.filterMap (Table.find? table))).added
        excluded := filtered.excluded
        ambiguities := filtered.ambiguities
        unknown := (names.filter fun n => (Table.find? table n).isNone).eraseDups } := by
  rw [ofSelection, chosen_names]
  rfl

lemma nodup_names_namedClosure :
    ((namedClosure (Module.tableOf catalog) names).map Module.name).Nodup :=
  nodup_names_closure (nameKeyed_tableOf catalog) _

lemma nodup_names_kept {modules : List Module} (h : (modules.map Module.name).Nodup) :
    ((filterConflicts modules).kept.map Module.name).Nodup :=
  h.sublist (List.filter_sublist.map Module.name)

lemma mem_names_filterMap (table : Table String Module) (hkey : NameKeyed table) {name : String} :
    name ∈ (names.filterMap (Table.find? table)).map Module.name ↔
      name ∈ names ∧ (Table.find? table name).isSome = true := by
  constructor
  · intro h
    obtain ⟨m, hm, rfl⟩ := List.mem_map.mp h
    obtain ⟨other, hother, hfind⟩ := List.mem_filterMap.mp hm
    rw [hkey other m hfind]
    exact ⟨hother, by rw [hfind]; rfl⟩
  · rintro ⟨hname, hknown⟩
    obtain ⟨m, hm⟩ := Option.isSome_iff_exists.mp hknown
    exact List.mem_map.mpr ⟨m, List.mem_filterMap.mpr ⟨name, hname, hm⟩, hkey name m hm⟩

end Resolutions

/-- Two resolutions that come to the same, the order of their parts apart. -/
structure SameSets (r r' : Resolution) : Prop where
  installed : ∀ name, name ∈ r.names ↔ name ∈ r'.names
  included : ∀ name, name ∈ r.included ↔ name ∈ r'.included
  excluded : ∀ name, name ∈ r.excluded ↔ name ∈ r'.excluded
  unknown : ∀ name, name ∈ r.unknown ↔ name ∈ r'.unknown
  ambiguities : ∀ p, p ∈ r.ambiguities.map Ambiguity.pair ↔ p ∈ r'.ambiguities.map Ambiguity.pair

section Presentations

variable {names names' : List String} {catalog catalog' : List Module}
  (hnodup : (catalog.map Module.name).Nodup) (hnodup' : (catalog'.map Module.name).Nodup)
  (hcatalog : Restated catalog catalog') (hcatalog' : Restated catalog' catalog)

include hnodup hnodup' hcatalog in
lemma isSome_find?_of_restated {name : String}
    (h : (Table.find? (Module.tableOf catalog) name).isSome = true) :
    (Table.find? (Module.tableOf catalog') name).isSome = true := by
  obtain ⟨m, hm⟩ := Option.isSome_iff_exists.mp h
  obtain ⟨m', hm', -⟩ := restates_tableOf hnodup hnodup' hcatalog name m hm
  exact Option.isSome_iff_exists.mpr ⟨m', hm'⟩

variable (hnames : ∀ name, name ∈ names ↔ name ∈ names')

include hnodup hnodup' hcatalog hnames

lemma restated_closures :
    Restated (namedClosure (Module.tableOf catalog) names)
      (namedClosure (Module.tableOf catalog') names') :=
  restated_namedClosure (nameKeyed_tableOf catalog) (nameKeyed_tableOf catalog')
    (restates_tableOf hnodup hnodup' hcatalog) fun name => (hnames name).mp

include hcatalog'

lemma mem_included_of_restated {name : String}
    (h : name ∈ (ofSelection (names.map Choice.name) catalog).included) :
    name ∈ (ofSelection (names'.map Choice.name) catalog').included := by
  rw [ofSelection_names] at h ⊢
  obtain ⟨hmem, hnot⟩ := (mem_added_closure (nameKeyed_tableOf catalog) _).mp h
  refine (mem_added_closure (nameKeyed_tableOf catalog') _).mpr ⟨?_, fun hselected => hnot ?_⟩
  · exact (restated_closures hnodup hnodup' hcatalog hnames).mem_names hmem
  · obtain ⟨hname, hknown⟩ :=
      (mem_names_filterMap names' _ (nameKeyed_tableOf catalog')).mp hselected
    refine (mem_names_filterMap names _ (nameKeyed_tableOf catalog)).mpr
      ⟨(hnames name).mpr hname, ?_⟩
    exact isSome_find?_of_restated hnodup' hnodup hcatalog' hknown

omit hcatalog in
lemma mem_unknown_of_restated {name : String}
    (h : name ∈ (ofSelection (names.map Choice.name) catalog).unknown) :
    name ∈ (ofSelection (names'.map Choice.name) catalog').unknown := by
  rw [ofSelection_names] at h ⊢
  simp only [List.mem_eraseDups, List.mem_filter] at h ⊢
  refine ⟨(hnames name).mp h.1, ?_⟩
  by_contra hknown
  have hthere : (Table.find? (Module.tableOf catalog') name).isSome = true :=
    Option.isSome_iff_ne_none.mpr (by simpa using hknown)
  have hsome := isSome_find?_of_restated hnodup' hnodup hcatalog' hthere
  simp [Option.isNone_iff_eq_none.mp h.2] at hsome

lemma sameSets_of_restated :
    SameSets (ofSelection (names.map Choice.name) catalog)
      (ofSelection (names'.map Choice.name) catalog') := by
  have hclosure := restated_closures hnodup hnodup' hcatalog hnames
  have hclosure' := restated_closures hnodup' hnodup hcatalog' fun name => (hnames name).symm
  have hdistinct := nodup_names_namedClosure names catalog
  have hdistinct' := nodup_names_namedClosure names' catalog'
  constructor
  · intro name
    have hinstalled (l : List Module) :
        name ∈ (sortByPriority l).map Module.name ↔ name ∈ l.map Module.name :=
      ((perm_sortByPriority l).map Module.name).mem_iff
    rw [ofSelection_names, ofSelection_names, Resolution.names, Resolution.names, hinstalled,
      hinstalled]
    exact ⟨(hclosure.kept hclosure').mem_names, (hclosure'.kept hclosure).mem_names⟩
  · intro name
    exact ⟨mem_included_of_restated hnodup hnodup' hcatalog hcatalog' hnames,
      mem_included_of_restated hnodup' hnodup hcatalog' hcatalog fun name => (hnames name).symm⟩
  · intro name
    rw [ofSelection_names, ofSelection_names]
    exact ⟨hclosure.mem_excluded, hclosure'.mem_excluded⟩
  · intro name
    exact ⟨mem_unknown_of_restated hnodup hnodup' hcatalog' hnames,
      mem_unknown_of_restated hnodup' hnodup hcatalog fun name => (hnames name).symm⟩
  · intro p
    rw [ofSelection_names, ofSelection_names]
    exact ⟨hclosure.mem_pairs hdistinct hdistinct', hclosure'.mem_pairs hdistinct' hdistinct⟩

lemma names_eq_of_restated
    (hpriorities : ((ofSelection (names.map Choice.name) catalog).modules.map
      Module.priority).Nodup) :
    (ofSelection (names.map Choice.name) catalog).names =
      (ofSelection (names'.map Choice.name) catalog').names := by
  have hclosure := restated_closures hnodup hnodup' hcatalog hnames
  have hclosure' := restated_closures hnodup' hnodup hcatalog' fun name => (hnames name).symm
  rw [ofSelection_names] at hpriorities ⊢
  rw [ofSelection_names]
  refine (hclosure.kept hclosure').names_sortByPriority (hclosure'.kept hclosure)
    (nodup_names_kept (nodup_names_namedClosure names catalog))
    (nodup_names_kept (nodup_names_namedClosure names' catalog')) ?_
  exact ((perm_sortByPriority _).map Module.priority).nodup_iff.mp hpriorities

end Presentations

/-- A resolution does not depend on the order in which things are presented: two selections of the
same names, from catalogs that differ in the order of their modules and in the order in which these
name others, come to the same sets, and to the same order of installation if the priorities of what
is installed differ. The order of the catalog alone changes nothing at all. -/
theorem ofSelection_of_areReordered {names names' : List String} {catalog catalog' : List Module}
    (hnodup : (catalog.map Module.name).Nodup) (hnames : ∀ name, name ∈ names ↔ name ∈ names')
    (hcatalog : Module.AreReordered catalog catalog') :
    let r := ofSelection (names.map Choice.name) catalog
    let r' := ofSelection (names'.map Choice.name) catalog'
    SameSets r r' ∧ ((r.modules.map Module.priority).Nodup → r.names = r'.names) ∧
      ∀ permuted, catalog.Perm permuted → ofSelection (names.map Choice.name) permuted = r := by
  obtain ⟨hrestated, hrestated'⟩ := restated_of_areReordered hcatalog
  have hnodup' : (catalog'.map Module.name).Nodup :=
    (perm_names_of_areReordered hcatalog).nodup_iff.mp hnodup
  refine ⟨sameSets_of_restated hnodup hnodup' hrestated hrestated' hnames,
    names_eq_of_restated hnodup hnodup' hrestated hrestated' hnames, fun permuted hperm => ?_⟩
  have hlookup := Module.find?_tableOf_perm hnodup hperm
  rw [ofSelection_names, ofSelection_names]
  simp only [namedClosure, ← hlookup, closure_congr hlookup.symm]

/-- Two selections from a catalog with a circle, a module that nobody offers and two modules that
exclude each other, with everything in the opposite order. -/
theorem ofSelection_of_areReordered_of_circle :
    let a : Module := ⟨"a", "", "a.json", ["b", "c"], ["d", "e"], 1⟩
    let b : Module := ⟨"b", "", "b.json", ["a", "d"], [], 3⟩
    let c : Module := ⟨"c", "", "c.json", ["e"], [], 2⟩
    let d : Module := ⟨"d", "", "d.json", [], [], 0⟩
    let e : Module := ⟨"e", "", "e.json", [], ["a"], 0⟩
    let a' : Module := { a with includes := ["c", "b"], excludes := ["e", "d"] }
    let r := ofSelection (["a", "x"].map Choice.name) [a, b, c, d, e]
    let r' := ofSelection (["x", "a", "a"].map Choice.name) [e, d, c, b, a']
    ([a, b, c, d, e].map Module.name).Nodup ∧
      (∀ name, name ∈ ["a", "x"] ↔ name ∈ ["x", "a", "a"]) ∧
      Module.AreReordered [a, b, c, d, e] [e, d, c, b, a'] ∧
      SameSets r r' ∧ r.names = ["b", "c"] ∧ r'.names = ["b", "c"] ∧ r.included ≠ r'.included := by
  intro a b c d e a' r r'
  have hnodup : ([a, b, c, d, e].map Module.name).Nodup := by decide
  have hnames : ∀ name, name ∈ ["a", "x"] ↔ name ∈ ["x", "a", "a"] := by
    intro name
    simp only [List.mem_cons, List.not_mem_nil, or_false]
    tauto
  have ha : a.IsReordering a' := ⟨rfl, rfl, rfl, rfl, by decide, by decide⟩
  have hcatalog : Module.AreReordered [a, b, c, d, e] [e, d, c, b, a'] := by
    refine ⟨[a', b, c, d, e], .cons ha (.cons (.refl b) (.cons (.refl c) (.cons (.refl d)
      (.cons (.refl e) .nil)))), ?_⟩
    exact List.perm_reverse.mpr (.refl _)
  obtain ⟨hsame, horder, -⟩ := ofSelection_of_areReordered hnodup hnames hcatalog
  have hpriorities : r.modules.map Module.priority = [3, 2] := by cbv
  have hinstalled : r.names = ["b", "c"] := by cbv
  have hincluded : r.included = ["b", "d", "c", "e"] := by cbv
  have hincluded' : r'.included = ["c", "e", "b", "d"] := by cbv
  have hinstalled' : r'.names = ["b", "c"] := by
    rw [← horder (by rw [hpriorities]; decide), hinstalled]
  refine ⟨hnodup, hnames, hcatalog, hsame, hinstalled, hinstalled', ?_⟩
  rw [hincluded, hincluded']
  decide

end Resolution

end Scaffold
