import Mathlib.Data.Set.Insert
import Scaffold.Proofs.IncludeClosure

/-!
# The order of discovery

The discovery works through an agenda, on which what a module includes is put before the names that
are still to be looked at. What comes of this is the order depth first: a name that is new is
followed by all that its module brings in, and only then by what the names after it bring in. There
is only one such order for an agenda. So the discovery agrees with the recursion that goes from a
name into what its module includes, and that hands on what has been visited from name to name and
from root to root.
-/

namespace Scaffold.Resolution

variable {table : Table String Module}

/-- The names that a list of names brings in, depth first, given those that have been visited. A name
that the table does not know, or that has been visited, brings in nothing. A new name brings in
itself and then what its module includes, before the rest of the list is looked at. -/
inductive BringsIn (table : Table String Module) :
    Set String → List String → List String → Prop
  | nil {visited : Set String} : BringsIn table visited [] []
  | skip {visited : Set String} {name : String} {names found : List String} :
    Table.find? table name = none ∨ name ∈ visited → BringsIn table visited names found →
    BringsIn table visited (name :: names) found
  | enter {visited : Set String} {name : String} {names below found : List String} {m : Module} :
    Table.find? table name = some m → name ∉ visited →
    BringsIn table (insert name visited) m.includes below →
    BringsIn table (visited ∪ {other | other ∈ name :: below}) names found →
    BringsIn table visited (name :: names) (name :: below ++ found)

/-! ### Sets of names that have been visited -/

section Visited

variable (name : String) (names visited : List String)

lemma setOf_mem_cons :
    {other | other ∈ name :: visited} = insert name {other | other ∈ visited} := by
  ext other
  simp

lemma setOf_mem_append :
    {other | other ∈ names ++ visited} = {other | other ∈ visited} ∪ {other | other ∈ names} := by
  ext other
  simp [or_comm]

lemma union_setOf_mem_append (seen : Set String) (first second : List String) :
    seen ∪ {other | other ∈ first ++ second} =
      seen ∪ {other | other ∈ first} ∪ {other | other ∈ second} := by
  ext other
  simp [or_assoc]

end Visited

/-! ### One list after the other -/

/-- Of two lists the second is looked at with all visited that the first brings in. -/
lemma BringsIn.of_append {visited : Set String} {names rest found : List String}
    (h : BringsIn table visited (names ++ rest) found) :
    ∃ first second, found = first ++ second ∧ BringsIn table visited names first ∧
      BringsIn table (visited ∪ {other | other ∈ first}) rest second := by
  induction names generalizing visited found with
  | nil => exact ⟨[], found, rfl, .nil, by simpa using h⟩
  | cons name names ih =>
    cases h with
    | skip hskip h =>
      obtain ⟨first, second, rfl, hfirst, hsecond⟩ := ih h
      exact ⟨first, second, rfl, .skip hskip hfirst, hsecond⟩
    | @enter _ _ _ below _ m hfind hv hbelow h =>
      obtain ⟨first, second, rfl, hfirst, hsecond⟩ := ih h
      refine ⟨name :: below ++ first, second, (List.append_assoc _ _ _).symm,
        .enter hfind hv hbelow hfirst, ?_⟩
      rwa [union_setOf_mem_append]

/-- Two lists of names bring in, one after the other, what they bring in together. -/
lemma BringsIn.append {visited : Set String} {names rest first second : List String}
    (hfirst : BringsIn table visited names first)
    (hsecond : BringsIn table (visited ∪ {other | other ∈ first}) rest second) :
    BringsIn table visited (names ++ rest) (first ++ second) := by
  induction hfirst with
  | nil => simpa using hsecond
  | skip hskip _ ih => exact .skip hskip (ih hsecond)
  | @enter visited name names below found m hfind hv hbelow _ _ ih =>
    rw [List.append_assoc]
    refine .enter hfind hv hbelow (ih ?_)
    rwa [← union_setOf_mem_append]

/-- What a list of names brings in is determined. -/
lemma BringsIn.unique {visited : Set String} {names found found' : List String}
    (h : BringsIn table visited names found) (h' : BringsIn table visited names found') :
    found = found' := by
  induction h generalizing found' with
  | nil =>
    cases h'
    rfl
  | skip hskip _ ih =>
    cases h' with
    | skip _ hrest => exact ih hrest
    | enter hfind hv => simp [hfind, hv] at hskip
  | enter hfind hv _ _ ihbelow ihrest =>
    cases h' with
    | skip hskip => simp [hfind, hv] at hskip
    | enter hfind' _ hbelow' hrest' =>
      obtain rfl := Option.some.inj (hfind.symm.trans hfind')
      obtain rfl := ihbelow hbelow'
      rw [ihrest hrest']

/-! ### The agenda -/

/-- The discovery finds the names of its agenda depth first. -/
lemma bringsIn_discover (table : Table String Module) (visited : List String)
    (agenda : List (List String)) :
    BringsIn table {name | name ∈ visited} agenda.flatten (discover table visited agenda) := by
  induction visited, agenda using discover.induct table with
  | case1 visited =>
    rw [discover]
    exact .nil
  | case2 visited later ih =>
    rw [discover]
    exact ih
  | case3 visited name names later hfind ih =>
    rw [discover_skip (.inl hfind)]
    exact .skip (.inl hfind) ih
  | case4 visited name names later m hfind hv ih =>
    rw [discover_skip (.inr hv)]
    exact .skip (.inr hv) ih
  | case5 visited name names later m hfind hv ih =>
    rw [discover_enter hfind hv]
    rw [setOf_mem_cons] at ih
    obtain ⟨below, found, hfound, hbelow, hlater⟩ := BringsIn.of_append ih
    have hvisited : insert name {other | other ∈ visited} ∪ {other | other ∈ below} =
        {other | other ∈ visited} ∪ {other | other ∈ name :: below} := by
      ext other
      simp [or_assoc, or_left_comm]
    rw [hvisited] at hlater
    rw [hfound]
    exact .enter hfind hv hbelow hlater

/-! ### The recursion -/

lemma length_unvisited_append {visited below : List String} {name : String} {m : Module}
    (h : Table.find? table name = some m) (hv : name ∉ visited) :
    (unvisited table (name :: below ++ visited)).length < (unvisited table visited).length := by
  refine lt_of_le_of_lt ?_ (length_unvisited_cons h hv)
  apply List.Sublist.length_le
  apply List.monotone_filter_right
  intro pair hpair
  simp only [List.mem_append, List.mem_cons, decide_eq_true_eq] at hpair ⊢
  tauto

/-- The names that a list of names brings in, from left to right. A name that the table knows and
that has not been visited is visited and comes first, then what its module includes is gone through,
and then the names after it. -/
def preorder (table : Table String Module) (visited : List String) : List String → List String
  | [] => []
  | name :: names =>
    match _h : Table.find? table name with
    | none => preorder table visited names
    | some m =>
      if _hv : name ∈ visited then preorder table visited names
      else
        let below := preorder table (name :: visited) m.includes
        name :: below ++ preorder table (name :: below ++ visited) names
termination_by names => ((unvisited table visited).length, names.length)
decreasing_by
  · exact Prod.Lex.right _ (by simp)
  · exact Prod.Lex.right _ (by simp)
  · exact Prod.Lex.left _ _ (length_unvisited_cons _h _hv)
  · exact Prod.Lex.left _ _ (length_unvisited_append _h _hv)

/-- The names that modules bring in, one module after the other. -/
def preorderOfRoots (table : Table String Module) (visited : List String) :
    List Module → List String
  | [] => []
  | root :: rest =>
    let found := preorder table visited root.includes
    found ++ preorderOfRoots table (found ++ visited) rest

lemma preorder_skip {visited : List String} {name : String} {names : List String}
    (h : Table.find? table name = none ∨ name ∈ visited) :
    preorder table visited (name :: names) = preorder table visited names := by
  rw [preorder]
  split
  · rfl
  · next m hfind =>
    have hv : name ∈ visited := h.resolve_left (by simp [hfind])
    rw [dif_pos hv]

lemma preorder_enter {visited : List String} {name : String} {names : List String} {m : Module}
    (hfind : Table.find? table name = some m) (hv : name ∉ visited) :
    preorder table visited (name :: names) =
      name :: preorder table (name :: visited) m.includes ++
        preorder table (name :: preorder table (name :: visited) m.includes ++ visited) names := by
  rw [preorder]
  split
  · next hnone =>
    rw [hnone] at hfind
    cases hfind
  · next m' hfind' =>
    obtain rfl := Option.some.inj (hfind.symm.trans hfind')
    rw [dif_neg hv]

lemma bringsIn_preorder (table : Table String Module) (visited names : List String) :
    BringsIn table {other | other ∈ visited} names (preorder table visited names) := by
  induction visited, names using preorder.induct table with
  | case1 visited =>
    rw [preorder]
    exact .nil
  | case2 visited name names hfind ih =>
    rw [preorder_skip (.inl hfind)]
    exact .skip (.inl hfind) ih
  | case3 visited name names m hfind hv ih =>
    rw [preorder_skip (.inr hv)]
    exact .skip (.inr hv) ih
  | case4 visited name names m hfind hv below ihbelow ihrest =>
    rw [preorder_enter hfind hv]
    rw [setOf_mem_cons] at ihbelow
    rw [setOf_mem_append] at ihrest
    exact .enter hfind hv ihbelow ihrest

lemma bringsIn_preorderOfRoots (table : Table String Module) (visited : List String)
    (roots : List Module) :
    BringsIn table {other | other ∈ visited} (roots.flatMap Module.includes)
      (preorderOfRoots table visited roots) := by
  induction roots generalizing visited with
  | nil => exact .nil
  | cons root rest ih =>
    rw [List.flatMap_cons, preorderOfRoots]
    refine (bringsIn_preorder table visited root.includes).append ?_
    rw [← setOf_mem_append]
    exact ih _

/-- The names that a selection brings in are those that the recursion finds from its modules, one
after the other and without repetitions, in the same order. All selected names have been visited
when the recursion starts. -/
theorem added_closure_eq_preorder (table : Table String Module) (selected : List Module) :
    (closure table selected).added =
      preorderOfRoots table (selected.map Module.name)
        (selected.eraseDupsBy fun m n => m.name == n.name) := by
  have hdiscovered := bringsIn_discover table ((distinct selected).map Module.name)
    ((distinct selected).map Module.includes)
  have hrecursive := bringsIn_preorderOfRoots table (selected.map Module.name) (distinct selected)
  have hvisited : {name | name ∈ (distinct selected).map Module.name} =
      {name | name ∈ selected.map Module.name} := by
    ext name
    exact mem_names_distinct
  rw [hvisited] at hdiscovered
  rw [← distinct_eq]
  exact hdiscovered.unique hrecursive

/-- A circle, a name that two modules include, and one that nobody knows. -/
example :
    let a : Module := ⟨"a", "", "", ["b", "e"], [], 0⟩
    let d : Module := ⟨"d", "", "", ["c", "f", "e"], [], 0⟩
    preorderOfRoots
      (Module.tableOf [a, ⟨"b", "", "", ["c", "a"], [], 0⟩, ⟨"c", "", "", ["b"], [], 0⟩, d,
        ⟨"e", "", "", [], [], 0⟩])
      ["a", "d"] [a, d] = ["b", "c", "e"] := by
  cbv

end Scaffold.Resolution
