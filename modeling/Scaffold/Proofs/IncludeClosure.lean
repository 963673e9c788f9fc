import Mathlib.Data.List.Nodup
import Mathlib.Data.Set.Basic
import Mathlib.Order.Bounds.Defs
import Scaffold.Resolution.Closure

/-!
# The include closure as a least closed set

The depth first discovery is compared with the sets of names that are closed under inclusion: every
selected name is a member, and so is every known name that the record of a member includes. The
names of a closure form the least of these sets, each name once, and the closure itself is the
selection without repetitions followed by what it brings in.
-/

namespace Scaffold.Resolution

/-- Every module of the table is kept under its own name. -/
def NameKeyed (table : Table String Module) : Prop :=
  ∀ name m, Table.find? table name = some m → m.name = name

/-- The record that counts for a name: the first selected module of that name, or else the entry of
the table. -/
def recordOf? (table : Table String Module) (selected : List Module) (name : String) :
    Option Module :=
  (selected.find? fun m => m.name = name).or (Table.find? table name)

/-- The names of a list that the table knows belong to a set. -/
def Covers (table : Table String Module) (S : Set String) (names : List String) : Prop :=
  ∀ name ∈ names, (Table.find? table name).isSome → name ∈ S

/-- A set of names that holds the selection and, with a name, all known names that its record
includes. -/
structure IncludeClosed (table : Table String Module) (selection : List Module)
    (S : Set String) : Prop where
  selected : ∀ m ∈ selection, m.name ∈ S
  includes : ∀ name ∈ S, ∀ m, recordOf? table selection name = some m → Covers table S m.includes

lemma NameKeyed.insert {table : Table String Module} (h : NameKeyed table) (m : Module) :
    NameKeyed (Table.insert table m.name m) := by
  intro name other hfind
  by_cases hname : m.name = name
  · subst hname
    rw [Table.find?_insert_self _ _ (by simp)] at hfind
    exact (Option.some.inj hfind) ▸ rfl
  · rw [Table.find?_insert_ne _ _ (by simpa using hname)] at hfind
    exact h name other hfind

/-- A catalog is kept by name, whatever names repeat in it. -/
lemma nameKeyed_tableOf (modules : List Module) : NameKeyed (Module.tableOf modules) := by
  have hfold : ∀ (table : Table String Module), NameKeyed table →
      NameKeyed ((modules.map fun m => (m.name, m)).foldl
        (fun t pair => Table.insert t pair.1 pair.2) table) := by
    induction modules with
    | nil => exact fun table h => h
    | cons m rest ih => exact fun table h => ih _ (h.insert m)
  exact hfold [] (fun name m h => by simp [Table.find?] at h)

/-! ### The selection without repetitions -/

lemma distinctFrom_eq (seen : List String) (modules : List Module) :
    distinctFrom seen modules =
      (modules.filter fun m => m.name ∉ seen).eraseDupsBy fun m n => m.name == n.name := by
  induction modules generalizing seen with
  | nil => rfl
  | cons m rest ih =>
    by_cases hm : m.name ∈ seen
    · simp [distinctFrom, hm, ih]
    · have hrest : (rest.filter fun n => n.name ∉ m.name :: seen) =
          (rest.filter fun n => n.name ∉ seen).filter fun n => (n.name == m.name) = false := by
        rw [List.filter_filter]
        congr 1
        funext n
        simp [List.mem_cons, not_or]
      rw [distinctFrom, if_neg hm, ih, hrest, List.filter_cons_of_pos (by simpa using hm),
        List.eraseDupsBy_cons]

lemma distinct_eq (modules : List Module) :
    distinct modules = modules.eraseDupsBy fun m n => m.name == n.name := by
  rw [distinct, distinctFrom_eq]
  simp

lemma mem_distinctFrom {seen : List String} {modules : List Module} {m : Module} :
    m ∈ distinctFrom seen modules ↔
      m.name ∉ seen ∧ (modules.find? fun n => n.name = m.name) = some m := by
  induction modules generalizing seen with
  | nil => simp [distinctFrom]
  | cons n rest ih =>
    by_cases hn : n.name = m.name
    · by_cases hseen : n.name ∈ seen
      · simp [distinctFrom, hseen, ih, hn ▸ hseen]
      · have hfirst : ((n :: rest).find? fun k => k.name = m.name) = some n :=
          List.find?_cons_of_pos (by simpa using hn)
        rw [distinctFrom, if_neg hseen, List.mem_cons, ih, hfirst, Option.some.injEq]
        simp [hn, hn ▸ hseen, eq_comm]
    · have hne : m ≠ n := fun h => hn (h ▸ rfl)
      by_cases hseen : n.name ∈ seen
      · simp [distinctFrom, hseen, ih, hn]
      · simp [distinctFrom, hseen, ih, hn, hne, Ne.symm hn]

/-- The modules kept are those that the selection holds first under their name. -/
lemma mem_distinct {modules : List Module} {m : Module} :
    m ∈ distinct modules ↔ (modules.find? fun n => n.name = m.name) = some m := by
  simp [distinct, mem_distinctFrom]

lemma nodup_names_distinctFrom (seen : List String) (modules : List Module) :
    ((distinctFrom seen modules).map Module.name).Nodup := by
  induction modules generalizing seen with
  | nil => exact List.nodup_nil
  | cons m rest ih =>
    by_cases hm : m.name ∈ seen
    · rw [distinctFrom, if_pos hm]
      exact ih seen
    · rw [distinctFrom, if_neg hm, List.map_cons, List.nodup_cons]
      refine ⟨fun hmem => ?_, ih _⟩
      obtain ⟨n, hn, hname⟩ := List.mem_map.mp hmem
      exact (mem_distinctFrom.mp hn).1 (by simp [hname])

lemma mem_names_distinct {modules : List Module} {name : String} :
    name ∈ (distinct modules).map Module.name ↔ name ∈ modules.map Module.name := by
  constructor
  · intro h
    obtain ⟨m, hm, rfl⟩ := List.mem_map.mp h
    exact List.mem_map_of_mem (List.mem_of_find?_eq_some (mem_distinct.mp hm))
  · intro h
    obtain ⟨m, hm, rfl⟩ := List.mem_map.mp h
    have hfound : (modules.find? fun n => n.name = m.name).isSome :=
      List.find?_isSome.mpr ⟨m, hm, by simp⟩
    obtain ⟨n, hn⟩ := Option.isSome_iff_exists.mp hfound
    have hname : n.name = m.name := by simpa using List.find?_some hn
    exact List.mem_map.mpr ⟨n, mem_distinct.mpr (by rw [hname]; exact hn), hname⟩

/-! ### What the discovery finds -/

section Discovery

variable {table : Table String Module} {visited : List String} {agenda : List (List String)}

lemma isSome_of_mem_discover {name : String} (h : name ∈ discover table visited agenda) :
    (Table.find? table name).isSome := by
  fun_induction discover table visited agenda with
  | case1 visited => simp at h
  | case2 visited later ih => exact ih h
  | case3 visited other names later hfind ih => exact ih h
  | case4 visited other names later m hfind hv ih => exact ih h
  | case5 visited other names later m hfind hv ih =>
    rcases List.mem_cons.mp h with rfl | h
    · simp [hfind]
    · exact ih h

lemma not_mem_of_mem_discover {name : String} (h : name ∈ discover table visited agenda) :
    name ∉ visited := by
  fun_induction discover table visited agenda with
  | case1 visited => simp at h
  | case2 visited later ih => exact ih h
  | case3 visited other names later hfind ih => exact ih h
  | case4 visited other names later m hfind hv ih => exact ih h
  | case5 visited other names later m hfind hv ih =>
    rcases List.mem_cons.mp h with rfl | h
    · exact hv
    · exact fun hmem => ih h (List.mem_cons_of_mem _ hmem)

lemma nodup_discover : (discover table visited agenda).Nodup := by
  fun_induction discover table visited agenda with
  | case1 visited => exact List.nodup_nil
  | case2 visited later ih => exact ih
  | case3 visited other names later hfind ih => exact ih
  | case4 visited other names later m hfind hv ih => exact ih
  | case5 visited other names later m hfind hv ih =>
    exact List.nodup_cons.mpr
      ⟨fun hmem => not_mem_of_mem_discover hmem List.mem_cons_self, ih⟩

/-- What is found lies in every set that covers the agenda and the entries of its unvisited
members. -/
lemma mem_of_mem_discover {S : Set String} {name : String}
    (hS : ∀ other ∈ S, other ∉ visited → ∀ m, Table.find? table other = some m →
      Covers table S m.includes)
    (hagenda : ∀ names ∈ agenda, Covers table S names)
    (h : name ∈ discover table visited agenda) : name ∈ S := by
  fun_induction discover table visited agenda with
  | case1 visited => simp at h
  | case2 visited later ih =>
    exact ih hS (fun names hn => hagenda names (List.mem_cons_of_mem _ hn)) h
  | case3 visited other names later hfind ih =>
    refine ih hS (List.forall_mem_cons.mpr ⟨?_, fun l hl => ?_⟩) h
    · exact fun n hn => hagenda _ List.mem_cons_self n (List.mem_cons_of_mem _ hn)
    · exact hagenda l (List.mem_cons_of_mem _ hl)
  | case4 visited other names later m hfind hv ih =>
    refine ih hS (List.forall_mem_cons.mpr ⟨?_, fun l hl => ?_⟩) h
    · exact fun n hn => hagenda _ List.mem_cons_self n (List.mem_cons_of_mem _ hn)
    · exact hagenda l (List.mem_cons_of_mem _ hl)
  | case5 visited other names later m hfind hv ih =>
    have hother : other ∈ S :=
      hagenda _ List.mem_cons_self other List.mem_cons_self (by simp [hfind])
    rcases List.mem_cons.mp h with rfl | h
    · exact hother
    · refine ih (fun n hn hnv => hS n hn fun hmem => hnv (List.mem_cons_of_mem _ hmem)) ?_ h
      refine List.forall_mem_cons.mpr ⟨hS other hother hv m hfind, ?_⟩
      refine List.forall_mem_cons.mpr ⟨?_, fun l hl => hagenda l (List.mem_cons_of_mem _ hl)⟩
      exact fun n hn => hagenda _ List.mem_cons_self n (List.mem_cons_of_mem _ hn)

/-- The names that have been visited when the discovery comes to its end. -/
def reached (table : Table String Module) (visited : List String) (agenda : List (List String)) :
    Set String :=
  {name | name ∈ visited ∨ name ∈ discover table visited agenda}

lemma reached_nil_cons (later : List (List String)) :
    reached table visited ([] :: later) = reached table visited later := by
  simp only [reached, discover]

lemma discover_skip {name : String} {names : List String} {later : List (List String)}
    (h : Table.find? table name = none ∨ name ∈ visited) :
    discover table visited ((name :: names) :: later) = discover table visited (names :: later) := by
  rw [discover]
  split
  · rfl
  · next m hfind =>
    have hv : name ∈ visited := h.resolve_left (by simp [hfind])
    rw [dif_pos hv]

lemma discover_enter {name : String} {names : List String} {later : List (List String)}
    {m : Module} (hfind : Table.find? table name = some m) (hv : name ∉ visited) :
    discover table visited ((name :: names) :: later) =
      name :: discover table (name :: visited) (m.includes :: names :: later) := by
  rw [discover]
  split
  · simp_all
  · next m' hm' =>
    obtain rfl : m = m' := by simpa [hfind] using hm'
    rw [dif_neg hv]

lemma reached_skip {name : String} {names : List String} {later : List (List String)}
    (h : Table.find? table name = none ∨ name ∈ visited) :
    reached table visited ((name :: names) :: later) = reached table visited (names :: later) := by
  simp only [reached, discover_skip h]

lemma reached_enter {name : String} {names : List String} {later : List (List String)}
    {m : Module} (hfind : Table.find? table name = some m) (hv : name ∉ visited) :
    reached table visited ((name :: names) :: later) =
      reached table (name :: visited) (m.includes :: names :: later) := by
  ext other
  simp only [reached, Set.mem_ofPred_eq, discover_enter hfind hv, List.mem_cons]
  tauto

/-- The known names of the agenda are reached. -/
lemma covers_reached : ∀ names ∈ agenda, Covers table (reached table visited agenda) names := by
  induction visited, agenda using discover.induct table with
  | case1 visited => simp
  | case2 visited later ih =>
    rw [reached_nil_cons]
    exact List.forall_mem_cons.mpr ⟨fun name h => by simp at h, ih⟩
  | case3 visited name names later hfind ih =>
    rw [reached_skip (.inl hfind)]
    obtain ⟨hnames, hlater⟩ := List.forall_mem_cons.mp ih
    refine List.forall_mem_cons.mpr ⟨List.forall_mem_cons.mpr ⟨fun h => ?_, hnames⟩, hlater⟩
    simp [hfind] at h
  | case4 visited name names later m hfind hv ih =>
    rw [reached_skip (.inr hv)]
    obtain ⟨hnames, hlater⟩ := List.forall_mem_cons.mp ih
    exact List.forall_mem_cons.mpr ⟨List.forall_mem_cons.mpr ⟨fun _ => .inl hv, hnames⟩, hlater⟩
  | case5 visited name names later m hfind hv ih =>
    rw [reached_enter hfind hv]
    obtain ⟨-, hrest⟩ := List.forall_mem_cons.mp ih
    obtain ⟨hnames, hlater⟩ := List.forall_mem_cons.mp hrest
    refine List.forall_mem_cons.mpr ⟨List.forall_mem_cons.mpr ⟨fun _ => ?_, hnames⟩, hlater⟩
    exact .inl List.mem_cons_self

/-- The known names that a discovered module includes are reached, although they may still be on
the agenda when the module is discovered. -/
lemma covers_reached_includes {name : String} {m : Module}
    (h : name ∈ discover table visited agenda) (hm : Table.find? table name = some m) :
    Covers table (reached table visited agenda) m.includes := by
  -- What a module includes comes first on the agenda right after its discovery, so the lemma above
  -- has it there; later steps only take from the agenda what is reached.
  induction visited, agenda using discover.induct table with
  | case1 visited => simp [discover] at h
  | case2 visited later ih =>
    rw [reached_nil_cons]
    exact ih (by simpa [discover] using h)
  | case3 visited other names later hfind ih =>
    rw [reached_skip (.inl hfind)]
    rw [discover_skip (.inl hfind)] at h
    exact ih h
  | case4 visited other names later m' hfind hv ih =>
    rw [reached_skip (.inr hv)]
    rw [discover_skip (.inr hv)] at h
    exact ih h
  | case5 visited other names later m' hfind hv ih =>
    rw [reached_enter hfind hv]
    rw [discover_enter hfind hv] at h
    rcases List.mem_cons.mp h with rfl | h
    · obtain rfl : m' = m := by simpa [hfind] using hm
      exact covers_reached _ List.mem_cons_self
    · exact ih h

end Discovery

/-! ### The closure -/

section Closure

variable {table : Table String Module} (selected : List Module)

lemma names_closure (h : NameKeyed table) :
    (closure table selected).modules.map Module.name =
      (distinct selected).map Module.name ++ (closure table selected).added := by
  have hadded : ∀ names : List String, (∀ name ∈ names, (Table.find? table name).isSome) →
      (names.filterMap (Table.find? table)).map Module.name = names := by
    intro names hnames
    induction names with
    | nil => rfl
    | cons name rest ih =>
      obtain ⟨hname, hrest⟩ := List.forall_mem_cons.mp hnames
      obtain ⟨m, hm⟩ := Option.isSome_iff_exists.mp hname
      rw [List.filterMap_cons_some hm, List.map_cons, ih hrest, h name m hm]
  simp only [closure, List.map_append]
  rw [hadded _ fun name hname => isSome_of_mem_discover hname]

/-- The names of the closure are those that the discovery reaches from the selection. -/
lemma mem_names_closure (h : NameKeyed table) {name : String} :
    name ∈ (closure table selected).modules.map Module.name ↔
      name ∈ reached table ((distinct selected).map Module.name)
        ((distinct selected).map Module.includes) := by
  rw [names_closure selected h, List.mem_append]
  rfl

/-- The record of a member is a selected module exactly if its name is selected. -/
lemma recordOf?_eq_some {name : String} {m : Module}
    (h : recordOf? table selected name = some m) :
    (m ∈ distinct selected ∧ m.name = name) ∨
      (name ∉ selected.map Module.name ∧ Table.find? table name = some m) := by
  rw [recordOf?, Option.or_eq_some_iff] at h
  rcases h with h | ⟨hnone, h⟩
  · have hname : m.name = name := by simpa using List.find?_some h
    exact .inl ⟨mem_distinct.mpr (by rw [hname]; exact h), hname⟩
  · refine .inr ⟨fun hmem => ?_, h⟩
    obtain ⟨n, hn, hname⟩ := List.mem_map.mp hmem
    have := List.find?_eq_none.mp hnone n hn
    simp [hname] at this

lemma includeClosed_names (h : NameKeyed table) :
    IncludeClosed table selected
      {name | name ∈ (closure table selected).modules.map Module.name} := by
  have hset : {name | name ∈ (closure table selected).modules.map Module.name} =
      reached table ((distinct selected).map Module.name)
        ((distinct selected).map Module.includes) := by
    ext name
    exact mem_names_closure selected h
  rw [hset]
  constructor
  · exact fun m hm => .inl (mem_names_distinct.mpr (List.mem_map_of_mem hm))
  · intro name hname m hm
    rcases recordOf?_eq_some selected hm with ⟨hroot, -⟩ | ⟨hnot, hfind⟩
    · exact covers_reached _ (List.mem_map_of_mem hroot)
    · rcases hname with hname | hname
      · exact absurd (mem_names_distinct.mp hname) hnot
      · exact covers_reached_includes hname hfind

lemma names_subset_of_includeClosed (h : NameKeyed table) {S : Set String}
    (hS : IncludeClosed table selected S) :
    {name | name ∈ (closure table selected).modules.map Module.name} ⊆ S := by
  have hroots : ∀ m ∈ distinct selected, m.name ∈ S := fun m hm =>
    hS.selected m (List.mem_of_find?_eq_some (mem_distinct.mp hm))
  intro name hname
  rcases (mem_names_closure selected h).mp hname with hname | hname
  · obtain ⟨m, hm, rfl⟩ := List.mem_map.mp hname
    exact hroots m hm
  · refine mem_of_mem_discover (fun other hother hv m hm => ?_) (fun names hnames => ?_) hname
    · refine hS.includes other hother m ?_
      have hnone : (selected.find? fun n => n.name = other) = none := by
        refine List.find?_eq_none.mpr fun n hn hno => hv (mem_names_distinct.mpr ?_)
        exact List.mem_map.mpr ⟨n, hn, by simpa using hno⟩
      rw [recordOf?, hnone, Option.none_or, hm]
    · obtain ⟨m, hm, rfl⟩ := List.mem_map.mp hnames
      refine hS.includes m.name (hroots m hm) m ?_
      rw [recordOf?, mem_distinct.mp hm, Option.some_or]

/-- The names of an include closure form the least set that holds the selection and all known names
that its members include, for every graph of inclusions. No name occurs twice, and the closure is
the selection without repetitions followed by the modules that it brings in. -/
theorem closure_isLeast_includeClosed (table : Table String Module) (selected : List Module)
    (h : NameKeyed table) :
    IsLeast {S | IncludeClosed table selected S}
        {name | name ∈ (closure table selected).modules.map Module.name} ∧
      ((closure table selected).modules.map Module.name).Nodup ∧
      (∃ brought : List Module,
        (closure table selected).modules =
          (selected.eraseDupsBy fun m n => m.name == n.name) ++ brought ∧
        brought.map Module.name = (closure table selected).added ∧
        ∀ m ∈ brought, Table.find? table m.name = some m) ∧
      List.Disjoint (closure table selected).added (selected.map Module.name) := by
  have hdisjoint : List.Disjoint (closure table selected).added (selected.map Module.name) :=
    fun name hadded hname => not_mem_of_mem_discover hadded (mem_names_distinct.mpr hname)
  refine ⟨⟨includeClosed_names selected h, ?_⟩, ?_, ?_, hdisjoint⟩
  · exact fun S hS => names_subset_of_includeClosed selected h hS
  · rw [names_closure selected h]
    refine (nodup_names_distinctFrom [] selected).append nodup_discover ?_
    exact fun name hname hadded => hdisjoint hadded (mem_names_distinct.mp hname)
  · refine ⟨(closure table selected).added.filterMap (Table.find? table), ?_, ?_, ?_⟩
    · rw [← distinct_eq]
      rfl
    · have hnames := names_closure selected h
      simp only [closure, List.map_append, List.append_cancel_left_eq] at hnames
      exact hnames
    · intro m hm
      obtain ⟨name, -, hfind⟩ := List.mem_filterMap.mp hm
      rw [h name m hfind, hfind]

/-- Two modules that include each other and themselves, a name that nobody knows, and a selection
with a repetition. -/
theorem closure_isLeast_includeClosed_of_circle :
    let a : Module := ⟨"a", "", "a.json", ["b", "x", "a"], [], 0⟩
    let b : Module := ⟨"b", "", "b.json", ["c", "b", "a"], [], 0⟩
    let c : Module := ⟨"c", "", "c.json", ["a"], [], 0⟩
    let table := Module.tableOf [a, b, c]
    NameKeyed table ∧ (closure table [a, a]).added = ["b", "c"] ∧
      IsLeast {S | IncludeClosed table [a, a] S} {name | name ∈ ["a", "b", "c"]} := by
  intro a b c table
  have hroots : distinct [a, a] = [a] := by decide
  have hadded : discover table ["a"] [["b", "x", "a"]] = ["b", "c"] := by
    simp [discover, table, Module.tableOf, Table.ofPairs, Table.insert, Table.find?, a, b, c]
  have hclosure : closure table [a, a] = ⟨[a, b, c], ["b", "c"]⟩ := by
    rw [closure, hroots]
    simp only [List.map_cons, List.map_nil]
    rw [hadded]
    decide
  have hleast := (closure_isLeast_includeClosed table [a, a] (nameKeyed_tableOf _)).1
  rw [hclosure] at hleast
  exact ⟨nameKeyed_tableOf _, by rw [hclosure], hleast⟩

end Closure

end Scaffold.Resolution
