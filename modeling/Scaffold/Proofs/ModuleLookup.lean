import Mathlib.Data.List.Induction
import Scaffold.Proofs.IncludeClosure
import Scaffold.Proofs.TableKeys
import Scaffold.Resolution.Basic

/-!
# Looking modules up

The look-ups of a resolution: in the table of a list of modules, and of the names that a user
selects. Where the names of the list differ from one another, its table knows exactly its modules,
and the order of the list is lost.
-/

namespace Scaffold

namespace Module

variable {modules : List Module} {name : String} {m : Module}

lemma keys_pairs (modules : List Module) :
    Table.keys (modules.map fun m => (m.name, m)) = modules.map Module.name :=
  List.map_map

/-- The table of a list knows the names of the list and no others. -/
lemma isSome_find?_tableOf :
    (Table.find? (tableOf modules) name).isSome = true ↔ name ∈ modules.map Module.name := by
  rw [tableOf, Table.isSome_find?_iff, Table.keys_ofPairs, List.mem_eraseDups, keys_pairs]

/-- Where names differ, each module of the list has its place in the table. -/
lemma tableOf_eq (h : (modules.map Module.name).Nodup) :
    tableOf modules = modules.map fun m => (m.name, m) :=
  Table.ofPairs_eq_self (by rwa [keys_pairs])

lemma find?_tableOf (h : (modules.map Module.name).Nodup) :
    Table.find? (tableOf modules) name = some m ↔ m ∈ modules ∧ m.name = name := by
  rw [tableOf_eq h]
  constructor
  · intro hfind
    obtain ⟨k, hk, heq⟩ := List.mem_map.mp (Table.mem_of_find? hfind)
    cases heq
    exact ⟨hk, rfl⟩
  · rintro ⟨hm, rfl⟩
    have hnodup : (Table.keys (modules.map fun m => (m.name, m))).Nodup := by rwa [keys_pairs]
    exact Table.find?_of_mem hnodup (List.mem_map_of_mem (f := fun m => (m.name, m)) hm)

/-- Where names differ, a look-up does not depend on the order of the list. -/
lemma find?_tableOf_perm {modules' : List Module} (h : (modules.map Module.name).Nodup)
    (hperm : modules.Perm modules') :
    Table.find? (tableOf modules) = Table.find? (tableOf modules') := by
  have h' : (modules'.map Module.name).Nodup := (hperm.map Module.name).nodup_iff.mp h
  funext name
  ext m
  rw [find?_tableOf h, find?_tableOf h', hperm.mem_iff]

end Module

namespace Resolution

variable {table : Table String Module} {names : List String}

/-! ### What names stand for -/

/-- Names that are selected stand for the modules known under them. Each of the others is remembered
once, and the table is left as it is. -/
lemma foldl_take_names (names : List String) (c : Chosen) :
    (names.map Choice.name).foldl Chosen.take c =
      { table := c.table
        modules := c.modules ++ names.filterMap (Table.find? c.table)
        unknown := c.unknown ++
          (names.filter fun n => (Table.find? c.table n).isNone && n ∉ c.unknown).eraseDups } := by
  induction names generalizing c with
  | nil => simp
  | cons name rest ih =>
    rw [List.map_cons, List.foldl_cons, ih, Chosen.take]
    cases hname : Table.find? c.table name with
    | some m => simp [hname]
    | none =>
      dsimp only
      by_cases hmem : name ∈ c.unknown
      · simp [hname, hmem]
      · have hrest : (rest.filter fun n =>
            (Table.find? c.table n).isNone && n ∉ c.unknown ++ [name]) =
            (rest.filter fun n => (Table.find? c.table n).isNone && n ∉ c.unknown).filter
              fun n => !n == name := by
          rw [List.filter_filter]
          congr 1
          funext n
          by_cases hn : n = name <;> simp [hn, Bool.and_comm]
        rw [if_neg hmem]
        dsimp only
        rw [hrest, List.filterMap_cons_none hname, List.filter_cons_of_pos (by simp [hname, hmem]),
          List.eraseDups_cons, List.append_assoc, List.singleton_append]

section Chosen

variable (names : List String) (catalog : List Module)

lemma chosen_names :
    chosen (names.map Choice.name) catalog =
      { table := Module.tableOf catalog
        modules := names.filterMap (Table.find? (Module.tableOf catalog))
        unknown :=
          (names.filter fun n => (Table.find? (Module.tableOf catalog) n).isNone).eraseDups } := by
  rw [chosen, foldl_take_names]
  simp

end Chosen

/-! ### The closure of what names stand for -/

/-- The record of a name is the table's, also if the name is selected. -/
lemma recordOf?_of_names (h : NameKeyed table) (name : String) :
    recordOf? table (names.filterMap (Table.find? table)) name = Table.find? table name := by
  rw [recordOf?]
  cases hfirst : (names.filterMap (Table.find? table)).find? fun m => m.name = name with
  | none => rw [Option.none_or]
  | some m =>
    obtain ⟨other, -, hfind⟩ := List.mem_filterMap.mp (List.mem_of_find?_eq_some hfirst)
    have hname : m.name = name := by simpa using List.find?_some hfirst
    rw [Option.some_or, ← hname, h other m hfind, hfind]

/-- The closure of what names stand for has the entries of the table under its names. -/
lemma mem_closure_of_names (h : NameKeyed table) {m : Module} :
    m ∈ (closure table (names.filterMap (Table.find? table))).modules ↔
      m.name ∈ (closure table (names.filterMap (Table.find? table))).modules.map Module.name ∧
        Table.find? table m.name = some m := by
  have hentry : ∀ n ∈ (closure table (names.filterMap (Table.find? table))).modules,
      Table.find? table n.name = some n := by
    intro n hn
    simp only [closure, List.mem_append, List.mem_filterMap] at hn
    rcases hn with hn | ⟨name, -, hfind⟩
    · obtain ⟨name, -, hfind⟩ :=
        List.mem_filterMap.mp (List.mem_of_find?_eq_some (mem_distinct.mp hn))
      rw [h name n hfind, hfind]
    · rw [h name n hfind, hfind]
  constructor
  · intro hm
    exact ⟨List.mem_map_of_mem hm, hentry m hm⟩
  · rintro ⟨hname, hfind⟩
    obtain ⟨n, hn, hsame⟩ := List.mem_map.mp hname
    have hnm := hentry n hn
    rw [hsame, hfind] at hnm
    exact Option.some.inj hnm ▸ hn

/-- What a selection brings in are the names of its closure that are not selected. -/
lemma mem_added_closure (h : NameKeyed table) (selected : List Module) {name : String} :
    name ∈ (closure table selected).added ↔
      name ∈ (closure table selected).modules.map Module.name ∧
        name ∉ selected.map Module.name := by
  have hnot : name ∈ (closure table selected).added → name ∉ selected.map Module.name := by
    intro hadded hname
    exact not_mem_of_mem_discover hadded (mem_names_distinct.mpr hname)
  rw [names_closure selected h, List.mem_append, mem_names_distinct]
  constructor
  · intro hadded
    exact ⟨.inr hadded, hnot hadded⟩
  · rintro ⟨hname | hadded, hselected⟩
    · exact absurd hname hselected
    · exact hadded

lemma nodup_names_closure (h : NameKeyed table) (selected : List Module) :
    ((closure table selected).modules.map Module.name).Nodup := by
  rw [names_closure selected h]
  refine (nodup_names_distinctFrom [] selected).append nodup_discover ?_
  intro name hname hadded
  exact not_mem_of_mem_discover hadded hname

/-- The discovery asks the table for nothing but its entries. -/
lemma discover_congr {table' : Table String Module}
    (h : Table.find? table = Table.find? table') (visited : List String)
    (agenda : List (List String)) :
    discover table visited agenda = discover table' visited agenda := by
  induction visited, agenda using discover.induct table with
  | case1 visited => simp only [discover]
  | case2 visited later ih => simpa only [discover] using ih
  | case3 visited name names later hfind ih =>
    rw [discover_skip (.inl hfind), ih, discover_skip (.inl (h ▸ hfind))]
  | case4 visited name names later m hfind hv ih =>
    rw [discover_skip (.inr hv), ih, discover_skip (.inr hv)]
  | case5 visited name names later m hfind hv ih =>
    rw [discover_enter hfind hv, ih, discover_enter (h ▸ hfind) hv]

lemma closure_congr {table' : Table String Module} (h : Table.find? table = Table.find? table')
    (selected : List Module) : closure table selected = closure table' selected := by
  simp only [closure, discover_congr h, h]

end Resolution

end Scaffold
