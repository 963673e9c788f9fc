import Scaffold.Proofs.DumpReading
import Scaffold.Proofs.ModuleLookup
import Scaffold.Proofs.TableKeys

/-!
# The modules of a template by name

A template is refused if one of its modules has the name of an earlier one, and the first such name
is reported. What is looked up by name afterwards, in the template itself and when a selection is
resolved, is kept in tables in which a later entry takes the place of an earlier one. The refusal is
what makes them lose no module.
-/

namespace Scaffold

open Document Schema

/-! ### The first name that repeats an earlier one -/

/-- All names of a list before this one differ from one another, and it is one of them. -/
def IsFirstRepeated (names : List String) (name : String) : Prop :=
  ∃ before after, names = before ++ name :: after ∧ before.Nodup ∧ name ∈ before

namespace Template

lemma firstRepeated?_eq_none_iff {seen names : List String} :
    firstRepeated? seen names = none ↔ names.Nodup ∧ ∀ name ∈ names, name ∉ seen := by
  induction names generalizing seen with
  | nil => simp [firstRepeated?]
  | cons name rest ih =>
    rw [firstRepeated?]
    split
    · next hseen => simp [hseen]
    · next hnew =>
      rw [ih, List.nodup_cons, List.forall_mem_cons]
      simp only [List.mem_cons, not_or]
      constructor
      · rintro ⟨hrest, hapart⟩
        exact ⟨⟨fun hmem => (hapart name hmem).1 rfl, hrest⟩, hnew, fun x hx => (hapart x hx).2⟩
      · rintro ⟨⟨hname, hrest⟩, -, hapart⟩
        exact ⟨hrest, fun x hx => ⟨fun hsame => hname (hsame ▸ hx), hapart x hx⟩⟩

/-- The names before the one that is found differ from one another and from those seen. -/
lemma exists_of_firstRepeated? {seen names : List String} {name : String}
    (h : firstRepeated? seen names = some name) :
    ∃ before after, names = before ++ name :: after ∧ before.Nodup ∧
      (∀ other ∈ before, other ∉ seen) ∧ (name ∈ seen ∨ name ∈ before) := by
  induction names generalizing seen with
  | nil => cases h
  | cons first rest ih =>
    rw [firstRepeated?] at h
    split at h
    · next hseen =>
      obtain rfl := Option.some.inj h
      exact ⟨[], rest, rfl, List.nodup_nil, by simp, .inl hseen⟩
    · next hnew =>
      obtain ⟨before, after, rfl, hnodup, hapart, hname⟩ := ih h
      have hfirst : first ∉ before := fun hmem => hapart first hmem List.mem_cons_self
      refine ⟨first :: before, after, rfl, List.nodup_cons.mpr ⟨hfirst, hnodup⟩, ?_, ?_⟩
      · refine List.forall_mem_cons.mpr ⟨hnew, fun other hother => ?_⟩
        exact fun hmem => hapart other hother (List.mem_cons_of_mem first hmem)
      · simp only [List.mem_cons] at hname ⊢
        tauto

variable {t : Template}

lemma checkNames_eq_valid_iff :
    t.checkNames = .valid t ↔ (t.modules.map Module.name).Nodup := by
  unfold checkNames
  cases hfirst : firstRepeated? [] (t.modules.map Module.name) with
  | none => exact iff_of_true rfl (firstRepeated?_eq_none_iff.mp hfirst).1
  | some name =>
    refine iff_of_false (by rintro ⟨⟩) fun hnodup => ?_
    rw [firstRepeated?_eq_none_iff.mpr ⟨hnodup, by simp⟩] at hfirst
    cases hfirst

/-- A template that is refused for its names is refused for the first that repeats another. -/
lemma checkNames_cases (t : Template) :
    t.checkNames = .valid t ∨ ∃ name, IsFirstRepeated (t.modules.map Module.name) name ∧
      t.checkNames = .fail (.duplicateName (Text.quoted name)) := by
  unfold checkNames
  cases hfirst : firstRepeated? [] (t.modules.map Module.name) with
  | none => exact .inl rfl
  | some name =>
    obtain ⟨before, after, hnames, hnodup, -, hname⟩ := exists_of_firstRepeated? hfirst
    exact .inr ⟨name, ⟨before, after, hnames, hnodup, by simpa using hname⟩, rfl⟩

/-! ### Reading -/

/-- A document of a template whose fields and modules are valid each by itself. The modules are
given as a list of documents. -/
structure HasValidParts (entries : Entries) (documents : List Value) (t : Template) : Prop where
  name : required entries (.single "name") Schema.text = .valid t.name
  description : Schema.optional entries (.single "description") "" Schema.text =
    .valid t.description
  url : Schema.optional entries (.single "url") "" Schema.text = .valid t.url
  given : Table.find? entries (.string "modules") = some (.list documents)
  modules : List.Forall₂ (fun document m => Module.read document = .valid m) documents t.modules

/-- All that is left to be checked of such a template are the names of its modules. -/
lemma HasValidParts.read_eq {entries : Entries} {documents : List Value}
    (h : t.HasValidParts entries documents) : read (.map entries) = t.checkNames := by
  have hlist : nullableList .notTuple Module.read (.list documents) = .valid t.modules :=
    Checked.items_eq_valid_iff.mpr h.modules
  have hmodules : Schema.optional entries (.single "modules") []
      (nullableList .notTuple Module.read) = .valid t.modules := by
    simp [Schema.optional, FieldName.given?, FieldName.single, h.given, hlist]
  change readFields entries = _
  rw [readFields, h.name, h.description, h.url, hmodules]
  rfl

/-! ### Look-ups -/

/-- What is looked up by name loses no module of a template: its table has an entry for each module,
in order, and a selection of names of its modules stands for these modules and for nothing unknown.
-/
structure IsLossless (t : Template) : Prop where
  table : t.moduleTable = t.modules.map fun m => (m.name, m)
  module? : ∀ m ∈ t.modules, t.module? m.name = some m
  selection : ∀ names : List String, (∀ name ∈ names, name ∈ t.modules.map Module.name) →
    let selected := names.map Choice.name
    let c := Resolution.chosen selected t.modules
    (Resolution.ofSelection selected t.modules).unknown = [] ∧
      ∀ m ∈ t.modules, m.name ∈ names → m ∈ (Resolution.closure c.table c.modules).modules

end Template

namespace Resolution

variable {modules : List Module} {names : List String}

lemma unknown_of_names (h : ∀ name ∈ names, name ∈ modules.map Module.name) :
    (ofSelection (names.map Choice.name) modules).unknown = [] := by
  change (chosen (names.map Choice.name) modules).unknown = []
  have hnone : (names.filter fun n => (Table.find? (Module.tableOf modules) n).isNone) = [] := by
    refine List.filter_eq_nil_iff.mpr fun name hname => ?_
    obtain ⟨m, hm⟩ := Option.isSome_iff_exists.mp (Module.isSome_find?_tableOf.mpr (h name hname))
    simp [hm]
  rw [chosen_names, hnone]
  rfl

/-- A module that is selected by its name belongs to the closure itself. -/
lemma mem_closure_of_mem (hnodup : (modules.map Module.name).Nodup) {m : Module}
    (hm : m ∈ modules) (hname : m.name ∈ names) :
    let c := chosen (names.map Choice.name) modules
    m ∈ (closure c.table c.modules).modules := by
  intro c
  have hfind : Table.find? (Module.tableOf modules) m.name = some m :=
    (Module.find?_tableOf hnodup).mpr ⟨hm, rfl⟩
  have hkey := nameKeyed_tableOf modules
  have hc : c = _ := chosen_names names modules
  rw [hc, mem_closure_of_names hkey]
  refine ⟨?_, hfind⟩
  rw [names_closure _ hkey, List.mem_append, mem_names_distinct]
  exact .inl (List.mem_map_of_mem (List.mem_filterMap.mpr ⟨m.name, hname, hfind⟩))

end Resolution

namespace Template

variable {t : Template}

/-- It is the difference of the names, and nothing else, that makes the look-ups lossless. -/
lemma isLossless_iff : t.IsLossless ↔ (t.modules.map Module.name).Nodup := by
  constructor
  · intro h
    have hkeys : (Table.keys t.moduleTable).Nodup := Table.nodup_keys_ofPairs _
    rwa [h.table, Module.keys_pairs] at hkeys
  · intro h
    exact {
      table := Module.tableOf_eq h
      module? := fun _ hm => (Module.find?_tableOf h).mpr ⟨hm, rfl⟩
      selection := fun _ hnames => ⟨Resolution.unknown_of_names hnames,
        fun _ hm hname => Resolution.mem_closure_of_mem h hm hname⟩ }

/-- A template whose parts are valid by themselves is read exactly if the names of its modules
differ from one another. Otherwise it is refused for the first name that repeats an earlier one. No
template that is read loses a module where modules are looked up by name. -/
theorem read_tellsModulesApart {entries : Entries} {documents : List Value} {t : Template}
    (h : t.HasValidParts entries documents) :
    let names := t.modules.map Module.name
    ((∃ u, read (.map entries) = .valid u) ↔ names.Nodup) ∧
      (names.Nodup → read (.map entries) = .valid t) ∧
      (¬names.Nodup → ∃ name, IsFirstRepeated names name ∧
        ∃ cause : Cause, read (.map entries) = .fail cause ∧ cause.code = "value_error" ∧
          cause.message? .value =
            some ("Value error, duplicate module name " ++ Text.quoted name)) ∧
      ∀ v u, read v = .valid u → u.IsLossless := by
  intro names
  rw [h.read_eq]
  have hrefused : ¬names.Nodup → ∃ name, IsFirstRepeated names name ∧
      t.checkNames = .fail (.duplicateName (Text.quoted name)) := fun hnames =>
    (checkNames_cases t).resolve_left (mt checkNames_eq_valid_iff.mp hnames)
  refine ⟨⟨fun ⟨u, hu⟩ => ?_, fun hnames => ⟨t, checkNames_eq_valid_iff.mpr hnames⟩⟩,
    checkNames_eq_valid_iff.mpr, fun hnames => ?_, fun v u hread => ?_⟩
  · by_contra hnames
    obtain ⟨name, -, hfail⟩ := hrefused hnames
    rw [hfail] at hu
    cases hu
  · obtain ⟨name, hfirst, hfail⟩ := hrefused hnames
    exact ⟨name, hfirst, .duplicateName (Text.quoted name), hfail, rfl, rfl⟩
  · exact isLossless_iff.mpr (checkNames_eq_valid_iff.mp (isNamed_of_read v u hread).2)

/-- Four modules, of which the last two have the names of the first two the other way round: the
name reported is that of the third. -/
theorem read_tellsModulesApart_of_four :
    let document (name : String) := Value.record [("name", .string name), ("path", .string "p")]
    let m (name : String) : Module := ⟨name, "", "p", [], [], 0⟩
    let documents := [document "a", document "b", document "b", document "a"]
    let entries := entriesOf [("name", .string "t"), ("modules", .list documents)]
    let names := ["a", "b", "b", "a"]
    HasValidParts entries documents ⟨"t", "", "", names.map m⟩ ∧ ¬names.Nodup ∧
      (∃ name, IsFirstRepeated names name ∧ ∃ cause : Cause, read (.map entries) = .fail cause ∧
        cause.message? .value =
          some ("Value error, duplicate module name " ++ Text.quoted name)) ∧
      IsFirstRepeated names "b" := by
  intro document m documents entries names
  have hparts : HasValidParts entries documents ⟨"t", "", "", names.map m⟩ :=
    ⟨rfl, rfl, rfl, rfl, .cons rfl (.cons rfl (.cons rfl (.cons rfl .nil)))⟩
  have hnames : ¬names.Nodup := by decide
  obtain ⟨name, hfirst, cause, hfail, -, hmessage⟩ :=
    (read_tellsModulesApart hparts).2.2.1 hnames
  exact ⟨hparts, hnames, ⟨name, hfirst, cause, hfail, hmessage⟩, ["a", "b"], ["a"], rfl,
    by decide, by decide⟩

end Template

end Scaffold
