import Mathlib.Algebra.GroupWithZero.Nat
import Scaffold.Proofs.BatchRecords
import Scaffold.Proofs.CatalogContainment
import Scaffold.Proofs.PresentationOrder
import Scaffold.Proofs.ReadableFile

/-!
# Runs of installations

An installation is followed module by module: the catalog of each is looked for on the disk that the
ones before it leave, and is either passed over or carried out as a batch. What counts as selected is
settled before the first module and is the same for every guard of the run.
-/

namespace Scaffold

/-! ### What guards see of the selection -/

section Selection

variable {context : Context} {default : Option String} {d : Disk} {c : Condition} {v : Verdict}

/-- A condition that asks for a module passes only if it names one that is selected. -/
lemma Condition.passed_of_moduleExists (hkind : c.kind = .moduleExists)
    (h : c.judge context default d = .ok v) :
    v.passed = true ↔ ∃ name ∈ context.selected, c.value = some name ∧ name ≠ "" := by
  simp only [judge, hkind, Except.ok.injEq] at h
  rw [← h, judgeModule]
  simp only [← given?_eq_some_iff]
  cases given? c.value with
  | none => simp
  | some name => simp

end Selection

namespace Batch

/-- Every guard of a batch has its verdict on the site that its instruction comes to, and the trace
has the verdict on each condition: one that asks for a module passes exactly if its name is among the
given ones. -/
def SeesSelected (names : List String) (log : Option Log.Store) (context : Context)
    (is : List Instruction) (s : Site) : Prop :=
  ∀ k (_ : k < is.length) g, is[k].condition = some g →
    ∃ a v, (is[k].attempt context (siteAt log context is s k).disk).1 = .ok a ∧ a.guard = some v ∧
      List.Forall₂ (fun c verdict =>
        c.judge context (some is[k].path) (siteAt log context is s k).disk = .ok verdict ∧
          (c.kind = .moduleExists → ∀ name, c.value = some name → name ≠ "" →
            (verdict.passed = true ↔ name ∈ names))) g.conditions v.results

lemma seesSelected {store : Log.Store} {context : Context} {is : List Instruction} {s s' : Site}
    {summary : Summary} (h : (applyAll (some store) context is).outcome s = (.ok summary, s')) :
    SeesSelected context.selected (some store) context is s := by
  obtain ⟨results, s₁, hrun, -⟩ := Job.outcome_bind_eq_ok.mp h
  obtain ⟨hsettled, -, -⟩ := (outcome_applyFrom_eq_ok_iff _ _ _ _).mp hrun
  intro k hk g hg
  have happly : (is[k].apply (some store) context k).outcome (siteAt (some store) context is s k) =
      (resultAt (some store) context is s k is[k], _) := rfl
  obtain ⟨a, d, hattempt, -, -⟩ := apply_of_isSettled happly (hsettled k hk)
  obtain ⟨v, hguard, hv⟩ := guard_of_some (attempt_eq_ok hattempt).1 hg
  refine ⟨a, v, congrArg Prod.fst hattempt, hguard, ?_⟩
  refine ((ConditionGroup.judge_eq_ok_iff _ _ _).mp hv).1.imp fun c verdict hverdict =>
    ⟨hverdict, fun hkind name hvalue hname => ?_⟩
  rw [Condition.passed_of_moduleExists hkind hverdict, hvalue]
  simp [hname]

end Batch

namespace Installation

/-! ### One module -/

/-- The site after the line about a module is printed. -/
def announced (m : Module) (s : Site) : Site :=
  { s with printed := s.printed ++ [.info ("Installing module: " ++ m.name)] }

/-- What becomes of a module: it is passed over because of its catalog, and only what is printed has
changed, or its instructions are carried out as a batch. -/
inductive Installs (x : Installation) (m : Module) (s s' : Site) (report : ModuleReport) : Prop
  | passedOver (e : Failure)
    (hload : ModuleInstructions.load x.room x.project.root m s.disk = .error e)
    (hcatalog : e.isCatalog = true) (hreport : report = unusable m e) (hsite : s' = passOver m e s)
  | carriedOut (catalog : ModuleInstructions) (summary : Summary) (s₁ : Site)
    (hload : ModuleInstructions.load x.room x.project.root m s.disk = .ok catalog)
    (hbatch : (applyAll (some x.log) (x.context m) catalog.instructions).outcome (announced m s) =
      (.ok summary, s₁))
    (hreport : report = ⟨m.name, true, none, summary⟩)
    (hsite : s' = { s₁ with printed := s₁.printed ++ [farewell m summary] })

section Module

variable {x : Installation} {m : Module} {s s' : Site} {report : ModuleReport}

/-- A module that comes to a report is passed over or carried out. -/
lemma installs_of_outcome (h : (x.installModule m).outcome s = (.ok report, s')) :
    x.Installs m s s' report := by
  cases hload : ModuleInstructions.load x.room x.project.root m s.disk with
  | error e =>
    cases hcatalog : e.isCatalog with
    | true =>
      rw [outcome_installModule_of_catalog hload hcatalog] at h
      obtain ⟨hreport, rfl⟩ := Prod.mk.inj h
      exact .passedOver e hload hcatalog (Except.ok.inj hreport).symm rfl
    | false =>
      rw [outcome_installModule_of_other hload hcatalog] at h
      cases h
  | ok catalog =>
    have hread : (Job.catching Failure.isCatalog (Job.onDisk fun d =>
        (ModuleInstructions.load x.room x.project.root m d, d))).outcome (announced m s) =
          (.ok (.ok catalog), announced m s) :=
      Job.outcome_catching_of_ok _ (by rw [Job.outcome_onDisk, announced, hload])
    rw [installModule, Job.outcome_bind_of_ok (Job.outcome_print _ s), ← announced,
      Job.outcome_bind_of_ok hread] at h
    obtain ⟨summary, s₁, hbatch, h⟩ := Job.outcome_bind_eq_ok.mp h
    rw [Job.outcome_bind_of_ok (Job.outcome_print _ s₁)] at h
    obtain ⟨hreport, rfl⟩ := Prod.mk.inj h
    exact .carriedOut catalog summary s₁ hload hbatch (Except.ok.inj hreport).symm rfl

lemma Installs.name_eq (h : x.Installs m s s' report) : report.name = m.name := by
  cases h with
  | passedOver e hload hcatalog hreport hsite => rw [hreport, unusable]
  | carriedOut catalog summary s₁ hload hbatch hreport hsite => rw [hreport]

/-- A module that is not loaded counts nothing and leaves the disk and the clock as they are. -/
lemma Installs.of_not_loaded (h : x.Installs m s s' report) (hloaded : report.isLoaded = false) :
    report.summary = .zero ∧ s'.disk = s.disk ∧ s'.clock = s.clock := by
  cases h with
  | passedOver e hload hcatalog hreport hsite =>
    rw [hreport, hsite]
    exact ⟨rfl, rfl, rfl⟩
  | carriedOut catalog summary s₁ hload hbatch hreport hsite =>
    rw [hreport] at hloaded
    cases hloaded

end Module

/-! ### One module after another -/

section Run

variable (x : Installation) (ms : List Module) (s : Site)

/-- The site that the first modules of an installation leave. -/
def siteAt (k : Nat) : Site := ((x.installModules (ms.take k)).outcome s).2

variable {x ms s} {s' s₁ : Site} {m : Module} {report : ModuleReport} {reports : List ModuleReport}

lemma siteAt_succ (h : (x.installModule m).outcome s = (.ok report, s₁)) (k : Nat) :
    x.siteAt (m :: ms) s (k + 1) = x.siteAt ms s₁ k := by
  rw [siteAt, siteAt, List.take_succ_cons, installModules, Job.outcome_bind_of_ok h,
    Job.outcome_bind]
  rcases (x.installModules (ms.take k)).outcome s₁ with ⟨e | later, s'⟩
  · rfl
  · rfl

/-- A run that comes to its reports has one for each module, in order, and each module is installed on
the site that the ones before it leave. -/
lemma installs_of_outcome_installModules
    (h : (x.installModules ms).outcome s = (.ok reports, s')) :
    ∃ _ : reports.length = ms.length, ∀ k (_ : k < ms.length),
      x.Installs ms[k] (x.siteAt ms s k) (x.siteAt ms s (k + 1)) reports[k] := by
  induction ms generalizing s s' reports with
  | nil =>
    obtain ⟨hreports, -⟩ := Prod.mk.inj h
    obtain rfl := Except.ok.inj hreports
    exact ⟨rfl, fun k hk => absurd hk (Nat.not_lt_zero k)⟩
  | cons m rest ih =>
    obtain ⟨report, s₁, hmodule, h⟩ := Job.outcome_bind_eq_ok.mp h
    obtain ⟨later, s₂, hlater, h⟩ := Job.outcome_bind_eq_ok.mp h
    obtain ⟨hreports, -⟩ := Prod.mk.inj h
    obtain rfl := Except.ok.inj hreports
    obtain ⟨hlength, hrest⟩ := ih hlater
    refine ⟨congrArg (· + 1) hlength, fun k hk => ?_⟩
    cases k with
    | zero =>
      rw [siteAt_succ hmodule]
      exact installs_of_outcome hmodule
    | succ k =>
      rw [siteAt_succ hmodule, siteAt_succ hmodule]
      exact hrest k (Nat.lt_of_succ_lt_succ hk)

/-- The first modules of a run that comes to its reports come to theirs. -/
lemma outcome_installModules_take (h : (x.installModules ms).outcome s = (.ok reports, s'))
    {k : Nat} (hk : k ≤ ms.length) :
    (x.installModules (ms.take k)).outcome s = (.ok (reports.take k), x.siteAt ms s k) := by
  rw [← List.take_append_drop k ms, installModules_append] at h
  obtain ⟨first, s₁, hfirst, h⟩ := Job.outcome_bind_eq_ok.mp h
  obtain ⟨later, s₂, -, h⟩ := Job.outcome_bind_eq_ok.mp h
  obtain ⟨hreports, -⟩ := Prod.mk.inj h
  obtain ⟨hlength, -⟩ := installs_of_outcome_installModules hfirst
  rw [List.length_take_of_le hk] at hlength
  rw [← Except.ok.inj hreports, ← hlength, List.take_left, hlength, siteAt, hfirst]

end Run

end Installation

/-! ### The report -/

/-- The reports of modules that are not loaded add nothing to a total. -/
lemma InstallReport.total_eq_sum {count : Summary → ℕ} (hzero : count .zero = 0)
    {r : InstallReport} (h : ∀ m ∈ r.modules, m.isLoaded = false → m.summary = .zero) :
    r.total count = ((r.modules.filter ModuleReport.isLoaded).map fun m => count m.summary).sum := by
  obtain ⟨modules⟩ := r
  rw [total]
  induction modules with
  | nil => rfl
  | cons m rest ih =>
    obtain ⟨hm, hrest⟩ := List.forall_mem_cons.mp h
    rw [List.foldr_cons, ih hrest]
    cases hloaded : m.isLoaded with
    | true => rw [List.filter_cons_of_pos hloaded, List.map_cons, List.sum_cons]
    | false =>
      rw [List.filter_cons_of_neg (by simp [hloaded]), hm hloaded, hzero, Nat.zero_add]

/-- A resolution of names installs neither what it excludes nor what it does not know. -/
lemma Resolution.not_mem_names_ofSelection {names : List String} {catalog : List Module}
    {name : String} (h : name ∈ (ofSelection (names.map Choice.name) catalog).excluded ∨
      name ∈ (ofSelection (names.map Choice.name) catalog).unknown) :
    name ∉ (ofSelection (names.map Choice.name) catalog).modules.map Module.name := by
  rw [ofSelection_names] at h ⊢
  rintro hname
  obtain ⟨m, hm, rfl⟩ := List.mem_map.mp hname
  obtain ⟨hclosure, hkept⟩ := mem_kept_filterConflicts.mp ((perm_sortByPriority _).mem_iff.mp hm)
  rcases h with hexcluded | hunknown
  · exact hkept hexcluded
  · have hfind := (mem_closure_of_names (nameKeyed_tableOf catalog)).mp hclosure
    rw [List.mem_eraseDups, List.mem_filter, hfind.2] at hunknown
    cases hunknown.2

/-- A run of an installation that comes to a report: there is an entry for each module, in order; the
catalog of a module is the one on the disk that the modules before it leave, and the module is passed
over or carried out there; one that is not loaded counts nothing and leaves the disk as it is; every
guard of a batch sees the selection of the installation; and the totals are the sums over the modules
that are loaded. -/
structure Installation.IsRun (x : Installation) (modules : List Module) (s : Site)
    (report : InstallReport) : Prop where
  names : report.modules.map ModuleReport.name = modules.map Module.name
  first : ∀ k ≤ modules.length, (x.installModules (modules.take k)).outcome s =
    (.ok (report.modules.take k), x.siteAt modules s k)
  installs : ∀ k (_ : k < modules.length) (_ : k < report.modules.length),
    x.Installs modules[k] (x.siteAt modules s k) (x.siteAt modules s (k + 1)) report.modules[k]
  unloaded : ∀ k (_ : k < modules.length) (_ : k < report.modules.length),
    report.modules[k].isLoaded = false →
      report.modules[k].summary = .zero ∧
        (x.siteAt modules s (k + 1)).disk = (x.siteAt modules s k).disk ∧
        (x.siteAt modules s (k + 1)).clock = (x.siteAt modules s k).clock
  sees : ∀ k (_ : k < modules.length) catalog,
    ModuleInstructions.load x.room x.project.root modules[k] (x.siteAt modules s k).disk =
        .ok catalog →
      Batch.SeesSelected x.selected (some x.log) (x.context modules[k]) catalog.instructions
        (announced modules[k] (x.siteAt modules s k))
  executed : report.executed =
    ((report.modules.filter ModuleReport.isLoaded).map fun m => m.summary.executed).sum
  skipped : report.skipped =
    ((report.modules.filter ModuleReport.isLoaded).map fun m => m.summary.skipped).sum
  failed : report.failed =
    ((report.modules.filter ModuleReport.isLoaded).map fun m => m.summary.failed).sum

lemma Installation.isRun_of_outcome {x : Installation} {modules : List Module} {s s' : Site}
    {reports : List ModuleReport}
    (h : (x.installModules modules).outcome s = (.ok reports, s')) :
    x.IsRun modules s ⟨reports⟩ := by
  obtain ⟨hlength, hinstalls⟩ := installs_of_outcome_installModules h
  have hzero : ∀ m ∈ reports, m.isLoaded = false → m.summary = .zero := by
    intro m hm hloaded
    obtain ⟨k, hk, rfl⟩ := List.mem_iff_getElem.mp hm
    exact ((hinstalls k (hlength ▸ hk)).of_not_loaded hloaded).1
  refine ⟨?_, fun k => outcome_installModules_take h, fun k hk _ => hinstalls k hk,
    fun k hk _ => (hinstalls k hk).of_not_loaded, ?_,
    InstallReport.total_eq_sum rfl hzero, InstallReport.total_eq_sum rfl hzero,
    InstallReport.total_eq_sum rfl hzero⟩
  · refine List.ext_getElem (by simpa using hlength) fun k hk hk' => ?_
    rw [List.getElem_map, List.getElem_map]
    exact (hinstalls k (by simpa using hk')).name_eq
  · intro k hk catalog hload
    cases hinstalls k hk with
    | passedOver e hload' hcatalog hreport hsite =>
      rw [hload'] at hload
      cases hload
    | carriedOut catalog' summary s₁ hload' hbatch hreport hsite =>
      obtain rfl := Except.ok.inj (hload.symm.trans hload')
      exact Batch.seesSelected hbatch

/-- An installation that comes to its report is a run of its modules with their names selected. What
comes of a resolution of names has among its modules neither what was excluded nor what was unknown,
so that no condition which asks for such a module ever passes. -/
theorem install_isRun {room : Room} {settings : Settings} {project : Project}
    {modules : List Module} {s s' : Site} {report : InstallReport}
    (h : (install room settings project modules).outcome s = (.ok report, s')) :
    let x : Installation := ⟨room, settings, project, modules.map Module.name⟩
    x.IsRun modules s.started report ∧
      ∀ (names : List String) (catalog : List Module),
        let r := Resolution.ofSelection (names.map Choice.name) catalog
        modules = r.modules → ∀ name, name ∈ r.excluded ∨ name ∈ r.unknown →
          name ∉ x.selected ∧
            ∀ (m : Module) (default : Option String) (d : Disk) (c : Condition) (v : Verdict),
              c.kind = .moduleExists → c.value = some name →
                c.judge (x.context m) default d = .ok v → v.passed = false := by
  intro x
  rw [install, Job.outcome_bind_of_ok (Job.outcome_print _ s), ← Site.started] at h
  obtain ⟨reports, s₁, hrun, h⟩ := Job.outcome_bind_eq_ok.mp h
  -- the clean-up has no part in the report
  obtain rfl : ⟨reports⟩ = report := by
    split at h
    · obtain ⟨removed, s₂, -, h⟩ := Job.outcome_bind_eq_ok.mp h
      exact Except.ok.inj (Prod.mk.inj h).1
    · exact Except.ok.inj (Prod.mk.inj h).1
  refine ⟨Installation.isRun_of_outcome hrun, ?_⟩
  intro names catalog r hmodules name hname
  have hnot : name ∉ x.selected := by
    have hnot := Resolution.not_mem_names_ofSelection hname
    rwa [← hmodules] at hnot
  refine ⟨hnot, fun m default d c v hkind hvalue hjudge => ?_⟩
  rw [← Bool.not_eq_true, Condition.passed_of_moduleExists hkind hjudge]
  rintro ⟨other, hother, hsame, -⟩
  obtain rfl := Option.some.inj (hvalue.symm.trans hsame)
  exact hnot hother

/-- The first module writes the catalog of the last one, because that one is given, and nothing for a
module that is not given; the one between them has no catalog, and is given twice. -/
theorem install_isRun_of_four :
    let module (name : String) : Module := ⟨name, "", name, [], [], 0⟩
    let modules := [module "a", module "b", module "c", module "b"]
    let create (path other : String) : List Char :=
      "\x7b\"path\": \"".toList ++ path.toList ++ "\", \"action\": \"CREATE_FILE\", ".toList ++
        "\"content\": \"\x7b\x7d\", \"condition\": ".toList ++
        "\x7b\"type\": \"MODULE_EXISTS\", ".toList ++ "\"value\": \"".toList ++ other.toList ++
        "\"\x7d\x7d".toList
    let catalog := "\x7b\"instructions\": [".toList ++ create "c" "c" ++ ", ".toList ++
      create "b" "d" ++ "]\x7d".toList
    let s : Site := ⟨⟨[(["proj"], .directory),
      (["proj", "a"], .file (Text.Utf8.encode catalog))]⟩, ⟨1000, 1⟩, []⟩
    let x : Installation := ⟨.usual, .default ["home"], ⟨["proj"], "shop"⟩, ["a", "b", "c", "b"]⟩
    let run := install .usual (.default ["home"]) ⟨["proj"], "shop"⟩ modules
    ∃ report s', run.outcome s = (.ok report, s') ∧
      x.IsRun modules s.started report ∧ report.unloaded = ["b", "b"] ∧ report.executed = 1 ∧
      report.skipped = 1 := by
  intro module modules create catalog s x run
  have hshape : (run.outcome s).1.toOption.map
      (fun r => (r.unloaded, r.executed, r.skipped)) = some (["b", "b"], 1, 1) := by
    decide +kernel
  rcases hrun : run.outcome s with ⟨e | report, s'⟩
  · rw [hrun] at hshape
    cases hshape
  · rw [hrun] at hshape
    obtain ⟨hunloaded, hcounts⟩ := Prod.mk.inj (Option.some.inj hshape)
    obtain ⟨hexecuted, hskipped⟩ := Prod.mk.inj hcounts
    exact ⟨report, s', rfl, (install_isRun hrun).1, hunloaded, hexecuted, hskipped⟩

end Scaffold
