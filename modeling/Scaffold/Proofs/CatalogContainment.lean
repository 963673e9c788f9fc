import Scaffold.Install
import Scaffold.Proofs.DiskErrors
import Scaffold.Proofs.JobOutcome

/-!
# What a loader cannot contain

A loader answers with a failure of the catalog for whatever is wrong with a file or its document,
and an installation passes over a module whose catalog fails so. The statements give the exact
condition under which a loader ends in another failure, which ends the installation as well: the
path is too long to be looked at, the file is no text, or its text has a part that has the right
form and cannot be taken in.
-/

namespace Scaffold

open Disk Document

/-! ### Failures that are not the catalog's -/

/-- A result that is a failure, and not one of the catalog. -/
def EscapesCatalog {α : Type} (x : Except Failure α) : Prop :=
  ∃ e, x = .error e ∧ e.isCatalog = false

section Escapes

variable {α β : Type}

@[simp] lemma not_escapesCatalog_ok (a : α) : ¬EscapesCatalog (.ok a) := by
  rintro ⟨e, h, -⟩
  cases h

@[simp] lemma escapesCatalog_error {e : Failure} :
    EscapesCatalog (.error e : Except Failure α) ↔ e.isCatalog = false := by
  constructor
  · rintro ⟨e', h, he'⟩
    rwa [Except.error.inj h]
  · exact fun he => ⟨e, rfl, he⟩

lemma escapesCatalog_bind {x : Except Failure α} {f : α → Except Failure β} :
    EscapesCatalog (x.bind f) ↔ EscapesCatalog x ∨ ∃ a, x = .ok a ∧ EscapesCatalog (f a) := by
  cases x with
  | error e => simp [Except.bind]
  | ok a => simp [Except.bind]

lemma not_escapesCatalog_mapM {f : α → Except Failure β} (h : ∀ a, ¬EscapesCatalog (f a))
    (xs : List α) : ¬EscapesCatalog (xs.mapM f) := by
  rintro ⟨e, he, hother⟩
  obtain ⟨a, -, ha⟩ := exists_of_mapM_eq_error he
  exact h a ⟨e, ha, hother⟩

end Escapes

/-! ### Documents -/

/-- A text of the right form that no document can be made of: a number has too many digits, or lists
and maps are nested too deeply, or a part stands for no value of the kind that it is taken for, or a
chain of maps that stand for one another is too long. -/
def Format.CannotTake (room : Room) (t : List Char) : Format → Prop
  | .json =>
    (∃ digits, Json.readWithin (.all room.json) t = .error (.integerTooLong digits)) ∨
      ∃ container, Json.readWithin (.all room.json) t = .error (.tooDeep container)
  | .yaml =>
    (∃ fault, Yaml.read room.yaml room.chain t = .error (.fault fault)) ∨
      Yaml.read room.yaml room.chain t = .error .tooDeep

/-- The ways in which a document is not read without a failure of its catalog. -/
inductive Disk.EndsReading (room : Room) (d : Disk) (p : Path) : Prop
  | tooLong (h : TooLong d p)
  | undecodable (bytes : List UInt8) (hfile : d.readFile p = .ok bytes) (fault : Text.Utf8.Fault)
    (h : Text.Utf8.decode bytes = .error fault)
  | unparsed (t : List Char) (htext : d.readText p = .ok t)
    (h : (Format.ofPath p).CannotTake room t)

section Document

variable {room : Room} {p : Path} {d : Disk}

lemma parse_escapes_iff {source : String} {t : List Char} (f : Format) :
    EscapesCatalog (f.parse room source t) ↔ f.CannotTake room t := by
  cases f with
  | json =>
    rw [Format.parse, Format.CannotTake]
    rcases Json.readWithin (.all room.json) t with (⟨fault, position⟩ | digits | container) | v
    · simp [Failure.isCatalog]
    · simp [Failure.isCatalog]
    · simp [Failure.isCatalog]
    · simp
  | yaml =>
    rw [Format.parse, Format.CannotTake]
    rcases Yaml.read room.yaml room.chain t with (_ | fault | _) | v
    · simp [Failure.isCatalog]
    · simp [Failure.isCatalog]
    · simp [Failure.isCatalog]
    · simp

/-! A text that its tag does not fit, and three lists in one another where there is room for two. -/

example : Yaml.read Room.usual.yaml Room.usual.chain "name: !!int abc".toList =
    .error (.fault (.noInteger 10 "abc")) := by decide +kernel

example : Yaml.read 2 Room.usual.chain "[[[]]]".toList = .error .tooDeep := by decide +kernel

lemma readText_undecodable_iff {fault : Text.Utf8.Fault} :
    d.readText p = .error (.undecodable fault) ↔
      ∃ bytes, d.readFile p = .ok bytes ∧ Text.Utf8.decode bytes = .error fault := by
  rw [readText]
  cases d.readFile p with
  | error e => simp
  | ok bytes =>
    dsimp only
    cases hdecode : Text.Utf8.decode bytes with
    | error fault' => simp [hdecode]
    | ok t => simp [hdecode]

/-- A document is read, or its catalog fails, unless the path is too long, or the file is no text,
or the text has a part that cannot be taken in. -/
theorem readDocument_escapes_iff :
    EscapesCatalog (d.readDocument room p) ↔ d.EndsReading room p := by
  rw [readDocument]
  cases hholds : d.holds p with
  | error e => exact iff_of_true ⟨_, rfl, rfl⟩ (.tooLong (map_find?_eq_error_iff.mp hholds).1)
  | ok there =>
    have hshort := not_tooLong_of_map_find? hholds
    cases there with
    | false =>
      refine iff_of_false (by simp [Failure.isCatalog]) ?_
      rintro (hlong | ⟨bytes, hfile, -, -⟩ | ⟨t, htext, -⟩)
      · exact hshort hlong
      · rw [holds_of_readFile hfile] at hholds
        cases hholds
      · rw [holds_of_readText htext] at hholds
        cases hholds
    | true =>
      dsimp only
      rcases htext : d.readText p with (e | fault) | t
      · refine iff_of_false (by simp [Failure.isCatalog]) ?_
        rintro (hlong | ⟨bytes, hfile, fault, h⟩ | ⟨t, htext', -⟩)
        · exact hshort hlong
        · rw [readText_undecodable_iff.mpr ⟨bytes, hfile, h⟩] at htext
          cases htext
        · rw [htext'] at htext
          cases htext
      · obtain ⟨bytes, hfile, h⟩ := readText_undecodable_iff.mp htext
        exact iff_of_true ⟨_, rfl, rfl⟩ (.undecodable bytes hfile fault h)
      · rw [parse_escapes_iff]
        constructor
        · exact fun h => .unparsed t htext h
        · rintro (hlong | ⟨bytes, hfile, fault, h⟩ | ⟨t', htext', h⟩)
          · exact absurd hlong hshort
          · rw [readText_undecodable_iff.mpr ⟨bytes, hfile, h⟩] at htext
            cases htext
          · obtain rfl : t = t' := by
              rw [htext] at htext'
              exact Except.ok.inj htext'
            exact h

end Document

/-! ### Loaders -/

lemma not_escapesCatalog_template (source : String) (v : Value) :
    ¬EscapesCatalog (Template.ofDocument source v) := by
  rw [Template.ofDocument]
  split <;> simp [Failure.isCatalog]

lemma not_escapesCatalog_instructions (source : String) (v : Value) :
    ¬EscapesCatalog (ModuleInstructions.ofDocument source v) := by
  unfold ModuleInstructions.ofDocument
  split
  · split <;> simp [Failure.isCatalog]
  · simp [Failure.isCatalog]

namespace TemplateCatalog

/-- Categories of which one has a number for a name that is too long to be written out, and the ones
before it are read. -/
def IsUnwritable (source : String) (c : TemplateCatalog) (entries : Entries) : Prop :=
  ∃ before n v after, entries = before ++ (.int n, v) :: after ∧
    Number.tenTo Text.maxDigits ≤ n.natAbs ∧ ∃ c', addCategories source c before = .ok c'

lemma checkCategory_escapes_iff {category : Scalar} :
    EscapesCatalog (checkCategory category) ↔
      ∃ n, category = .int n ∧ Number.tenTo Text.maxDigits ≤ n.natAbs := by
  unfold checkCategory
  split
  · next n =>
    cases hdecimal : Text.decimal n with
    | error e =>
      have hlong := decimal_eq_error_iff.mp hdecimal
      exact iff_of_true ⟨_, rfl, rfl⟩ ⟨n, rfl, hlong⟩
    | ok written =>
      refine iff_of_false (not_escapesCatalog_ok ()) ?_
      rintro ⟨n', hn, hlong⟩
      obtain rfl := Scalar.int.inj hn
      rw [(decimal_eq_error_iff (e := ⟨⟩)).mpr hlong] at hdecimal
      cases hdecimal
  · next hnumber =>
    refine iff_of_false (not_escapesCatalog_ok ()) ?_
    rintro ⟨n, rfl, -⟩
    exact hnumber n rfl

lemma readCategory_escapes_iff {source : String} {category : Scalar} {v : Value} :
    EscapesCatalog (readCategory source category v) ↔
      ∃ n, category = .int n ∧ Number.tenTo Text.maxDigits ≤ n.natAbs := by
  change EscapesCatalog ((checkCategory category).bind _) ↔ _
  rw [escapesCatalog_bind, checkCategory_escapes_iff, or_iff_left]
  rintro ⟨-, -, h⟩
  revert h
  split
  · exact not_escapesCatalog_mapM (not_escapesCatalog_template _) _
  · simp [Failure.isCatalog]

lemma addCategories_escapes_iff {source : String} {c : TemplateCatalog} {entries : Entries} :
    EscapesCatalog (addCategories source c entries) ↔ IsUnwritable source c entries := by
  -- What has been read so far has no part in what escapes, so the induction is over every catalog.
  induction entries generalizing c with
  | nil =>
    refine iff_of_false (not_escapesCatalog_ok c) ?_
    rintro ⟨before, n, v, after, h, -⟩
    cases before <;> cases h
  | cons entry rest ih =>
    obtain ⟨category, v⟩ := entry
    change EscapesCatalog ((readCategory source category v).bind fun templates =>
      addCategories source (Table.insert c category.text templates) rest) ↔ _
    rw [escapesCatalog_bind, readCategory_escapes_iff]
    simp only [ih]
    constructor
    · rintro (⟨n, rfl, hlong⟩ | ⟨templates, hread, before, n, v', after, rfl, hlong, c', hc'⟩)
      · exact ⟨[], n, v, rest, rfl, hlong, c, rfl⟩
      · refine ⟨(category, v) :: before, n, v', after, rfl, hlong, c', ?_⟩
        rw [addCategories, hread]
        exact hc'
    · rintro ⟨before, n, v', after, h, hlong, c', hc'⟩
      cases before with
      | nil =>
        obtain ⟨hentry, -⟩ := List.cons.inj h
        exact .inl ⟨n, congrArg Prod.fst hentry, hlong⟩
      | cons entry before =>
        obtain ⟨rfl, rfl⟩ := List.cons.inj h
        rw [addCategories] at hc'
        cases hread : readCategory source category v with
        | error e =>
          rw [hread] at hc'
          cases hc'
        | ok templates =>
          rw [hread] at hc'
          exact .inr ⟨templates, rfl, before, n, v', after, rfl, hlong, c', hc'⟩

end TemplateCatalog

section Loaders

variable {room : Room} {p : Path} {d : Disk}

lemma template_load_escapes_iff :
    EscapesCatalog (Template.load room p d) ↔ d.EndsReading room p := by
  rw [Template.load, escapesCatalog_bind, readDocument_escapes_iff, or_iff_left]
  rintro ⟨v, -, h⟩
  exact not_escapesCatalog_template _ _ h

lemma instructions_load_escapes_iff {root : Path} {m : Module} :
    EscapesCatalog (ModuleInstructions.load room root m d) ↔
      d.EndsReading room (root.join (Path.ofString m.path)) := by
  rw [ModuleInstructions.load, escapesCatalog_bind, readDocument_escapes_iff, or_iff_left]
  rintro ⟨v, -, h⟩
  exact not_escapesCatalog_instructions _ _ h

lemma catalog_load_escapes_iff :
    EscapesCatalog (TemplateCatalog.load room p d) ↔
      d.EndsReading room p ∨ ∃ entries, d.readDocument room p = .ok (.map entries) ∧
        TemplateCatalog.IsUnwritable p.text [] entries := by
  rw [TemplateCatalog.load, escapesCatalog_bind, readDocument_escapes_iff]
  refine or_congr Iff.rfl ⟨?_, ?_⟩
  · rintro ⟨v, hread, h⟩
    cases v with
    | map entries => exact ⟨entries, hread, TemplateCatalog.addCategories_escapes_iff.mp h⟩
    | scalar x => simp [TemplateCatalog.ofDocument, Failure.isCatalog] at h
    | list items => simp [TemplateCatalog.ofDocument, Failure.isCatalog] at h
    | set items => simp [TemplateCatalog.ofDocument, Failure.isCatalog] at h
  · rintro ⟨entries, hread, h⟩
    exact ⟨.map entries, hread, TemplateCatalog.addCategories_escapes_iff.mpr h⟩

end Loaders

/-! ### Installations -/

namespace Installation

/-- The site after a module is passed over: only what is printed has changed. -/
def passOver (m : Module) (e : Failure) (s : Site) : Site :=
  { s with
    printed := s.printed ++
      [.info ("Installing module: " ++ m.name),
        .warning ("Module configuration not usable, skipping " ++ m.name ++ ": " ++ e.message)] }

/-- The report on a module that is passed over. -/
def unusable (m : Module) (e : Failure) : ModuleReport := ⟨m.name, false, some e.message, .zero⟩

section Run

variable {x : Installation} {m : Module} {s : Site} {e : Failure}

lemma outcome_load_of_error {t : Site}
    (h : ModuleInstructions.load x.room x.project.root m t.disk = .error e) :
    (Job.catching Failure.isCatalog
        (Job.onDisk fun d => (ModuleInstructions.load x.room x.project.root m d, d))).outcome t =
      if e.isCatalog then (.ok (.error e), t) else (.error e, t) := by
  have hload : (Job.onDisk fun d =>
      (ModuleInstructions.load x.room x.project.root m d, d)).outcome t = (.error e, t) := by
    rw [Job.outcome_onDisk, h]
  exact Job.outcome_catching_of_error Failure.isCatalog hload

/-- A module whose catalog fails is passed over. -/
lemma outcome_installModule_of_catalog
    (h : ModuleInstructions.load x.room x.project.root m s.disk = .error e)
    (he : e.isCatalog = true) :
    (x.installModule m).outcome s = (.ok (unusable m e), passOver m e s) := by
  let t : Site := { s with printed := s.printed ++ [.info ("Installing module: " ++ m.name)] }
  have hload := outcome_load_of_error (t := t) h
  rw [if_pos he] at hload
  rw [installModule, Job.outcome_bind_of_ok (Job.outcome_print _ s), Job.outcome_bind_of_ok hload,
    Job.outcome_bind_of_ok (Job.outcome_print _ t), Job.outcome_pure]
  have hlines : t.printed ++ [.warning ("Module configuration not usable, skipping " ++ m.name ++
      ": " ++ e.message)] = (passOver m e s).printed := List.append_assoc _ _ _
  rw [hlines]
  rfl

/-- A module that is not read for another reason ends its installation. -/
lemma outcome_installModule_of_other
    (h : ModuleInstructions.load x.room x.project.root m s.disk = .error e)
    (he : e.isCatalog = false) :
    (x.installModule m).outcome s =
      (.error e, { s with printed := s.printed ++ [.info ("Installing module: " ++ m.name)] }) := by
  let t : Site := { s with printed := s.printed ++ [.info ("Installing module: " ++ m.name)] }
  have hload := outcome_load_of_error (t := t) h
  rw [if_neg (by rw [he]; exact Bool.false_ne_true)] at hload
  rw [installModule, Job.outcome_bind_of_ok (Job.outcome_print _ s)]
  exact Job.outcome_bind_of_error hload _

variable (x) in
lemma installModules_append (ms ns : List Module) :
    x.installModules (ms ++ ns) = (do
      let reports ← x.installModules ms
      let later ← x.installModules ns
      pure (reports ++ later)) := by
  induction ms with
  | nil => simp [installModules]
  | cons m rest ih => simp [installModules, ih]

variable {before after : List Module} {reports : List ModuleReport} {s₁ : Site}

/-- The modules after one that is passed over are installed as if it were not there. -/
lemma outcome_installModules_of_catalog
    (hbefore : (x.installModules before).outcome s = (.ok reports, s₁))
    (h : ModuleInstructions.load x.room x.project.root m s₁.disk = .error e)
    (he : e.isCatalog = true) :
    (x.installModules (before ++ m :: after)).outcome s =
      (do
        let later ← x.installModules after
        pure (reports ++ unusable m e :: later) : Job (List ModuleReport)).outcome
        (passOver m e s₁) := by
  rw [installModules_append, Job.outcome_bind_of_ok hbefore, installModules, bind_assoc,
    Job.outcome_bind_of_ok (outcome_installModule_of_catalog h he)]
  simp only [bind_assoc, pure_bind]

/-- No module is installed after one that is not read for a reason that is not its catalog's. -/
lemma outcome_installModules_of_other
    (hbefore : (x.installModules before).outcome s = (.ok reports, s₁))
    (h : ModuleInstructions.load x.room x.project.root m s₁.disk = .error e)
    (he : e.isCatalog = false) :
    (x.installModules (before ++ m :: after)).outcome s =
      (.error e, { s₁ with printed := s₁.printed ++ [.info ("Installing module: " ++ m.name)] }) := by
  rw [installModules_append, Job.outcome_bind_of_ok hbefore, installModules, bind_assoc]
  exact Job.outcome_bind_of_error (outcome_installModule_of_other h he) _

end Run

end Installation

/-- The site after the heading of an installation is printed. -/
def Site.started (s : Site) : Site :=
  { s with printed := s.printed ++ [.info "Processing modules..."] }

lemma outcome_install_of_error {room : Room} {settings : Settings} {project : Project}
    {modules : List Module} {s s' : Site} {e : Failure}
    (h : (Installation.installModules ⟨room, settings, project, modules.map Module.name⟩
      modules).outcome s.started = (.error e, s')) :
    (install room settings project modules).outcome s = (.error e, s') := by
  rw [install, Job.outcome_bind_of_ok (Job.outcome_print _ s)]
  exact Job.outcome_bind_of_error h _

/-- Each loader gives a value or a failure of the catalog, but for the files that end its reading,
and for names of categories that cannot be written out. An installation that comes to a module whose
catalog fails leaves everything as it is and goes on with the next module; if the module's file ends
the reading, so ends the installation. -/
theorem load_escapes_iff (room : Room) (p root : Path) (m : Module) (d : Disk) :
    (EscapesCatalog (Template.load room p d) ↔ d.EndsReading room p) ∧
    (EscapesCatalog (ModuleInstructions.load room root m d) ↔
      d.EndsReading room (root.join (Path.ofString m.path))) ∧
    (EscapesCatalog (TemplateCatalog.load room p d) ↔
      d.EndsReading room p ∨ ∃ entries, d.readDocument room p = .ok (.map entries) ∧
        TemplateCatalog.IsUnwritable p.text [] entries) ∧
    ∀ settings project before after s reports s₁ e,
      let modules := before ++ m :: after
      let x : Installation := ⟨room, settings, project, modules.map Module.name⟩
      (x.installModules before).outcome s.started = (.ok reports, s₁) →
      ModuleInstructions.load room project.root m s₁.disk = .error e →
      (¬s₁.disk.EndsReading room (project.root.join (Path.ofString m.path)) →
        (x.installModules modules).outcome s.started =
          (do
            let later ← x.installModules after
            pure (reports ++ Installation.unusable m e :: later) : Job (List ModuleReport)).outcome
            (Installation.passOver m e s₁)) ∧
      (s₁.disk.EndsReading room (project.root.join (Path.ofString m.path)) →
        (install room settings project modules).outcome s =
          (.error e,
            { s₁ with printed := s₁.printed ++ [.info ("Installing module: " ++ m.name)] })) := by
  refine ⟨template_load_escapes_iff, instructions_load_escapes_iff, catalog_load_escapes_iff, ?_⟩
  intro settings project before after s reports s₁ e modules x hbefore hload
  have hescapes : EscapesCatalog (ModuleInstructions.load room project.root m s₁.disk) ↔ _ :=
    instructions_load_escapes_iff
  rw [hload, escapesCatalog_error] at hescapes
  constructor
  · intro hreads
    have he : e.isCatalog = true := by simpa using mt hescapes.mp hreads
    exact Installation.outcome_installModules_of_catalog hbefore hload he
  · intro hends
    have he : e.isCatalog = false := hescapes.mpr hends
    exact outcome_install_of_error
      (Installation.outcome_installModules_of_other hbefore hload he)

/-- A catalog of one byte that is no text: its module is not passed over, and the installation has
no report. -/
theorem not_load_contained :
    let m : Module := ⟨"m", "", "m.json", [], [], 0⟩
    let s : Site := ⟨⟨[(["proj"], .directory), (["proj", "m.json"], .file [255])]⟩, ⟨1000, 1⟩, []⟩
    ¬((∃ instructions, ModuleInstructions.load .usual ["proj"] m s.disk = .ok instructions) ∨
        ∃ source cause,
          ModuleInstructions.load .usual ["proj"] m s.disk = .error (.catalog source cause)) ∧
      ¬∃ report,
        ((install .usual (.default ["home"]) ⟨["proj"], "shop"⟩ [m]).outcome s).1 = .ok report := by
  intro m s
  have hpath : Path.join ["proj"] (Path.ofString m.path) = ["proj", "m.json"] := by decide
  have hends : s.disk.EndsReading .usual ["proj", "m.json"] :=
    .undecodable [255] rfl ⟨0, 255, 1, .invalidStart⟩ (by decide)
  have hescapes : EscapesCatalog (ModuleInstructions.load .usual ["proj"] m s.disk) :=
    instructions_load_escapes_iff.mpr (hpath ▸ hends)
  obtain ⟨e, hload, he⟩ := hescapes
  constructor
  · rw [hload]
    rintro (⟨instructions, h⟩ | ⟨source, cause, h⟩)
    · cases h
    · rw [Except.error.inj h] at he
      cases he
  · let x : Installation := ⟨.usual, .default ["home"], ⟨["proj"], "shop"⟩, ["m"]⟩
    have hnothing : (x.installModules []).outcome s.started = (.ok [], s.started) := rfl
    have hmodules : (x.installModules ([] ++ m :: [])).outcome s.started = _ :=
      Installation.outcome_installModules_of_other hnothing hload he
    rw [outcome_install_of_error hmodules]
    rintro ⟨report, h⟩
    cases h

end Scaffold
