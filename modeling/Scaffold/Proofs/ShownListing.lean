import Scaffold.CommandLine.Run
import Scaffold.Proofs.EscapedMarkup
import Scaffold.Proofs.JobOutcome
import Scaffold.Proofs.ShownTimes
import Scaffold.Proofs.StoredForms

/-!
# Listings of the log

What the program shows of a log, whatever files the log's directory holds. What is no record is
passed over, and the records that are asked for are shown from the newest on, up to the limit. Three
things can keep a record from being shown, each of them within what a record may be: a time that the
calendar does not have, a number of too many digits, and a hash that is faulty as markup. Any such
record among those to be shown ends the listing.
-/

namespace Scaffold

open Console

namespace Log

/-- What can be read from the log files of a store's directory. -/
def Store.recordsIn (s : Store) (d : Disk) : List Record :=
  ((d.names s.directory.location).filter isLogName).filterMap fun name =>
    (Store.readFile (s.directory.child name) d).toOption

/-- The records that a query asks for, as a listing has them. -/
structure Store.IsListing (s : Store) (q : Query) (d : Disk) (rs : List Record) : Prop where
  ofDirectory : d.LeadsToDirectory s.directory → rs.Perm ((s.recordsIn d).filter q.accepts)
  ofNone : ¬d.LeadsToDirectory s.directory → rs = []
  newestFirst : rs.Pairwise fun a b => b.timestamp ≤ a.timestamp

section Listing

variable {s : Store} {d : Disk} {q : Query}

lemma Store.list_of_tooLong (h : d.TooLong s.directory) : ∃ e, s.list q d = .error e := by
  have hdirectory : d.isDirectory s.directory = .error (.refused .nameTooLong s.directory) :=
    Disk.map_find?_eq_error_iff.mpr ⟨h, rfl⟩
  refine ⟨.disk (.refused .nameTooLong s.directory), ?_⟩
  rw [list, records, scan, hdirectory]
  rfl

lemma Store.map_record_readable :
    ((s.readable s.directory.location d).map Found.record).Perm (s.recordsIn d) := by
  rw [readable, List.map_filterMap, recordsIn]
  refine ((List.mergeSort_perm _ _).filterMap _).trans (List.Perm.of_eq ?_)
  refine List.filterMap_congr fun name _ => ?_
  cases readFile (s.directory.child name) d <;> rfl

lemma Store.exists_listing (h : ¬d.TooLong s.directory) :
    ∃ rs, s.list q d = .ok rs ∧ s.IsListing q d rs := by
  cases hdirectory : d.isDirectory s.directory with
  | error e => exact absurd (Disk.map_find?_eq_error_iff.mp hdirectory).1 h
  | ok isThere =>
    cases isThere with
    | false =>
      have hnone : ¬d.LeadsToDirectory s.directory := by
        intro hleads
        rw [hleads.isDirectory] at hdirectory
        cases hdirectory
      refine ⟨[], ?_, fun hleads => absurd hleads hnone, fun _ => rfl, List.Pairwise.nil⟩
      rw [list, records, scan, hdirectory]
      rfl
    | true =>
      have hleads := Disk.isDirectory_iff.mp hdirectory
      refine ⟨(((s.readable s.directory.location d).mergeSort
        fun a b => b.record.timestamp ≤ a.record.timestamp).map Found.record).filter q.accepts,
        ?_, fun _ => ?_, fun hnone => absurd hleads hnone, ?_⟩
      · rw [list, records, scan, hdirectory]
        simp only [hleads.located, Except.map]
      · exact (((List.mergeSort_perm _ _).map _).trans map_record_readable).filter _
      · exact (List.pairwise_map.mpr (newestFirst_mergeSort _)).filter _

end Listing

/-! ### Records that can be shown -/

/-- Whether a record can be shown in a listing. -/
structure Record.IsShowable (r : Record) : Prop where
  time : 1000 * Calendar.firstSecond ≤ r.timestamp ∧
    r.timestamp < 1000 * (Calendar.lastSecond + 1)
  number : r.index + 1 < 10 ^ Text.maxDigits
  hash : Markup.fault? r.hash.toList = none

end Log

namespace CommandLine

/-- The cells of a record's row in a listing, as markup. -/
def cellsOf (r : Log.Record) : List String :=
  [styled (statusStyle r.status).1 (statusStyle r.status).2, r.hash,
    escaped (r.project ++ " > " ++ r.module ++ " > #" ++ toString (r.index + 1)),
    Calendar.secondText (r.timestamp.fdiv 1000),
    ((given? r.error).map fun e => escaped (shortened 80 e)).getD ""]

/-- The row of a record in a listing, as it is shown. -/
def shownRow (r : Log.Record) : List String := (cellsOf r).map plainText

/-- What is printed of a listing. -/
def printedListing (limit : Nat) (rs : List Log.Record) : List Printed :=
  if rs.isEmpty then [.info "No logs found"]
  else
    .table ("Found " ++ toString rs.length ++ " log(s)")
        ["", "Hash", "Instruction", "Time", "Error"] ((rs.take limit).map shownRow)
      :: (if limit < rs.length then
          [.plain ("... and " ++ toString (rs.length - limit) ++ " more logs")]
        else [])
      ++ [.plain "Use \"modforge logs <hash>\" to view details"]

section Row

variable {r : Log.Record}

lemma numberOf_eq_ok_iff {t : String} :
    numberOf r = .ok t ↔ r.index + 1 < 10 ^ Text.maxDigits ∧ toString (r.index + 1) = t := by
  have hcast : ((r.index : Int) + 1).natAbs = r.index + 1 := by omega
  have htext : toString ((r.index : Int) + 1) = toString (r.index + 1) := rfl
  rw [numberOf, mapError_eq_ok_iff, decimal_eq_ok_iff, hcast, htext, Number.tenTo, Nat.pow_eq]

lemma timeOf_eq_ok_iff {t : String} :
    timeOf r = .ok t ↔ (1000 * Calendar.firstSecond ≤ r.timestamp ∧
      r.timestamp < 1000 * (Calendar.lastSecond + 1)) ∧
        Calendar.secondText (r.timestamp.fdiv 1000) = t := by
  rw [timeOf, ← Calendar.showInstant_eq_ok_iff]
  cases Calendar.showInstant r.timestamp <;> simp [Except.mapError]

lemma recordRow_eq_ok_iff {cells : List String} :
    recordRow r = .ok cells ↔ (1000 * Calendar.firstSecond ≤ r.timestamp ∧
      r.timestamp < 1000 * (Calendar.lastSecond + 1)) ∧
        r.index + 1 < 10 ^ Text.maxDigits ∧ cellsOf r = cells := by
  rw [recordRow]
  cases hnumber : numberOf r with
  | error e =>
    refine iff_of_false (by rintro ⟨⟩) ?_
    rintro ⟨-, hshort, -⟩
    rw [numberOf_eq_ok_iff.mpr ⟨hshort, rfl⟩] at hnumber
    cases hnumber
  | ok number =>
    obtain ⟨hshort, rfl⟩ := numberOf_eq_ok_iff.mp hnumber
    cases htime : timeOf r with
    | error e =>
      refine iff_of_false (by rintro ⟨⟩) ?_
      rintro ⟨hin, -⟩
      rw [timeOf_eq_ok_iff.mpr ⟨hin, rfl⟩] at htime
      cases htime
    | ok time =>
      obtain ⟨hin, rfl⟩ := timeOf_eq_ok_iff.mp htime
      constructor
      · intro h
        exact ⟨hin, hshort, Except.ok.inj h⟩
      · rintro ⟨-, -, rfl⟩
        rfl

/-! ### Cells -/

lemma shownOf_of_fault?_eq_none {markup : String} (h : Markup.fault? markup.toList = none) :
    Printed.shownOf markup = .ok (plainText markup) := by
  rw [Printed.shownOf, h]

lemma fault?_escaped (s : String) : Markup.fault? (escaped s).toList = none := by
  rw [escaped, String.toList_ofList]
  exact Markup.fault?_escape s.toList

lemma fault?_statusStyle (status : Log.Status) :
    Markup.fault? (styled (statusStyle status).1 (statusStyle status).2).toList = none := by
  have hparts : Markup.parts (styled (statusStyle status).1 (statusStyle status).2).toList =
      [.text [], .text [], .tag 0 (statusStyle status).1.toList,
        .text (statusStyle status).2.toList, .text [],
        .tag ((statusStyle status).1.length + 3) ('/' :: (statusStyle status).1.toList),
        .text []] := by
    cases status <;> decide
  rw [Markup.fault?, hparts]
  refine Markup.faultFrom?_styled ?_ ?_ ?_ _ _ _
  all_goals cases status <;> decide

lemma not_mem_twoDigits (n : Nat) : '[' ∉ (Calendar.twoDigits n).toList := by
  have hnumber : '[' ∉ (toString n).toList :=
    Document.Json.not_mem_toString_int (by decide) (by decide) n
  rw [Calendar.twoDigits]
  split
  · rw [String.toList_append, List.mem_append, not_or]
    exact ⟨by decide, hnumber⟩
  · exact hnumber

lemma fault?_secondText (s : Int) : Markup.fault? (Calendar.secondText s).toList = none := by
  have hdash : '[' ∉ "-".toList := by decide
  have hspace : '[' ∉ " ".toList := by decide
  have hcolon : '[' ∉ ":".toList := by decide
  have hnumber : ∀ n : Int, '[' ∉ (toString n).toList :=
    Document.Json.not_mem_toString_int (by decide) (by decide)
  refine Markup.fault?_of_not_mem ?_
  simp only [Calendar.secondText, String.toList_append, List.mem_append, hnumber,
    not_mem_twoDigits, hdash, hspace, hcolon, or_self, not_false_eq_true]

/-- The only cell that can be faulty is that of the hash. -/
lemma fault?_of_mem_cellsOf (h : Markup.fault? r.hash.toList = none) {cell : String}
    (hcell : cell ∈ cellsOf r) : Markup.fault? cell.toList = none := by
  simp only [cellsOf, List.mem_cons, List.not_mem_nil, or_false] at hcell
  rcases hcell with rfl | rfl | rfl | rfl | rfl
  · exact fault?_statusStyle r.status
  · exact h
  · exact fault?_escaped _
  · exact fault?_secondText _
  · cases given? r.error with
    | none => rfl
    | some e => exact fault?_escaped _

lemma mapM_shownOf_cellsOf (h : Markup.fault? r.hash.toList = none) :
    (cellsOf r).mapM Printed.shownOf = .ok (shownRow r) :=
  mapM_eq_ok_map fun _ hcell => shownOf_of_fault?_eq_none (fault?_of_mem_cellsOf h hcell)

lemma exists_mapM_shownOf_cellsOf (h : Markup.fault? r.hash.toList ≠ none) :
    ∃ fault, (cellsOf r).mapM Printed.shownOf = .error fault := by
  obtain ⟨fault, hfault⟩ := Option.ne_none_iff_exists'.mp h
  refine exists_mapM_eq_error_iff.mpr ⟨r.hash, by simp [cellsOf], fault, ?_⟩
  rw [Printed.shownOf, hfault]

end Row

/-! ### What is printed -/

section Printing

variable {limit : Nat} {rs : List Log.Record} {site : Site}

lemma outcome_printMarkup (p : Printed) :
    (Job.printMarkup (.ok p)).outcome site =
      (.ok (), { site with printed := site.printed ++ [p] }) :=
  rfl

lemma mapM_recordRow_eq (h : ∀ r ∈ rs.take limit, r.IsShowable) :
    (rs.take limit).mapM recordRow = .ok ((rs.take limit).map cellsOf) :=
  mapM_eq_ok_map fun r hr => recordRow_eq_ok_iff.mpr ⟨(h r hr).time, (h r hr).number, rfl⟩

lemma tableOf_eq (title : String) (header : List String)
    (h : ∀ r ∈ rs.take limit, r.IsShowable) :
    Printed.tableOf title header ((rs.take limit).map cellsOf) =
      .ok (.table title header ((rs.take limit).map shownRow)) := by
  have hrows : ((rs.take limit).map cellsOf).mapM (fun row => row.mapM Printed.shownOf) =
      .ok (((rs.take limit).map cellsOf).map fun row => row.map plainText) := by
    refine mapM_eq_ok_map fun row hrow => ?_
    obtain ⟨r, hr, rfl⟩ := List.mem_map.mp hrow
    exact mapM_shownOf_cellsOf (h r hr).hash
  rw [Printed.tableOf, hrows, List.map_map]
  rfl

lemma outcome_printListing (hne : rs.isEmpty = false) (h : ∀ r ∈ rs.take limit, r.IsShowable) :
    (printListing limit rs).outcome site =
      (.ok (), { site with printed := site.printed ++ printedListing limit rs }) := by
  rw [printListing, mapM_recordRow_eq h, Job.outcome_bind, Job.outcome_ofExcept]
  dsimp only
  rw [tableOf_eq _ _ h, Job.outcome_bind, outcome_printMarkup, printedListing, hne]
  dsimp only
  by_cases hmore : limit < rs.length
  · simp [hmore, Job.outcome_bind]
  · simp [hmore]

/-- A record whose row is made but that cannot be shown has a faulty hash. -/
lemma exists_tableOf_eq_error (title : String) (header : List String)
    (h : ∃ r ∈ rs.take limit, Markup.fault? r.hash.toList ≠ none) :
    ∃ fault, Printed.tableOf title header ((rs.take limit).map cellsOf) = .error fault := by
  obtain ⟨r, hr, hfault⟩ := h
  obtain ⟨fault, hcells⟩ := exists_mapM_shownOf_cellsOf hfault
  obtain ⟨fault', hrows⟩ := exists_mapM_eq_error_iff.mpr
    ⟨cellsOf r, List.mem_map_of_mem (f := cellsOf) hr, fault, hcells⟩
  exact ⟨fault', by rw [Printed.tableOf, hrows]; rfl⟩

lemma outcome_printListing_of_not (h : ∃ r ∈ rs.take limit, ¬r.IsShowable) :
    ∃ e, ((printListing limit rs).outcome site).1 = .error e := by
  rw [printListing]
  by_cases hrow : ∃ r ∈ rs.take limit, ∃ e, recordRow r = .error e
  · obtain ⟨e, hrows⟩ := exists_mapM_eq_error_iff.mpr hrow
    exact ⟨e, by rw [hrows, Job.outcome_bind, Job.outcome_ofExcept]⟩
  · have hcells : ∀ r ∈ rs.take limit, recordRow r = .ok (cellsOf r) := by
      intro r hr
      cases hcells : recordRow r with
      | error e => exact absurd ⟨r, hr, e, hcells⟩ hrow
      | ok cells => rw [(recordRow_eq_ok_iff.mp hcells).2.2]
    have hfault : ∃ r ∈ rs.take limit, Markup.fault? r.hash.toList ≠ none := by
      obtain ⟨r, hr, hnot⟩ := h
      obtain ⟨htime, hnumber, -⟩ := recordRow_eq_ok_iff.mp (hcells r hr)
      exact ⟨r, hr, fun hhash => hnot ⟨htime, hnumber, hhash⟩⟩
    obtain ⟨fault, htable⟩ := exists_tableOf_eq_error
      ("Found " ++ toString rs.length ++ " log(s)")
      ["", "Hash", "Instruction", "Time", "Error"] hfault
    refine ⟨.markup fault, ?_⟩
    rw [mapM_eq_ok_map hcells, Job.outcome_bind, Job.outcome_ofExcept]
    dsimp only
    rw [htable, Job.outcome_bind]
    rfl

end Printing

/-! ### Listings -/

/-- Whether a request is for a listing. -/
structure LogsRequest.IsForListing (x : LogsRequest) : Prop where
  keeps : x.clears = false
  namesNone : given? x.hash = none

/-- What a request asks for. -/
def LogsRequest.query (x : LogsRequest) : Log.Query where
  status := if x.onlyFailed then some .failed else none
  project := x.project
  module := x.module

/-- What a listing of records comes to: they are shown and the program ends well, or it stops. -/
structure Shows (limit : Nat) (rs : List Log.Record) (site : Site)
    (outcome : Except Failure Nat × Site) : Prop where
  shown : (∀ r ∈ rs.take limit, r.IsShowable) →
    outcome = (.ok 0, { site with printed := site.printed ++ printedListing limit rs })
  stopped : (∃ r ∈ rs.take limit, ¬r.IsShowable) → ∃ e, outcome.1 = .error e

section Listings

variable {s : Settings} {x : LogsRequest} {site : Site}

lemma runLogs_eq_showList (h : x.IsForListing) :
    runLogs s x = showList s ⟨s.logDirectory⟩ x.query := by
  simp only [runLogs, h.keeps, h.namesNone, LogsRequest.query, Bool.false_eq_true, if_false]

lemma outcome_showList_of_error {store : Log.Store} {q : Log.Query} {e : Failure}
    (h : store.list q site.disk = .error e) :
    (showList s store q).outcome site = (.error e, site) := by
  rw [showList, Job.outcome_bind, Job.outcome_onDisk]
  simp only [h]

lemma shows_showList {store : Log.Store} {q : Log.Query} {rs : List Log.Record}
    (h : store.list q site.disk = .ok rs) :
    Shows s.listLimit.toNat rs site ((showList s store q).outcome site) := by
  rw [showList, Job.outcome_bind, Job.outcome_onDisk]
  simp only [h]
  cases hempty : rs.isEmpty with
  | true =>
    obtain rfl := List.isEmpty_iff.mp hempty
    constructor
    · intro _
      rfl
    · rintro ⟨r, hr, -⟩
      simp at hr
  | false =>
    simp only [Bool.false_eq_true, if_false]
    constructor
    · intro hshowable
      rw [Job.outcome_bind_of_ok (outcome_printListing hempty hshowable), Job.outcome_pure]
    · intro hnot
      obtain ⟨e, hprint⟩ : ∃ e, ((printListing s.listLimit.toNat rs).outcome site).1 = .error e :=
        outcome_printListing_of_not hnot
      exact ⟨e, by rw [Job.outcome_bind_of_error (Prod.ext hprint rfl)]⟩

end Listings

/-- A record of a given time, the only one in its log. -/
def recordAt (t : Int) : Log.Record := { Log.Record.ofText "p" with timestamp := t }

/-- A site whose log has that record only. -/
def siteAt (t : Int) : Site :=
  ⟨Disk.empty.saved ["logs", "0a.json"] (Log.Store.fileText (recordAt t)), ⟨0, 0⟩, []⟩

/-- Settings that keep the log in that place, and are otherwise as when nothing is set. -/
def settingsAt : Settings := { Settings.default ["home"] with logDirectory := ["logs"] }

/-- A request for all records. -/
def requestAll : LogsRequest := ⟨none, false, none, none, false, none⟩

lemma isForListing_requestAll : requestAll.IsForListing := ⟨rfl, rfl⟩

lemma canSave_logs : Disk.empty.CanSave ["logs", "0a.json"] :=
  ⟨by decide +kernel, by decide +kernel, by decide +kernel⟩

lemma leadsToDirectory_siteAt (t : Int) : (siteAt t).disk.LeadsToDirectory ["logs"] :=
  (Disk.leadsToDirectory_of_makeDirectories canSave_logs.makeDirectories_eq).put canSave_logs.free _

lemma not_tooLong_siteAt (t : Int) : ¬(siteAt t).disk.TooLong ["logs"] :=
  Disk.not_tooLong_of_map_find? (leadsToDirectory_siteAt t).isDirectory

lemma recordsIn_siteAt {t : Int} (hlegible : (recordAt t).isLegible = true) :
    Log.Store.recordsIn ⟨["logs"]⟩ (siteAt t).disk = [recordAt t] := by
  have hentries : (Disk.empty.withParent ["logs", "0a.json"]).entries =
      [(["logs"], .directory)] := by decide +kernel
  have hlocation : Path.location ["logs"] = ["logs"] ∧
      Path.location ["logs", "0a.json"] = ["logs", "0a.json"] := by decide
  have hnames : (siteAt t).disk.names (Path.location ["logs"]) = ["0a.json"] := by
    rw [siteAt, Disk.saved, Disk.put, Disk.names, hentries, hlocation.1, hlocation.2]
    rfl
  have hread : Log.Store.readFile (Path.child ["logs"] "0a.json") (siteAt t).disk =
      .ok (recordAt t) :=
    Log.Store.readFile_saved rfl hlegible canSave_logs
  have hname : Log.isLogName "0a.json" = true := by decide
  rw [Log.Store.recordsIn, hnames, List.filter_cons_of_pos hname]
  simp only [List.filter_nil, List.filterMap_cons, List.filterMap_nil, hread, Except.toOption]

lemma isListing_siteAt {t : Int} (hlegible : (recordAt t).isLegible = true)
    {rs : List Log.Record}
    (h : Log.Store.IsListing ⟨["logs"]⟩ requestAll.query (siteAt t).disk rs) :
    rs = [recordAt t] := by
  have haccepts : requestAll.query.accepts (recordAt t) = true := rfl
  have hperm := h.ofDirectory (leadsToDirectory_siteAt t)
  rw [recordsIn_siteAt hlegible, List.filter_cons_of_pos haccepts, List.filter_nil] at hperm
  exact List.perm_singleton.mp hperm

end CommandLine

end Scaffold
