import Scaffold.Proofs.CatalogContainment
import Scaffold.Proofs.DiskAgreement
import Scaffold.Proofs.RunFrame

/-!
# What a clean-up removes

At the end of an installation the directory of the catalogs is removed with all that is below it.
Its place comes from a setting that may be any text, and nothing keeps that place inside the
project: a double dot leads out of it, a slash at the front starts from the top of the disk, and no
name at all leads to the project itself. What is
removed is therefore described first for any path, and from that the settings are read off which
leave alone everything that is not strictly inside the project.
-/

namespace Scaffold

open Disk

/-- Two disks that differ in nothing but entries strictly inside a directory. -/
def Disk.ChangesInside (root : Path) : Disk → Disk → Prop :=
  ChangesOnly fun l => isBelow root.location l = true

/-! ### Removing a directory with all that is in it -/

/-- A path through which the directory that it leads to cannot be removed, since it names the top of
the disk, or comes back to the directory from below. -/
def Path.IsUnremovable (p : Path) : Prop :=
  p.location = [] ∨ ∃ l, p.Passes l ∧ isBelow p.location l = true

instance (p : Path) : Decidable p.IsUnremovable :=
  decidable_of_iff
    (p.location = [] ∨
      ∃ names ∈ p.names.inits, isBelow p.location (Path.follow [] names) = true)
    (by simp [Path.IsUnremovable, Path.Passes, List.mem_inits])

section Removal

variable {d : Disk} {p : Path}

/-- A directory that is not the top of the disk is named at the end of a path that does not come
back to it from below. -/
lemma exists_name_of_removable (h : ¬p.IsUnremovable) :
    ∃ (q : Path) (name : String), p = q.child name ∧ name ≠ ".." := by
  rw [Path.IsUnremovable, not_or] at h
  obtain ⟨htop, hbelow⟩ := h
  cases p using Path.child_induction with
  | root r => exact absurd rfl htop
  | child q name =>
    refine ⟨q, name, rfl, ?_⟩
    rintro rfl
    rw [Path.location_child, if_pos rfl] at htop hbelow
    refine hbelow ⟨q.location, ?_, ?_⟩
    · exact Path.Passes.of_parent (by simpa using q.passes_location)
    · -- what the path leaves by going up is an entry of the directory that it comes to
      have hne : q.location ≠ [] := fun hnil => htop (by rw [hnil]; rfl)
      have hsplit := List.dropLast_append_getLast hne
      have := isBelow_append_singleton q.location.dropLast (q.location.getLast hne)
      rwa [hsplit] at this

lemma entry?_without_isBelow (above : Location) (l : Location) :
    Disk.entry? (d.without (isBelow above)) l =
      if isBelow above l = true then none else d.entry? l := by
  by_cases hl : l = []
  · have hnot : isBelow above [] = false := by simp [isBelow]
    rw [hl, hnot, entry?_nil, entry?_nil]
    rfl
  · exact entry?_without _ hl

lemma names_without_isBelow (l : Location) : (d.without (isBelow l)).names l = [] := by
  rw [names_eq, List.map_eq_nil_iff, children_eq_nil_iff]
  intro name
  rw [entry?_without_isBelow, if_pos (isBelow_append_singleton l name)]

/-- Through a path that comes back from below, or names the top of the disk, a directory is emptied
and cannot be removed. -/
lemma removeTree_of_unremovable (h : d.LeadsToDirectory p) (hp : p.IsUnremovable) :
    ∃ e, d.removeTree p = (.error e, d.without (isBelow p.location)) := by
  suffices hremove : ∃ e, (d.without (isBelow p.location)).removeDirectory p = .error e by
    obtain ⟨e, he⟩ := hremove
    refine ⟨e, ?_⟩
    rw [removeTree, h.located]
    simp only [h.there, he]
  rw [removeDirectory]
  cases hlocate : (d.without (isBelow p.location)).locate p with
  | error e => exact ⟨e, rfl⟩
  | ok l =>
    obtain rfl := eq_location_of_locate hlocate
    rcases hp with htop | ⟨l, hl, hbelow⟩
    · cases p using Path.child_induction with
      | root r => exact ⟨_, rfl⟩
      | child q name =>
        have hup : name = ".." := by
          by_contra hname
          rw [Path.location_child, if_neg hname] at htop
          exact List.concat_ne_nil _ _ htop
        have hends : (q.child name).endsUpward = true := by
          rw [hup]
          exact Path.endsUpward_child_iff.mpr rfl
        simp only [hends, if_true, Path.names_child_ne_nil, if_false]
        exact ⟨_, rfl⟩
    · -- what the path has passed below the directory is gone
      have hparent : p.parent.Passes l :=
        (Path.passes_iff.mp hl).resolve_left fun hself => (isBelow_iff.mp hbelow).2 hself.symm
      have hgone := entry?_of_locate hlocate hparent
      rw [entry?_without_isBelow, if_pos hbelow] at hgone
      cases hgone

/-- Through any other path a directory is removed with all that is below it. -/
lemma removeTree_of_removable (h : d.LeadsToDirectory p) (hp : ¬p.IsUnremovable) :
    d.removeTree p =
      (.ok (), (d.without (isBelow p.location)).without (· = p.location)) := by
  have hnot := hp
  rw [Path.IsUnremovable, not_or, not_exists] at hnot
  obtain ⟨-, hbelow⟩ := hnot
  have hlocate : (d.without (isBelow p.location)).locate p = .ok p.location := by
    obtain ⟨hnull, hsize, hwalk⟩ := locate_eq_ok_iff.mp h.located
    refine locate_eq_ok_iff.mpr ⟨hnull, hsize, ?_⟩
    rw [← hwalk]
    refine walk_congr fun way hway => ?_
    rw [entry?_without_isBelow, if_neg]
    exact fun hgone => hbelow _ ⟨⟨way, hway, rfl⟩, hgone⟩
  have hthere : Disk.entry? (d.without (isBelow p.location)) p.location = some .directory := by
    rw [entry?_without_isBelow, if_neg, h.there]
    exact fun hself => (isBelow_iff.mp hself).2 rfl
  obtain ⟨q, name, rfl, hname⟩ := exists_name_of_removable hp
  have hends : (q.child name).endsUpward = false := by
    rw [Bool.eq_false_iff]
    exact mt Path.endsUpward_child_iff.mp hname
  rw [removeTree, h.located]
  simp only [h.there]
  rw [removeDirectory, hlocate]
  simp only [Path.names_child_ne_nil, if_false, hends, hthere, names_without_isBelow, if_true,
    Bool.false_eq_true]

/-- What is left of a disk after a directory has been removed. -/
lemma entry?_removeTree (h : d.LeadsToDirectory p) (l : Location) :
    Disk.entry? (d.removeTree p).2 l =
      if isBelow p.location l = true ∨ (l = p.location ∧ ¬p.IsUnremovable) then none
      else d.entry? l := by
  by_cases hp : p.IsUnremovable
  · obtain ⟨e, he⟩ := removeTree_of_unremovable h hp
    rw [he]
    simp only [hp, not_true_eq_false, and_false, or_false]
    exact entry?_without_isBelow _ l
  · rw [removeTree_of_removable h hp]
    simp only [hp, not_false_eq_true, and_true]
    by_cases hl : l = []
    · have htop : p.location ≠ [] := fun hnil => hp (.inl hnil)
      rw [hl, entry?_nil, entry?_nil, if_neg]
      rintro (hbelow | hself)
      · simp [isBelow] at hbelow
      · exact htop hself.symm
    · rw [entry?_without _ hl, entry?_without_isBelow]
      by_cases hself : l = p.location
      · simp [hself]
      · simp [hself]

lemma entry?_self_removeTree (h : d.LeadsToDirectory p) :
    Disk.entry? (d.removeTree p).2 p.location = none ↔ ¬p.IsUnremovable := by
  have hself : isBelow p.location p.location = false := by simp [isBelow]
  rw [entry?_removeTree h, hself, h.there]
  simp

lemma removeTree_isOk (h : d.LeadsToDirectory p) :
    (d.removeTree p).1.isOk = true ↔ ¬p.IsUnremovable := by
  by_cases hp : p.IsUnremovable
  · obtain ⟨e, he⟩ := removeTree_of_unremovable h hp
    rw [he]
    exact iff_of_false Bool.false_ne_true (not_not_intro hp)
  · rw [removeTree_of_removable h hp]
    exact iff_of_true rfl hp

end Removal

/-! ### Cleaning up -/

/-- The path of the catalogs leads to no directory, or to one at or below the project's root; and if
it leads to the root itself, the root cannot be removed through it. -/
def Settings.NamesInside (s : Settings) (root : Path) (d : Disk) : Prop :=
  let p := s.catalogDirectory root
  d.isDirectory p = .ok true →
    root.location <+: p.location ∧ (p.location = root.location → p.IsUnremovable)

section CleanUp

variable {s : Settings} {root : Path} {site : Site}

/-- A clean-up asks whether anything is at its place, and then tries to remove it as a directory. -/
lemma outcome_cleanUp :
    let p := s.catalogDirectory root
    let d := site.disk
    let out := (s.cleanUp root).outcome site
    (out.1, out.2.disk) =
      match d.holds p with
      | .error e => (.error (.disk e), d)
      | .ok false => (.ok false, d)
      | .ok true => (.ok (d.removeTree p).1.isOk, (d.removeTree p).2) := by
  intro p d out
  have hask : (Job.onDisk fun d => ((d.holds p).mapError Failure.disk, d)).outcome site =
      ((d.holds p).mapError Failure.disk, site) := rfl
  have hremove : (Job.onDisk fun d => (.ok (d.removeTree p).1, (d.removeTree p).2)).outcome site =
      (.ok (d.removeTree p).1, { site with disk := (d.removeTree p).2 }) := rfl
  have hout : out = (s.cleanUp root).outcome site := rfl
  rw [Settings.cleanUp] at hout
  cases hholds : d.holds p with
  | error e =>
    rw [hholds] at hask
    rw [hout, Job.outcome_bind_of_error hask]
  | ok there =>
    rw [hholds] at hask
    rw [hout, Job.outcome_bind_of_ok hask]
    cases there with
    | false => rfl
    | true =>
      simp only [if_true]
      rw [Job.outcome_bind_of_ok hremove]
      cases (d.removeTree p).1 <;> rfl

variable (s root site) in
/-- A clean-up fails if the disk gives no answer, leaves the disk as it is if there is no directory
at its place, and removes the directory that is there. -/
lemma outcome_cleanUp_cases :
    let p := s.catalogDirectory root
    let d := site.disk
    let out := (s.cleanUp root).outcome site
    (TooLong d p ∧ ¬d.LeadsToDirectory p ∧ (∃ e, out.1 = .error e) ∧ out.2.disk = d) ∨
      (¬TooLong d p ∧ ¬d.LeadsToDirectory p ∧ out.1 = .ok false ∧ out.2.disk = d) ∨
      (¬TooLong d p ∧ d.LeadsToDirectory p ∧ out.1 = .ok (d.removeTree p).1.isOk ∧
        out.2.disk = (d.removeTree p).2) := by
  intro p d out
  have hout : (out.1, out.2.disk) = _ := outcome_cleanUp
  cases hfind : d.find? p with
  | error e =>
    have hholds : d.holds p = .error e := by rw [holds, hfind]; rfl
    rw [hholds] at hout
    obtain ⟨hfirst, hdisk⟩ := Prod.mk.inj hout
    refine .inl ⟨(find?_eq_error_iff.mp hfind).1, ?_, ⟨_, hfirst⟩, hdisk⟩
    rw [leadsToDirectory_iff, hfind]
    rintro ⟨⟩
  | ok found =>
    have hholds : d.holds p = .ok found.isSome := by rw [holds, hfind]; rfl
    have hlong : ¬TooLong d p := not_tooLong_of_map_find? hholds
    rw [hholds] at hout
    rw [leadsToDirectory_iff, hfind]
    cases found with
    | none =>
      obtain ⟨hfirst, hdisk⟩ := Prod.mk.inj hout
      exact .inr (.inl ⟨hlong, by simp, hfirst, hdisk⟩)
    | some e =>
      cases e with
      | directory =>
        obtain ⟨hfirst, hdisk⟩ := Prod.mk.inj hout
        exact .inr (.inr ⟨hlong, rfl, hfirst, hdisk⟩)
      | file bytes =>
        have hremove : d.removeTree p = (.error (.noTree p), d) := by
          obtain ⟨hlocate, hentry⟩ := find?_eq_some_iff.mp hfind
          rw [removeTree, hlocate]
          simp only [hentry]
        obtain ⟨hfirst, hdisk⟩ := Prod.mk.inj hout
        rw [hremove] at hfirst hdisk
        exact .inr (.inl ⟨hlong, by simp, hfirst, hdisk⟩)

/-- A clean-up changes an entry only by removing it, and only at or below the directory of the
catalogs. -/
lemma entry?_cleanUp_cases (l : Location) :
    let p := s.catalogDirectory root
    let after := ((s.cleanUp root).outcome site).2.disk
    after.entry? l = site.disk.entry? l ∨ (p.location <+: l ∧ after.entry? l = none) := by
  intro p after
  rcases outcome_cleanUp_cases s root site with
    ⟨-, -, -, hdisk⟩ | ⟨-, -, -, hdisk⟩ | ⟨-, hdir, -, hdisk⟩
  · exact .inl (congrArg (Disk.entry? · l) hdisk)
  · exact .inl (congrArg (Disk.entry? · l) hdisk)
  · have hentry := entry?_removeTree hdir l
    rw [← hdisk] at hentry
    split at hentry
    · next hgone =>
      refine .inr ⟨?_, hentry⟩
      rcases hgone with hbelow | ⟨rfl, -⟩
      · exact (isBelow_iff.mp hbelow).1
      · exact List.prefix_refl _
    · exact .inl hentry

lemma cleanUp_raises_iff :
    (∃ e, ((s.cleanUp root).outcome site).1 = .error e) ↔
      TooLong site.disk (s.catalogDirectory root) := by
  rcases outcome_cleanUp_cases s root site with
    ⟨hlong, -, hfirst, -⟩ | ⟨hlong, -, hfirst, -⟩ | ⟨hlong, -, hfirst, -⟩
  · exact iff_of_true hfirst hlong
  · refine iff_of_false ?_ hlong
    rw [hfirst]
    rintro ⟨e, ⟨⟩⟩
  · refine iff_of_false ?_ hlong
    rw [hfirst]
    rintro ⟨e, ⟨⟩⟩

/-- A clean-up reports success exactly if there was a directory at its place and there is none any
more. -/
lemma cleanUp_eq_ok_true_iff :
    let p := s.catalogDirectory root
    let out := (s.cleanUp root).outcome site
    out.1 = .ok true ↔
      site.disk.isDirectory p = .ok true ∧ out.2.disk.entry? p.location = none := by
  dsimp only
  rw [isDirectory_iff]
  rcases outcome_cleanUp_cases s root site with
    ⟨-, hdir, ⟨e, hfirst⟩, -⟩ | ⟨-, hdir, hfirst, -⟩ | ⟨-, hdir, hfirst, hdisk⟩
  · refine iff_of_false ?_ fun h => hdir h.1
    rw [hfirst]
    rintro ⟨⟩
  · refine iff_of_false ?_ fun h => hdir h.1
    rw [hfirst]
    rintro ⟨⟩
  · rw [hfirst, hdisk, Except.ok.injEq, removeTree_isOk hdir, entry?_self_removeTree hdir]
    exact ⟨fun hp => ⟨hdir, hp⟩, And.right⟩

/-- What is removed with a directory lies strictly inside the project exactly if the directory is at
or below the project's root, and the root itself cannot be removed through its path. -/
lemma removeTree_changesInside_iff {d : Disk} {p : Path} (hroot : d.LeadsToDirectory root)
    (h : d.LeadsToDirectory p) :
    ChangesInside root d (d.removeTree p).2 ↔
      root.location <+: p.location ∧ (p.location = root.location → p.IsUnremovable) := by
  constructor
  · intro hinside
    have hlost {l : Location} (hl : d.entry? l = some .directory)
        (hgone : isBelow p.location l = true ∨ (l = p.location ∧ ¬p.IsUnremovable)) :
        root.location <+: l ∧ root.location ≠ l := by
      have hentry := entry?_removeTree h l
      rw [if_pos hgone] at hentry
      rcases hinside l with hsame | hbelow
      · rw [hsame, hl] at hentry
        cases hentry
      · exact isBelow_iff.mp hbelow
    -- the root would be lost with what is below the directory
    have hnot : p.location <+: root.location → p.location = root.location := by
      intro habove
      by_contra hne
      exact (hlost hroot.there (.inl (isBelow_iff.mpr ⟨habove, hne⟩))).2 rfl
    by_cases hp : p.IsUnremovable
    · refine ⟨?_, fun _ => hp⟩
      rcases hp with htop | ⟨l, hl, hbelow⟩
      · rw [← hnot (htop ▸ List.nil_prefix)]
      · have hroot' := (hlost (h.entry?_of_passes hl) (.inl hbelow)).1
        rcases List.prefix_or_prefix_of_prefix hroot' (isBelow_iff.mp hbelow).1 with hle | hge
        · exact hle
        · rw [← hnot hge]
    · obtain ⟨habove, hne⟩ := hlost h.there (.inr ⟨rfl, hp⟩)
      exact ⟨habove, fun heq => absurd heq.symm hne⟩
  · rintro ⟨habove, hself⟩ l
    rw [entry?_removeTree h]
    split
    · next hgone =>
      refine .inr (isBelow_iff.mpr ?_)
      rcases hgone with hbelow | ⟨rfl, hp⟩
      · obtain ⟨hbelow, hne⟩ := isBelow_iff.mp hbelow
        refine ⟨habove.trans hbelow, ?_⟩
        rintro rfl
        exact hne (hbelow.eq_of_length (le_antisymm hbelow.length_le habove.length_le))
      · exact ⟨habove, fun heq => hp (hself heq.symm)⟩
    · exact .inl rfl

/-- A clean-up of a project that is there leaves alone everything that is not strictly inside the
project exactly if the directory of the catalogs is named inside the project. -/
lemma cleanUp_changesInside_iff (hroot : site.disk.LeadsToDirectory root) :
    ChangesInside root site.disk ((s.cleanUp root).outcome site).2.disk ↔
      s.NamesInside root site.disk := by
  have hsame {d : Disk} (hd : d = site.disk) : ChangesInside root site.disk d := by
    rw [hd]
    exact fun _ => .inl rfl
  rw [Settings.NamesInside, isDirectory_iff]
  rcases outcome_cleanUp_cases s root site with
    ⟨-, hdir, -, hdisk⟩ | ⟨-, hdir, -, hdisk⟩ | ⟨-, hdir, -, hdisk⟩
  · exact iff_of_true (hsame hdisk) fun h => absurd h hdir
  · exact iff_of_true (hsame hdisk) fun h => absurd h hdir
  · rw [hdisk, removeTree_changesInside_iff hroot hdir]
    exact ⟨fun h _ => h, fun h => h hdir⟩

end CleanUp

/-! ### The end of an installation -/

/-- An installation whose modules come to their reports ends as its clean-up ends. -/
lemma outcome_install_of_ok {room : Room} {settings : Settings} {project : Project}
    {modules : List Module} {s s' : Site} {reports : List ModuleReport}
    (h : (Installation.installModules ⟨room, settings, project, modules.map Module.name⟩
      modules).outcome s.started = (.ok reports, s')) (hremoves : settings.removesModules = true) :
    let out := (install room settings project modules).outcome s
    let clean := (settings.cleanUp project.root).outcome s'
    out.2 = clean.2 ∧ ((∃ e, out.1 = .error e) ↔ ∃ e, clean.1 = .error e) := by
  intro out clean
  have hout : out = (install room settings project modules).outcome s := rfl
  rw [install, Job.outcome_bind_of_ok (Job.outcome_print _ s), ← Site.started,
    Job.outcome_bind_of_ok h, if_pos hremoves] at hout
  rcases hclean : (settings.cleanUp project.root).outcome s' with ⟨e | removed, s''⟩
  · rw [Job.outcome_bind_of_error hclean] at hout
    simp [hout, clean, hclean]
  · rw [Job.outcome_bind_of_ok hclean] at hout
    simp [hout, clean, hclean]

/-- What a clean-up does to a disk, and when it fails: entries are removed at or below the directory
of the catalogs and nothing else happens; no entry is lost that is not strictly inside the project
exactly if that directory is named inside the project; and it is no failure that the directory
cannot be removed, but it is one that its path is too long. -/
structure Settings.CleansUp (s : Settings) (root : Path) (before after : Disk) (fails : Prop) :
    Prop where
  removes : ∀ l, after.entry? l = before.entry? l ∨
    ((s.catalogDirectory root).location <+: l ∧ after.entry? l = none)
  inside : ChangesInside root before after ↔ s.NamesInside root before
  fails_iff : fails ↔ TooLong before (s.catalogDirectory root)

/-- A catalog directory that a relative path names, and not by going up, is named inside the
project. -/
lemma Settings.namesInside_of_namesBelow {s : Settings}
    (h : (Path.ofString s.modulesDirectory).NamesBelow) (root : Path) (d : Disk) :
    s.NamesInside root d := by
  intro _
  have hlocation : (s.catalogDirectory root).location =
      root.location ++ (Path.ofString s.modulesDirectory).names := h.location_join root
  rw [hlocation]
  exact ⟨List.prefix_append _ _, fun heq => absurd (List.append_right_eq_self.mp heq) h.nonempty⟩

end Scaffold
