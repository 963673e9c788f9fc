import Scaffold.Proofs.LineInsertion
import Scaffold.Proofs.SuccessiveEdits

/-!
# Putting a line in after the imports

What brings in names is told from the words of a line. A line is put in below the last line that
brings in names, or at the top of a text that has none. A line that brings in names itself is then
the last such line, so that lines put in one after another stand in the order in which they came.
-/

namespace Scaffold

open Text

namespace Edit

variable {t line content : List Char} {ls above below : List (List Char)}

/-! ### Lines that bring in names -/

/-- A text of blanks, at least one. -/
def IsGap (t : List Char) : Prop := t ≠ [] ∧ ∀ c ∈ t, isBlank c = true

/-- A text without a blank, at least one character long. -/
def IsWord (t : List Char) : Prop := t ≠ [] ∧ ∀ c ∈ t, isBlank c = false

/-- A line brings in names if, between the blanks around it, it starts with `import` and a blank, or
with `from`, a word, `import` and a blank, with blanks between them. -/
def IsImport (line : List Char) : Prop :=
  ∃ blank rest, isBlank blank = true ∧
    (trim line = "import".toList ++ blank :: rest ∨
      ∃ gap source gap', IsGap gap ∧ IsWord source ∧ IsGap gap' ∧
        trim line = "from".toList ++ (gap ++ (source ++ (gap' ++ ("import".toList ++ blank :: rest)))))

lemma startsWithWord_iff {word : String} :
    startsWithWord word t = true ↔ ∃ c rest, isBlank c = true ∧ t = word.toList ++ c :: rest := by
  rw [startsWithWord]
  constructor
  · intro h
    split at h
    · next c rest hafter => exact ⟨c, rest, h, afterPrefix?_eq_some hafter⟩
    · cases h
  · rintro ⟨c, rest, hc, rfl⟩
    rw [afterPrefix?_append]
    exact hc

/-- What is left after leading characters of a kind have been dropped. -/
lemma dropWhile_eq_iff {p : Char → Bool} {rest : List Char} :
    t.dropWhile p = rest ↔
      ∃ first, t = first ++ rest ∧ (∀ c ∈ first, p c = true) ∧ ∀ c ∈ rest.head?, p c = false := by
  constructor
  · rintro rfl
    refine ⟨t.takeWhile p, List.takeWhile_append_dropWhile.symm, fun c => List.mem_takeWhile_imp, ?_⟩
    intro c hc
    have hhead := List.head?_dropWhile_not p t
    rw [Option.mem_def.mp hc] at hhead
    exact hhead
  · rintro ⟨first, rfl, hfirst, hrest⟩
    rw [List.dropWhile_append_of_pos hfirst]
    cases rest with
    | nil => rfl
    | cons c rest => exact List.dropWhile_cons_of_neg (by simp [hrest c rfl])

/-- What follows the word `from`: a gap, a word and a gap, and then the word `import`. -/
lemma startsWithWord_afterSource_iff :
    startsWithWord "import" (trimStart ((trimStart t).dropWhile fun c => !isBlank c)) = true ∧
        (∃ c ∈ t.head?, isBlank c = true) ↔
      ∃ gap source gap' blank rest, IsGap gap ∧ IsWord source ∧ IsGap gap' ∧ isBlank blank = true ∧
        t = gap ++ (source ++ (gap' ++ ("import".toList ++ blank :: rest))) := by
  rw [startsWithWord_iff]
  constructor
  · rintro ⟨⟨blank, rest, hblank, himport⟩, c, hc, hblank'⟩
    obtain ⟨gap', hrest, hgap', -⟩ := dropWhile_eq_iff.mp himport
    obtain ⟨source, hsource, hword, hstop⟩ := dropWhile_eq_iff.mp hrest
    obtain ⟨gap, rfl, hgap, hstart⟩ := dropWhile_eq_iff.mp hsource
    refine ⟨gap, source, gap', blank, rest, ⟨?_, hgap⟩, ⟨?_, fun c hc => ?_⟩, ⟨?_, hgap'⟩, hblank,
      rfl⟩
    · rintro rfl
      rw [hstart c hc] at hblank'
      cases hblank'
    · rintro rfl
      cases gap' with
      | nil => exact absurd (hstop 'i' rfl) (by decide)
      | cons c gap' => exact absurd (hstart c rfl) (by simp [hgap' c List.mem_cons_self])
    · simpa using hword c hc
    · rintro rfl
      exact absurd (hstop 'i' rfl) (by decide)
  · rintro ⟨gap, source, gap', blank, rest, ⟨hgapne, hgap⟩, ⟨hsourcene, hsource⟩, ⟨hgapne', hgap'⟩,
      hblank, rfl⟩
    obtain ⟨g, gap, rfl⟩ := List.exists_cons_of_ne_nil hgapne
    obtain ⟨w, source, rfl⟩ := List.exists_cons_of_ne_nil hsourcene
    obtain ⟨g', gap', rfl⟩ := List.exists_cons_of_ne_nil hgapne'
    refine ⟨⟨blank, rest, hblank, ?_⟩, g, rfl, hgap g List.mem_cons_self⟩
    -- each part ends where the next one begins, because the kind of character changes there
    refine dropWhile_eq_iff.mpr ⟨g' :: gap', ?_, hgap', by rintro _ ⟨⟩; decide⟩
    refine dropWhile_eq_iff.mpr ⟨w :: source, ?_, fun c hc => by simp [hsource c hc], ?_⟩
    · refine dropWhile_eq_iff.mpr ⟨g :: gap, rfl, hgap, ?_⟩
      rintro _ ⟨⟩
      exact hsource w List.mem_cons_self
    · rintro _ ⟨⟩
      simp [hgap' g' List.mem_cons_self]

lemma isImportLike_iff : isImportLike line = true ↔ IsImport line := by
  have hfrom : ∀ rest, ("from".toList ++ rest).drop 4 = rest := fun rest => rfl
  simp only [isImportLike, Bool.or_eq_true, Bool.and_eq_true]
  rw [startsWithWord_iff]
  constructor
  · rintro (⟨blank, rest, hblank, h⟩ | ⟨hword, hsource⟩)
    · exact ⟨blank, rest, hblank, .inl h⟩
    · obtain ⟨c, rest, hc, h⟩ := startsWithWord_iff.mp hword
      rw [h, hfrom] at hsource
      obtain ⟨gap, source, gap', blank, rest', hgap, hname, hgap', hblank, hrest⟩ :=
        startsWithWord_afterSource_iff.mp ⟨hsource, c, rfl, hc⟩
      exact ⟨blank, rest', hblank, .inr ⟨gap, source, gap', hgap, hname, hgap', hrest ▸ h⟩⟩
  · rintro ⟨blank, rest, hblank, h | ⟨gap, source, gap', hgap, hname, hgap', h⟩⟩
    · exact .inl ⟨blank, rest, hblank, h⟩
    · obtain ⟨hsource, c, hc, hblank'⟩ := startsWithWord_afterSource_iff.mpr
        ⟨gap, source, gap', blank, rest, hgap, hname, hgap', hblank, rfl⟩
      rw [h, hfrom]
      have hstart := congrArg ("from".toList ++ ·) (List.eq_cons_of_mem_head? hc)
      exact .inr ⟨startsWithWord_iff.mpr ⟨c, _, hblank', hstart⟩, hsource⟩

instance (line : List Char) : Decidable (IsImport line) := decidable_of_iff _ isImportLike_iff

/-! ### The place below the last one -/

/-- A line of a text brings in names. -/
def IsImportLine (t : List Char) (k : Nat) : Prop :=
  ∃ line, (t.splitOn '\n')[k]? = some line ∧ IsImport line

lemma importPosition_append (ls ms : List (List Char)) :
    importPosition (ls ++ ms) =
      if 0 < importPosition ms then ls.length + importPosition ms else importPosition ls := by
  induction ls with
  | nil =>
    rw [List.nil_append, List.length_nil, Nat.zero_add]
    split
    · rfl
    · next h => exact Nat.eq_zero_of_not_pos h
  | cons line rest ih =>
    rw [List.cons_append, importPosition, importPosition, ih]
    by_cases hms : 0 < importPosition ms
    · simp only [hms, if_true, List.length_cons, Nat.add_pos_right _ hms]
      omega
    · simp only [hms, if_false]

lemma importPosition_cons_pos (hline : IsImport line) (rest : List (List Char)) :
    0 < importPosition (line :: rest) := by
  simp only [importPosition, isImportLike_iff.mpr hline, if_true]
  split <;> omega

/-- The position is the one below a line that brings in names, unless there is none. -/
lemma importPosition_eq_zero_or (ls : List (List Char)) :
    importPosition ls = 0 ∨
      ∃ k line, ls[k]? = some line ∧ IsImport line ∧ importPosition ls = k + 1 := by
  induction ls with
  | nil => exact .inl rfl
  | cons line rest ih =>
    rw [importPosition]
    rcases ih with hnone | ⟨k, last, hk, hlast, hposition⟩
    · simp only [hnone, lt_irrefl, if_false]
      by_cases hline : isImportLike line = true
      · exact .inr ⟨0, line, rfl, isImportLike_iff.mp hline, if_pos hline⟩
      · exact .inl (if_neg hline)
    · simp only [hposition, Nat.succ_pos, if_true]
      exact .inr ⟨k + 1, last, hk, hlast, rfl⟩

/-- No line at the position or below it brings in names. -/
lemma lt_importPosition {k : Nat} (hk : ls[k]? = some line) (hline : IsImport line) :
    k < importPosition ls := by
  obtain ⟨hlt, rfl⟩ := List.getElem?_eq_some_iff.mp hk
  rw [← List.take_append_drop k ls, importPosition_append, List.drop_eq_getElem_cons hlt,
    if_pos (importPosition_cons_pos hline _), List.length_take_of_le hlt.le]
  exact Nat.lt_add_of_pos_right (importPosition_cons_pos hline _)

lemma isGreatest_importPosition (t : List Char) :
    IsGreatest {p | p = 0 ∨ ∃ k, IsImportLine t k ∧ p = k + 1} (importPosition (lines t)) := by
  rw [lines_eq_splitOn]
  constructor
  · rcases importPosition_eq_zero_or (t.splitOn '\n') with hnone | ⟨k, line, hk, hline, hposition⟩
    · exact .inl hnone
    · exact .inr ⟨k, ⟨line, hk, hline⟩, hposition⟩
  · rintro p (rfl | ⟨k, ⟨line, hk, hline⟩, rfl⟩)
    · exact Nat.zero_le _
    · exact lt_importPosition hk hline

lemma importPosition_le_length (ls : List (List Char)) : importPosition ls ≤ ls.length := by
  rcases importPosition_eq_zero_or ls with hnone | ⟨k, line, hk, -, hposition⟩
  · omega
  · have hlt := (List.getElem?_eq_some_iff.mp hk).1
    omega

/-- A line is put in below the lines above the position. -/
lemma insertImport_joinLines (hfeed : ∀ line ∈ above ++ below, '\n' ∉ line)
    (hne : above ++ below ≠ []) (hposition : importPosition (above ++ below) = above.length)
    (content : List Char) :
    insertImport content (joinLines (above ++ below)) = joinLines (above ++ content :: below) := by
  rw [insertImport, lines_joinLines hne hfeed, hposition, splice, List.take_left, List.drop_left]

/-- A line that brings in names moves the position below itself. -/
lemma importPosition_insert (hposition : importPosition (above ++ below) = above.length)
    (hcontent : IsImport content) :
    importPosition ((above ++ [content]) ++ below) = (above ++ [content]).length := by
  have hbelow : importPosition below = 0 := by
    rw [importPosition_append] at hposition
    split at hposition
    · omega
    · omega
  have hsingle : importPosition [content] = 1 := by
    simp only [importPosition, isImportLike_iff.mpr hcontent, lt_irrefl, if_false, if_true]
  rw [importPosition_append, hbelow, if_neg (lt_irrefl 0), importPosition_append, hsingle,
    if_pos Nat.one_pos, List.length_append, List.length_singleton]

end Edit

/-! ### Lines put in one after another -/

/-- An instruction without a guard that puts a line in after the imports of the file at a path, where
the line brings in names itself. -/
structure Instruction.InsertsImport (context : Context) (q : Path) (i : Instruction) : Prop where
  action : i.action = .insertImport
  unguarded : i.condition = none
  path : context.resolve i.path = q
  isImport : Edit.IsImport (textOf i.content)
  oneLine : '\n' ∉ textOf i.content
  noReturn : '\r' ∉ textOf i.content

section Run

variable {context : Context} {q : Path} {i : Instruction} {is : List Instruction}

lemma Instruction.change_of_insertImport (haction : i.action = .insertImport) :
    i.change = .edit fun t => some (Edit.insertImport (textOf i.content) t) := by
  simp only [change, haction]

lemma Instruction.lacking_of_insertImport (haction : i.action = .insertImport)
    (hcontent : i.has .content = true) : i.lacking = [] := by
  refine lacking_eq_nil_iff.mpr fun f hf => ?_
  rw [haction, Action.needs, List.mem_singleton] at hf
  rw [hf, hcontent]

namespace Instruction.InsertsImport

lemma editsAt (hi : i.InsertsImport context q) : i.EditsAt context q where
  unguarded := hi.unguarded
  complete := lacking_of_insertImport hi.action <| has_of_textOf fun hnil => by
    have himport := hi.isImport
    rw [show textOf i.content = [] from hnil] at himport
    exact absurd himport (by decide)
  path := hi.path
  isEdit := ⟨_, change_of_insertImport hi.action⟩

lemma textAfter_eq (hi : i.InsertsImport context q) {t : List Char} (ht : '\r' ∉ t) :
    i.textAfter t = Edit.insertImport (textOf i.content) t := by
  have hputs := Edit.putsIn_insertImport (textOf i.content) t
  simp only [textAfter, change_of_insertImport hi.action, Option.elim_some]
  exact unifyLineEnds_of_not_mem (hputs.return_not_mem ht hi.noReturn)

end Instruction.InsertsImport

/-- Lines that bring in names are put in below the lines above the position, in the order in which
they come. -/
lemma foldl_textAfter_of_insertsImport (his : ∀ i ∈ is, i.InsertsImport context q)
    {above below : List (List Char)} (hfeed : ∀ line ∈ above ++ below, '\n' ∉ line)
    (hne : above ++ below ≠ []) (hreturn : '\r' ∉ joinLines (above ++ below))
    (hposition : Edit.importPosition (above ++ below) = above.length) :
    is.foldl Instruction.textAfter (joinLines (above ++ below)) =
      joinLines (above ++ is.map (fun i => textOf i.content) ++ below) := by
  -- the lines above the position grow by the one put in, which is then the last import
  induction is generalizing above with
  | nil => rw [List.map_nil, List.append_nil, List.foldl_nil]
  | cons i rest ih =>
    obtain ⟨hi, hrest⟩ := List.forall_mem_cons.mp his
    have hinsert := Edit.insertImport_joinLines hfeed hne hposition (textOf i.content)
    rw [List.append_cons] at hinsert
    have hstep := hi.textAfter_eq hreturn
    rw [hinsert] at hstep
    have hreturn' := (Edit.putsIn_insertImport (textOf i.content) _).return_not_mem hreturn hi.noReturn
    rw [hinsert] at hreturn'
    have hfeed' : ∀ line ∈ (above ++ [textOf i.content]) ++ below, '\n' ∉ line := by
      intro line hline
      rw [List.append_assoc, List.mem_append, List.mem_append, List.mem_singleton] at hline
      rcases hline with habove | rfl | hbelow
      · exact hfeed line (List.mem_append_left _ habove)
      · exact hi.oneLine
      · exact hfeed line (List.mem_append_right _ hbelow)
    rw [List.foldl_cons, hstep, ih hrest hfeed' (by simp) hreturn'
      (Edit.importPosition_insert hposition hi.isImport), List.map_cons, List.append_assoc above,
      List.singleton_append]

lemma foldl_textAfter_eq (his : ∀ i ∈ is, i.InsertsImport context q) {t : List Char}
    (ht : '\r' ∉ t) :
    is.foldl Instruction.textAfter t =
      joinLines ((lines t).take (Edit.importPosition (lines t)) ++
        is.map (fun i => textOf i.content) ++ (lines t).drop (Edit.importPosition (lines t))) := by
  obtain ⟨above, below, hlines, hposition⟩ : ∃ above below, lines t = above ++ below ∧
      Edit.importPosition (above ++ below) = above.length := by
    refine ⟨_, _, (List.take_append_drop (Edit.importPosition (lines t)) (lines t)).symm, ?_⟩
    rw [List.take_append_drop, List.length_take_of_le (Edit.importPosition_le_length _)]
  have htext : joinLines (above ++ below) = t := by rw [← hlines, joinLines_lines]
  have hfeed : ∀ line ∈ above ++ below, '\n' ∉ line := fun line hline =>
    not_mem_of_mem_lines (hlines ▸ hline)
  have hrun := foldl_textAfter_of_insertsImport his hfeed (hlines ▸ lines_ne_nil t) (htext ▸ ht)
    hposition
  rw [htext] at hrun
  rw [hrun, hlines, hposition, List.take_left, List.drop_left]

end Run

/-- A line is put in below the last line of a file that brings in names, or at the top if there is
none. Lines that bring in names themselves, put in by one instruction after another, come to stand
there in the order of the instructions, whatever becomes of the records. No record may be kept in the
file itself. -/
theorem Instruction.insertImport_keepsOrder {log : Option Log.Store} {context : Context} {q : Path}
    {s : Site} {t : List Char} (hread : s.disk.readText q = .ok t)
    (hclear : Log.KeepsClear log context q)
    (hnull : ∀ store, log = some store → Disk.hasNull store.directory = false) :
    ∃ p, IsGreatest {p | p = 0 ∨ ∃ k, Edit.IsImportLine t k ∧ p = k + 1} p ∧
      (∀ (i : Instruction) (c : String), i.action = .insertImport → i.content = some c →
        context.resolve i.path = q →
        i.lacking = [] ∧ i.Edits context s.disk
          (some (['\n'].intercalate ((t.splitOn '\n').insertIdx p c.toList)))) ∧
      ∀ is : List Instruction, (∀ i ∈ is, i.InsertsImport context q) →
        ∃ summary s', (applyAll log context is).outcome s = (.ok summary, s') ∧
          s'.disk.readText q = .ok (['\n'].intercalate
            ((t.splitOn '\n').take p ++ is.map (fun i => textOf i.content) ++
              (t.splitOn '\n').drop p)) := by
  refine ⟨_, Edit.isGreatest_importPosition t, ?_, fun is his => ?_⟩
  · rintro i c haction hcontent rfl
    have hhas : i.has .content = true := has_iff.mpr ⟨c, hcontent, .inl rfl⟩
    refine ⟨lacking_of_insertImport haction hhas, ?_⟩
    have hedits := edits_of_readText (change_of_insertImport haction) hread
    rw [show textOf i.content = c.toList by rw [hcontent]; rfl, Edit.insertImport,
      Edit.splice_eq_insertIdx (Edit.importPosition_le_length _), joinLines_eq_intercalate] at hedits
    rwa [lines_eq_splitOn] at hedits ⊢
  · obtain ⟨results, s', hrun, hread'⟩ :=
      applyFrom_of_editsAt hclear hnull (fun i hi => (his i hi).editsAt) 0 hread
    refine ⟨_, s', Job.outcome_bind_of_ok hrun _, ?_⟩
    obtain ⟨-, u, -, -, rfl⟩ := Disk.readText_eq_ok hread
    rw [hread', foldl_textAfter_eq his (not_mem_unifyLineEnds u), joinLines_eq_intercalate,
      lines_eq_splitOn]

/-- Two lines are put in below the second of two imports, with a log beside the project. -/
theorem Instruction.insertImport_keepsOrder_of_two :
    let store : Log.Store := ⟨["logs"]⟩
    let context : Context := ⟨[], ["proj"], "shop", "auth", false⟩
    let q : Path := ["proj", "a.py"]
    let insert (line : String) : Instruction :=
      ⟨"a.py", .insertImport, some line, none, none, none, none, none, none⟩
    let is := [insert "import c", insert " from d\timport e"]
    let t := "import os\nx\nfrom a import b\nimport\n".toList
    let s : Site :=
      ⟨⟨[(["proj"], .directory), (["proj", "a.py"], .file (Text.Utf8.encode t))]⟩, ⟨1000, 1⟩, []⟩
    s.disk.readText q = .ok t ∧ Log.KeepsClear (some store) context q ∧
      Disk.hasNull store.directory = false ∧ (∀ i ∈ is, i.InsertsImport context q) ∧
      ∃ summary s', (applyAll (some store) context is).outcome s = (.ok summary, s') ∧
        s'.disk.readText q =
          .ok "import os\nx\nfrom a import b\nimport c\n from d\timport e\nimport\n".toList := by
  intro store context q insert is t s
  have hread : s.disk.readText q = .ok t := by decide +kernel
  have hclear : Log.KeepsClear (some store) context q := by
    rintro _ ⟨⟩ index time heq
    exact absurd (List.cons.inj heq).1 (by decide)
  have hnull : Disk.hasNull store.directory = false := by decide
  have his : ∀ i ∈ is, i.InsertsImport context q := by
    refine List.forall_mem_cons.mpr ⟨?_, List.forall_mem_singleton.mpr ?_⟩
    · exact ⟨rfl, rfl, by decide +kernel, by decide, by decide, by decide⟩
    · exact ⟨rfl, rfl, by decide +kernel, by decide, by decide, by decide⟩
  obtain ⟨p, hgreatest, -, hrun⟩ := insertImport_keepsOrder hread hclear (by rintro _ ⟨⟩; exact hnull)
  -- the last line starts with the word, but there is no blank after it
  have hposition : Edit.importPosition (lines t) = 3 := by decide
  obtain rfl : p = 3 := (hgreatest.unique (Edit.isGreatest_importPosition t)).trans hposition
  obtain ⟨summary, s', hout, hread'⟩ := hrun is his
  exact ⟨hread, hclear, hnull, his, summary, s', hout, by rw [hread']; decide⟩

end Scaffold
