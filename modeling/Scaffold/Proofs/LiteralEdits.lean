import Scaffold.Proofs.TagScan
import Scaffold.Proofs.Utf8RoundTrip

/-!
# What an edit keeps of the bytes of a file

An edit reads the whole text of a file and writes the whole text. The bytes outside of the region
that it edits are those of the text that was read. They are the bytes of the file if there is no
carriage return in it, and otherwise they are not, because all line ends are read alike.
-/

namespace Scaffold

open Disk Text Edit

/-! ### Bytes -/

namespace Text.Utf8

lemma encode_intercalate (separator : List Char) (ps : List (List Char)) :
    encode (separator.intercalate ps) = (encode separator).intercalate (ps.map encode) := by
  induction ps with
  | nil => rfl
  | cons piece rest ih =>
    cases rest with
    | nil => simp
    | cons next more =>
      rw [List.intercalate_cons_cons, encode_append, encode_append, ih]
      exact List.intercalate_cons_cons.symm

/-- The bytes of a file are those of the text that is read from it exactly if there is no carriage
return in the file. -/
lemma encode_unifyLineEnds_eq_iff {bytes : List UInt8} {t : List Char}
    (h : decode bytes = .ok t) : encode (unifyLineEnds t) = bytes ↔ '\r' ∉ t := by
  rw [← unifyLineEnds_eq_self_iff]
  constructor
  · intro heq
    exact encode_injective (heq.trans (encode_of_decode h).symm)
  · intro heq
    rw [heq, encode_of_decode h]

end Text.Utf8

lemma Edit.PutsIn.exists_bytes {content t t' : List Char} (h : PutsIn content t t') :
    ∃ before block after, IsBlock content block ∧ Utf8.encode t = before ++ after ∧
      Utf8.encode t' = before ++ Utf8.encode block ++ after := by
  obtain ⟨before, block, after, hblock, rfl, rfl⟩ := h
  exact ⟨Utf8.encode before, block, Utf8.encode after, hblock, by simp, by simp⟩

/-- How an edit changes the bytes of a file if it changes nothing but what it is asked to. What is
put in is one block; a pattern is replaced wherever it is taken to occur, and nothing else; an
attribute changes one tag. -/
def Instruction.IsLiteral (i : Instruction) (old new : List UInt8) : Prop :=
  match i.action with
  | .createFile => True
  | .deleteFile => True
  | .insertImport | .insertAfter | .insertBefore | .appendToFile =>
    ∃ before block after, IsBlock (textOf i.content) block ∧ old = before ++ after ∧
      new = before ++ Utf8.encode block ++ after
  | .replaceContent =>
    ∃ pieces : List (List UInt8), 2 ≤ pieces.length ∧
      old = (Utf8.encode (textOf i.pattern)).intercalate pieces ∧
      new = (Utf8.encode (textOf i.replacement)).intercalate pieces
  | .insertProp =>
    ∃ before tag tag' after,
      AddsAttribute (textOf i.componentName)
        (attributeText (textOf i.propName) (i.propValue.map String.toList)) tag tag' ∧
      old = before ++ Utf8.encode tag ++ after ∧ new = before ++ Utf8.encode tag' ++ after

/-! ### Changes -/

namespace Change

variable {p : Path} {d d' : Disk}

lemma read_eq_ok {u : List Char} (h : read p d = .ok u) :
    ∃ bytes t, d.entry? p.location = some (.file bytes) ∧ Utf8.decode bytes = .ok t ∧
      u = unifyLineEnds t := by
  rw [read] at h
  split at h
  · cases h
  · cases h
  · split at h
    · cases h
    · next hread =>
      obtain rfl := Except.ok.inj h
      exact readText_eq_ok hread

lemma write_eq_ok {t : List Char} {changed : Bool} (h : write p t d = (.ok changed, d')) :
    d'.entry? p.location = some (.file (Utf8.encode t)) := by
  rw [write] at h
  rcases saveText_cases d p t with ⟨e, d₁, hsave, -⟩ | ⟨d₁, hsave, -, hentry⟩
  · rw [hsave] at h
    cases e <;> cases h
  · rw [hsave] at h
    obtain ⟨-, rfl⟩ := Prod.mk.inj h
    rw [entry?_put (ne_nil_of_entry?_ne hentry), if_pos rfl]

/-- An edit that has been made has read a text, has found something to edit and has written it. -/
lemma exists_write_of_edit {f : List Char → Option (List Char)}
    (h : (edit f).apply p d = (.ok true, d')) :
    ∃ u t', read p d = .ok u ∧ f u = some t' ∧ write p t' d = (.ok true, d') := by
  unfold apply at h
  cases hread : read p d with
  | error fault =>
    simp only [hread] at h
    cases h
  | ok u =>
    simp only [hread] at h
    cases hf : f u with
    | none =>
      simp only [hf] at h
      cases h
    | some t' =>
      simp only [hf] at h
      exact ⟨u, t', rfl, hf, h⟩

/-- An edit that has been made has put the edited text in the place of the text that was there. -/
lemma edit_eq_ok {f : List Char → Option (List Char)} (h : (edit f).apply p d = (.ok true, d')) :
    ∃ bytes t t', d.entry? p.location = some (.file bytes) ∧ Utf8.decode bytes = .ok t ∧
      f (unifyLineEnds t) = some t' ∧ d'.entry? p.location = some (.file (Utf8.encode t')) := by
  obtain ⟨u, t', hread, hf, hwrite⟩ := exists_write_of_edit h
  obtain ⟨bytes, t, hentry, hdecode, rfl⟩ := read_eq_ok hread
  exact ⟨bytes, t, t', hentry, hdecode, hf, write_eq_ok hwrite⟩

end Change

namespace Instruction

variable {i : Instruction}

lemma pattern_ne_nil (haction : i.action = .replaceContent) (h : i.lacking = []) :
    textOf i.pattern ≠ [] := by
  have hneeds : NeededField.pattern ∈ i.action.needs := by
    rw [haction]
    exact List.mem_cons_self
  obtain ⟨s, hpattern, hempty | hs⟩ := has_iff.mp (lacking_eq_nil_iff.mp h .pattern hneeds)
  · cases hempty
  · rw [show i.pattern = some s from hpattern]
    simpa [textOf] using hs

/-- An edit that an instruction asks for is literal. -/
lemma isLiteral_of_change {f : List Char → Option (List Char)} (hlacking : i.lacking = [])
    (hchange : i.change = .edit f) {t t' : List Char} (h : f t = some t') :
    i.IsLiteral (Utf8.encode t) (Utf8.encode t') := by
  have hpattern := pattern_ne_nil (i := i)
  unfold change at hchange
  unfold IsLiteral
  cases haction : i.action <;>
    simp only [haction, reduceCtorEq, Change.edit.injEq] at hchange ⊢ <;>
    subst hchange
  case insertImport =>
    obtain rfl := Option.some.inj h
    exact (putsIn_insertImport _ _).exists_bytes
  case insertAfter => exact (putsLineIn_of_insertBeside h).putsIn.exists_bytes
  case insertBefore => exact (putsLineIn_of_insertBeside h).putsIn.exists_bytes
  case replaceContent =>
    obtain ⟨ps, hlength, rfl, rfl⟩ := replaceContent_eq_some (hpattern haction hlacking) h
    refine ⟨ps.map Utf8.encode, ?_, Utf8.encode_intercalate _ _, Utf8.encode_intercalate _ _⟩
    rwa [List.length_map]
  case appendToFile =>
    obtain rfl := Option.some.inj h
    exact (putsIn_append _ _).exists_bytes
  case insertProp =>
    obtain ⟨before, tag, tag', after, htag, rfl, rfl⟩ := insertProp_eq_some h
    exact ⟨Utf8.encode before, tag, tag', Utf8.encode after, htag, by simp, by simp⟩

lemma exists_change_eq_edit (hcreate : i.action ≠ .createFile) (hdelete : i.action ≠ .deleteFile) :
    ∃ f, i.change = .edit f := by
  unfold change
  cases haction : i.action
  case createFile => exact absurd haction hcreate
  case deleteFile => exact absurd haction hdelete
  all_goals exact ⟨_, rfl⟩

lemma tryChange_executed {context : Context} {d d' : Disk} {changed : Bool}
    (h : i.tryChange context d = (.executed changed, d')) :
    i.lacking = [] ∧ i.change.apply (context.resolve i.path) d = (.ok changed, d') := by
  rw [tryChange] at h
  cases hlacking : i.lacking with
  | cons field fields =>
    rw [hlacking] at h
    cases h
  | nil =>
    rw [hlacking] at h
    dsimp only at h
    rcases hchange : i.change.apply (context.resolve i.path) d with ⟨(cause | e) | changed', d₁⟩
    · rw [hchange] at h
      cases h
    · rw [hchange] at h
      cases h
    · rw [hchange] at h
      cases h
      exact ⟨rfl, rfl⟩

lemma attempt_executed {context : Context} {d d' : Disk} {a : Attempt} {changed : Bool}
    (h : i.attempt context d = (.ok a, d')) (ha : a.ending = .executed changed) :
    i.lacking = [] ∧ i.change.apply (context.resolve i.path) d = (.ok changed, d') := by
  rcases (attempt_eq_ok h).2 with ⟨-, hskipped, -⟩ | ⟨-, htried⟩
  · rw [hskipped] at ha
    cases ha
  · exact tryChange_executed (ha ▸ htried)

lemma executed_of_result {a : Attempt} {hash : Option String} {r : Report}
    (h : .ok r = a.result i hash) (hchanged : r.changed = true) : a.ending = .executed true := by
  rw [Attempt.result] at h
  split at h
  · obtain rfl := Except.ok.inj h
    cases hchanged
  · next changed hending =>
    obtain rfl := Except.ok.inj h
    rw [hending, show changed = true from hchanged]
  · cases h
  · cases h

/-- An edit that has been made leaves a file that it has changed nowhere but where it was asked to,
from what the file was with a line feed for every line end. That is what the file was exactly if it
had no carriage return. The log must not keep the record in the file itself. -/
theorem apply_isLiteral {log : Option Log.Store} {context : Context} {index : Int} {s s' : Site}
    {r : Report} (h : (i.apply log context index).outcome s = (.ok r, s'))
    (hchanged : r.changed = true) (hcreate : i.action ≠ .createFile)
    (hdelete : i.action ≠ .deleteFile) {bytes : List UInt8} {t : List Char}
    (hfile : s.disk.entry? (context.resolve i.path).location = some (.file bytes))
    (hdecode : Utf8.decode bytes = .ok t)
    (hlog : ∀ store, log = some store → (context.resolve i.path).location ≠
      store.directory.location ++
        [Log.hashOf context.project context.module index s.clock.now ++ ".json"]) :
    ∃ bytes', s'.disk.entry? (context.resolve i.path).location = some (.file bytes') ∧
      i.IsLiteral (Utf8.encode (unifyLineEnds t)) bytes' ∧
      (Utf8.encode (unifyLineEnds t) = bytes ↔ '\r' ∉ t) := by
  obtain ⟨x, d, hattempt, hdisk, ⟨a, hash, rfl, hresult⟩ | ⟨e, he, -⟩⟩ := outcome_apply_cases h
  swap
  · cases he
  obtain ⟨hlacking, hchange⟩ := attempt_executed hattempt (executed_of_result hresult hchanged)
  obtain ⟨f, hf⟩ := exists_change_eq_edit hcreate hdelete
  rw [hf] at hchange
  obtain ⟨bytes₀, t₀, t', hfile₀, hdecode₀, hedit, hwritten⟩ := Change.edit_eq_ok hchange
  obtain rfl : bytes₀ = bytes := by simpa [hfile₀] using hfile
  obtain rfl : t₀ = t := Except.ok.inj (hdecode₀.symm.trans hdecode)
  refine ⟨Utf8.encode t', ?_, isLiteral_of_change hlacking hf hedit,
    Utf8.encode_unifyLineEnds_eq_iff hdecode⟩
  rcases hdisk with hdisk | ⟨store, record, hstore, hhash, hdisk⟩
  · rw [hdisk, hwritten]
  · have hhex : ∀ c ∈ record.hash.toList, Log.IsHexDigit c := fun _ hc =>
      Log.isHexDigit_of_mem_hashOf (hhash ▸ hc)
    rcases Log.save_entry?_cases store record d hhex (context.resolve i.path).location with
      hsame | hmade | ⟨hrecord, -, -⟩
    · rw [hdisk, hsame, hwritten]
    · exact absurd (hwritten.symm.trans hmade.missing) (by simp)
    · exact absurd (hhash ▸ hrecord) (hlog store hstore)

/-- A line is appended to a file with line feeds only. -/
theorem apply_isLiteral_of_lineFeeds :
    let store : Log.Store := ⟨["logs"]⟩
    let context : Context := ⟨[], ["proj"], "shop", "auth", false⟩
    let i : Instruction := ⟨"a.txt", .appendToFile, some "z", none, none, none, none, none, none⟩
    let bytes : List UInt8 := Utf8.encode ['x', '\n', 'y']
    let s : Site :=
      ⟨⟨[(["proj"], .directory), (["proj", "a.txt"], .file bytes)]⟩, ⟨1000, 1⟩, []⟩
    let out := (i.apply (some store) context 0).outcome s
    out.1.toOption = some ⟨.executed, true, [], some "8c27efca0963"⟩ ∧
      ∃ bytes', out.2.disk.entry? (context.resolve i.path).location = some (.file bytes') ∧
        i.IsLiteral bytes bytes' := by
  intro store context i bytes s out
  have hreport : out.1.toOption = some ⟨.executed, true, [], some "8c27efca0963"⟩ := by
    decide +kernel
  refine ⟨hreport, ?_⟩
  rcases hout : (i.apply (some store) context 0).outcome s with ⟨e | r, s'⟩
  · have hnone : out.1 = .error e := congrArg Prod.fst hout
    rw [hnone] at hreport
    cases hreport
  · have hok : out.1 = .ok r := congrArg Prod.fst hout
    rw [hok] at hreport
    have hfile : s.disk.entry? (context.resolve i.path).location = some (.file bytes) := by decide
    obtain ⟨bytes', hentry, hliteral, hsame⟩ := apply_isLiteral hout
      (congrArg Report.changed (Option.some.inj hreport)) (by decide) (by decide) hfile
      (Utf8.decode_encode _) (by rintro _ ⟨⟩; decide +kernel)
    rw [hsame.mpr (by decide)] at hliteral
    refine ⟨bytes', ?_, hliteral⟩
    have hdisk : out.2.disk = s'.disk := congrArg (fun o => o.2.disk) hout
    rw [hdisk]
    exact hentry

/-- A line is appended to a file in which every line ends with a carriage return and a line feed.
The file is then shorter than it was, so that it is not what it was with a block put in. -/
theorem not_apply_isLiteral :
    let context : Context := ⟨[], ["proj"], "shop", "auth", false⟩
    let i : Instruction := ⟨"a.txt", .appendToFile, some "z", none, none, none, none, none, none⟩
    let bytes : List UInt8 := Utf8.encode ['x', '\r', '\n', 'y', '\r', '\n']
    let s : Site :=
      ⟨⟨[(["proj"], .directory), (["proj", "a.txt"], .file bytes)]⟩, ⟨1000, 1⟩, []⟩
    let out := (i.apply none context 0).outcome s
    out.1.toOption = some ⟨.executed, true, [], none⟩ ∧
      ∃ bytes', out.2.disk.entry? (context.resolve i.path).location = some (.file bytes') ∧
        ∀ before block after, bytes = before ++ after → bytes' ≠ before ++ block ++ after := by
  intro context i bytes s out
  refine ⟨by decide +kernel, Utf8.encode ['x', '\n', 'y', '\n', 'z'], by decide +kernel, ?_⟩
  intro before block after hold hnew
  have hlength : bytes.length ≤ (Utf8.encode ['x', '\n', 'y', '\n', 'z']).length := by
    rw [hold, hnew]
    simp only [List.length_append]
    omega
  exact absurd hlength (by decide)

end Instruction

end Scaffold
