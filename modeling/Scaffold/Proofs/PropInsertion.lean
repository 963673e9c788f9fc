import Scaffold.Proofs.SuccessiveEdits
import Scaffold.Proofs.TagScan

/-!
# Adding attributes one after another

A tag to which an attribute has been added begins where it did, and what stands in it is read again
as the attributes that it had and the new one. So attributes that are added one after another all
come to stand in the same tag, in the order in which they came, and the tag is closed in the end as
it was at the start.
-/

namespace Scaffold

open Text

namespace Edit

variable {component before inside after t prop : List Char} {props : List (List Char)}

/-! ### The first tag of a text -/

/-- The first tag of a component, cut out of the text: what stands before it, what stands in it
between the name and its `>`, and what stands after it. -/
structure IsFirstTag (component before inside after t : List Char) : Prop where
  text : t = before ++ ('<' :: component ++ inside ++ '>' :: after)
  noClosing : '>' ∉ inside
  isLeast : IsLeast {k | IsTagAt component t k} before.length

/-- What stands in a tag after an attribute has been added. -/
def withProp (inside prop : List Char) : List Char :=
  bare inside ++ ' ' :: prop ++ if endsInSlash inside then [' ', '/'] else []

/-- A tag begins at a place if it does so in another text that is the same up to where the name of
the tag has ended. -/
lemma IsTagAt.of_append {head tail tail' : List Char} {k : ℕ} (h : IsTagAt component (head ++ tail) k)
    (hk : k + component.length + 2 ≤ head.length) (hgt : '>' ∈ tail') :
    IsTagAt component (head ++ tail') k := by
  obtain ⟨c, rest, hdrop, hends, -⟩ := h
  have hle : k ≤ head.length := by omega
  rw [List.drop_append_of_le_length hle, List.append_cons, List.cons_append] at hdrop
  have hwhole : '<' :: (component ++ [c]) <+: head.drop k ++ tail := ⟨rest, hdrop.symm⟩
  have hname : '<' :: (component ++ [c]) <+: head.drop k := by
    refine List.prefix_of_prefix_length_le hwhole (List.prefix_append _ _) ?_
    rw [List.length_drop, List.length_cons, List.length_append, List.length_singleton]
    omega
  obtain ⟨more, hmore⟩ := hname
  refine ⟨c, more ++ tail', ?_, hends, List.mem_cons_of_mem _ (List.mem_append_right _ hgt)⟩
  rw [List.drop_append_of_le_length hle, ← hmore]
  simp

lemma exists_isFirstTag (h : ∃ k, IsTagAt component t k) :
    ∃ before inside after, IsFirstTag component before inside after t := by
  obtain ⟨k, hk⟩ := h
  rcases insertProp_cases component [] t with
    ⟨before, inside, after, ht, hgt, hleast, -⟩ | ⟨hno, -⟩
  · exact ⟨before, inside, after, ht, hgt, hleast⟩
  · exact absurd hk (hno k)

namespace IsFirstTag

variable (h : IsFirstTag component before inside after t)

include h

/-- What ends the name of the tag is the first character of what stands in it, if there is any. -/
lemma endsName_head {c : Char} {rest : List Char} (hinside : inside = c :: rest) :
    endsName c = true := by
  obtain ⟨c', rest', hdrop, hends, -⟩ := h.isLeast.1
  rw [h.text, List.drop_left, hinside, List.append_assoc, List.append_cancel_left_eq] at hdrop
  rwa [(List.cons.inj hdrop).1]

/-- There is one way only to cut out the first tag. -/
lemma unique {before' inside' after' : List Char}
    (h' : IsFirstTag component before' inside' after' t) :
    before = before' ∧ inside = inside' ∧ after = after' := by
  have hlength : before.length = before'.length := h.isLeast.unique h'.isLeast
  obtain ⟨rfl, htag⟩ := List.append_inj (h.text.symm.trans h'.text) hlength
  rw [List.append_assoc, List.append_assoc, List.append_cancel_left_eq] at htag
  exact ⟨rfl, (append_cons_inj_of_not_mem h.noClosing h'.noClosing).mp htag⟩

/-- An attribute is added to what stands in the first tag. -/
lemma insertProp_eq (prop : List Char) :
    insertProp component prop t =
      some (before ++ ('<' :: component ++ withProp inside prop ++ '>' :: after)) := by
  rcases insertProp_cases component prop t with
    ⟨before', inside', after', ht, hgt, hleast, hinsert⟩ | ⟨hno, -⟩
  · obtain ⟨rfl, rfl, rfl⟩ := h.unique ⟨ht, hgt, hleast⟩
    rw [hinsert, withProp]
    cases endsInSlash inside <;> simp [closingText]
  · exact absurd h.isLeast.1 (hno _)

/-- A tag to which an attribute has been added is still the first one. -/
lemma withProp (hprop : '>' ∉ prop) :
    IsFirstTag component before (withProp inside prop) after
      (before ++ ('<' :: component ++ Edit.withProp inside prop ++ '>' :: after)) where
  text := rfl
  noClosing := by
    have hbare : '>' ∉ bare inside := fun hmem => h.noClosing ((bare_isPrefix inside).subset hmem)
    rw [Edit.withProp]
    cases endsInSlash inside <;> simp [hbare, hprop]
  isLeast := by
    have hregroup : ∀ inside' : List Char,
        before ++ ('<' :: component ++ inside' ++ '>' :: after) =
          (before ++ '<' :: component) ++ (inside' ++ '>' :: after) := by simp
    refine ⟨?_, fun k hk => ?_⟩
    · obtain ⟨c, rest, hinside, hends⟩ : ∃ c rest, Edit.withProp inside prop = c :: rest ∧
          endsName c = true := by
        rw [Edit.withProp]
        cases hbare : bare inside with
        | nil => exact ⟨' ', _, rfl, rfl⟩
        | cons c rest =>
          obtain ⟨more, hmore⟩ := bare_isPrefix inside
          rw [hbare, List.cons_append] at hmore
          exact ⟨c, _, rfl, h.endsName_head hmore.symm⟩
      refine ⟨c, rest ++ '>' :: after, ?_, hends, by simp⟩
      rw [List.drop_left, hinside]
      simp
    · -- a tag before this one would have been there already
      by_contra hlt
      rw [not_le] at hlt
      rw [Set.mem_ofPred_eq, hregroup] at hk
      have hold : IsTagAt component t k := by
        rw [h.text, hregroup]
        exact hk.of_append (by rw [List.length_append, List.length_cons]; omega) (by simp)
      exact absurd (h.isLeast.2 hold) (not_le.mpr hlt)

end IsFirstTag

/-! ### What stands in the tag -/

lemma trimEnd_append_blank (t : List Char) {c : Char} (hc : isBlank c = true) :
    trimEnd (t ++ [c]) = trimEnd t := by
  simp [trimEnd, hc]

lemma trimEnd_concat (t : List Char) {c : Char} (hc : isBlank c = false) :
    trimEnd (t ++ [c]) = t ++ [c] := by
  simp [trimEnd, hc]

/-- An attribute that ends in a brace is read again as it was added. -/
lemma bare_withProp (inside prop : List Char) :
    bare (withProp inside (prop ++ ['}'])) = bare inside ++ ' ' :: (prop ++ ['}']) ∧
      endsInSlash (withProp inside (prop ++ ['}'])) = endsInSlash inside := by
  have hregroup : bare inside ++ ' ' :: (prop ++ ['}']) = (bare inside ++ ' ' :: prop) ++ ['}'] := by
    simp
  have htrim := trimEnd_concat (bare inside ++ ' ' :: prop) (c := '}') rfl
  rw [withProp, hregroup]
  cases endsInSlash inside with
  | false =>
    have hends : endsInSlash ((bare inside ++ ' ' :: prop) ++ ['}']) = false := by
      rw [endsInSlash, List.getLast?_concat]
      rfl
    simp only [Bool.false_eq_true, if_false, List.append_nil]
    refine ⟨?_, hends⟩
    rw [bare, hends, if_neg Bool.false_ne_true, htrim]
  | true =>
    have hsplit : (bare inside ++ ' ' :: prop) ++ ['}'] ++ [' ', '/'] =
        ((bare inside ++ ' ' :: prop) ++ ['}'] ++ [' ']) ++ ['/'] := by simp
    have hends : endsInSlash ((bare inside ++ ' ' :: prop) ++ ['}'] ++ [' ', '/']) = true := by
      rw [hsplit, endsInSlash, List.getLast?_concat]
      rfl
    simp only [if_true]
    refine ⟨?_, hends⟩
    rw [bare, hends, if_pos rfl, hsplit, List.dropLast_concat, trimEnd_append_blank _ rfl, htrim]

lemma withProp_ne (inside prop : List Char) : withProp inside (prop ++ ['}']) ≠ inside := by
  intro hsame
  have hbare := (bare_withProp inside prop).1
  rw [hsame] at hbare
  simpa using congrArg List.length hbare

/-- Attributes that end in braces stand in a tag in the order in which they were added. -/
lemma foldl_withProp (hprops : ∀ prop ∈ props, ∃ start, prop = start ++ ['}']) (hne : props ≠ []) :
    props.foldl withProp inside =
      bare inside ++ props.flatMap (' ' :: ·) ++ if endsInSlash inside then [' ', '/'] else [] := by
  induction props generalizing inside with
  | nil => exact absurd rfl hne
  | cons prop rest ih =>
    obtain ⟨⟨start, rfl⟩, hrest⟩ := List.forall_mem_cons.mp hprops
    rw [List.foldl_cons, List.flatMap_cons]
    by_cases hnil : rest = []
    · rw [hnil, List.foldl_nil, List.flatMap_nil, List.append_nil, withProp]
    · obtain ⟨hbare, hends⟩ := bare_withProp inside start
      rw [ih hrest hnil, hbare, hends]
      simp

end Edit

/-! ### Attributes added one after another -/

/-- An attribute with a value as it is written in a tag. -/
def Instruction.propText (i : Instruction) : List Char :=
  textOf i.propName ++ ['=', '{'] ++ textOf i.propValue ++ ['}']

/-- An instruction without a guard that adds an attribute with a value to a component in the file at
a path. -/
structure Instruction.InsertsProp (context : Context) (q : Path) (component : String)
    (i : Instruction) : Prop where
  action : i.action = .insertProp
  unguarded : i.condition = none
  path : context.resolve i.path = q
  componentName : i.componentName = some component
  name : textOf i.propName ≠ []
  value : textOf i.propValue ≠ []
  noClosing : '>' ∉ textOf i.propName ++ textOf i.propValue
  noReturn : '\r' ∉ textOf i.propName ++ textOf i.propValue

section Run

variable {context : Context} {q : Path} {component : String} {i : Instruction}
  {is : List Instruction} {before inside after t : List Char}

lemma Instruction.not_mem_propText {c : Char} (hc : c ∉ textOf i.propName ++ textOf i.propValue)
    (hmarks : c ∉ ['=', '{', '}']) : c ∉ i.propText := by
  simp only [propText, List.mem_append, List.mem_cons, List.not_mem_nil, or_false] at hc hmarks ⊢
  tauto

namespace Instruction.InsertsProp

variable (hi : i.InsertsProp context q component)

include hi

lemma change_eq : i.change = .edit (Edit.insertProp component.toList i.propText) := by
  have hprop : Edit.attributeText (textOf i.propName) (i.propValue.map String.toList) =
      i.propText := by
    cases hvalue : i.propValue with
    | none => exact absurd (by rw [hvalue]; rfl) hi.value
    | some v =>
      have hne : v.toList ≠ [] := by simpa [textOf, hvalue] using hi.value
      obtain ⟨c, rest, hv⟩ := List.exists_cons_of_ne_nil hne
      rw [propText, hvalue, Option.map_some, hv]
      simp [Edit.attributeText, textOf, hv]
  simp only [change, hi.action, hprop, hi.componentName]
  rfl

lemma editsAt (hcomponent : component ≠ "") : i.EditsAt context q where
  unguarded := hi.unguarded
  complete := by
    have hneeds : i.action.needs = [.componentName, .propName] := by rw [hi.action, Action.needs]
    exact lacking_eq_nil_of_pair hneeds
      (has_iff.mpr ⟨component, hi.componentName, .inr hcomponent⟩) (has_of_textOf hi.name)
  path := hi.path
  isEdit := ⟨_, hi.change_eq⟩

/-- The text after an attribute has been added to its first tag. -/
lemma textAfter_eq (htag : Edit.IsFirstTag component.toList before inside after t) (ht : '\r' ∉ t) :
    i.textAfter t = before ++ ('<' :: component.toList ++ Edit.withProp inside i.propText ++
      '>' :: after) ∧ '\r' ∉ i.textAfter t := by
  have hreturn : '\r' ∉ before ++ ('<' :: component.toList ++ Edit.withProp inside i.propText ++
      '>' :: after) := by
    have hprop := not_mem_propText hi.noReturn (by decide)
    have hbare : '\r' ∈ Edit.bare inside → '\r' ∈ inside :=
      fun hmem => (Edit.bare_isPrefix inside).subset hmem
    rw [htag.text] at ht
    simp only [List.mem_append, List.mem_cons, not_or] at ht ⊢
    simp only [Edit.withProp]
    cases Edit.endsInSlash inside <;> simp <;> tauto
  have hafter : i.textAfter t = before ++ ('<' :: component.toList ++
      Edit.withProp inside i.propText ++ '>' :: after) := by
    simp only [textAfter, hi.change_eq, htag.insertProp_eq, Option.elim_some]
    exact unifyLineEnds_of_not_mem hreturn
  exact ⟨hafter, hafter ▸ hreturn⟩

end Instruction.InsertsProp

/-- The first tag takes in all attributes that are added, and stays the first one. -/
lemma isFirstTag_foldl_textAfter (his : ∀ i ∈ is, i.InsertsProp context q component)
    (htag : Edit.IsFirstTag component.toList before inside after t) (ht : '\r' ∉ t) :
    Edit.IsFirstTag component.toList before
      ((is.map Instruction.propText).foldl Edit.withProp inside) after
      (is.foldl Instruction.textAfter t) := by
  induction is generalizing inside t with
  | nil => exact htag
  | cons i rest ih =>
    obtain ⟨hi, hrest⟩ := List.forall_mem_cons.mp his
    obtain ⟨hafter, hreturn⟩ := hi.textAfter_eq htag ht
    have htag' := htag.withProp (Instruction.not_mem_propText hi.noClosing (by decide))
    rw [List.map_cons, List.foldl_cons, List.foldl_cons]
    exact ih hrest (hafter ▸ htag') hreturn

lemma return_not_mem_of_readText {d : Disk} {p : Path} (h : d.readText p = .ok t) : '\r' ∉ t := by
  obtain ⟨-, u, -, -, rfl⟩ := Disk.readText_eq_ok h
  exact not_mem_unifyLineEnds u

/-- What is read before an instruction of a batch of edits of one file. -/
lemma readText_siteAt_of_editsAt {log : Option Log.Store} {s : Site}
    (hclear : Log.KeepsClear log context q)
    (hnull : ∀ store, log = some store → Disk.hasNull store.directory = false)
    (his : ∀ i ∈ is, i.EditsAt context q) (hread : s.disk.readText q = .ok t) (k : Nat) :
    (Batch.siteAt log context is s k).disk.readText q =
      .ok ((is.take k).foldl Instruction.textAfter t) := by
  obtain ⟨results, s', hrun, hread'⟩ :=
    applyFrom_of_editsAt hclear hnull (fun i hi => his i (List.mem_of_mem_take hi)) 0 hread
  rw [Batch.siteAt, hrun]
  exact hread'

end Run

/-- Attributes with values that are added to a component of one file, by one instruction after
another, all change the file, and each of them finds the tag where it was at the start, the first of
its component. What the tag then holds is what it held at the start, without the slash that closes it
and the blanks before that, and the attributes in the order of the instructions. It is closed as it
was, and nothing is changed before it or after it. No record may be kept in the file itself. -/
theorem Instruction.insertProp_accumulates {log : Option Log.Store} {context : Context} {q : Path}
    {component : String} {s : Site} {t : List Char} (hread : s.disk.readText q = .ok t)
    (hcomponent : component ≠ "") (htag : ∃ k, Edit.IsTagAt component.toList t k)
    (hclear : Log.KeepsClear log context q)
    (hnull : ∀ store, log = some store → Disk.hasNull store.directory = false) :
    ∃ before inside after, Edit.IsFirstTag component.toList before inside after t ∧
      ∀ is : List Instruction, (∀ i ∈ is, i.InsertsProp context q component) →
        (∃ summary, (applyAll log context is).outcome s =
          (.ok summary, Batch.siteAt log context is s is.length)) ∧
        ∀ k (hk : k < is.length), ∃ inside₀ t₀ t₁,
          (Batch.siteAt log context is s k).disk.readText q = .ok t₀ ∧
          Edit.IsFirstTag component.toList before inside₀ after t₀ ∧
          is[k].Edits context (Batch.siteAt log context is s k).disk (some t₁) ∧
          t₁ ≠ t₀ ∧
          (Batch.siteAt log context is s (k + 1)).disk.readText q = .ok t₁ ∧
          t₁ = before ++ ('<' :: component.toList ++ Edit.bare inside ++
            (is.take (k + 1)).flatMap (fun i =>
              ' ' :: textOf i.propName ++ ['=', '{'] ++ textOf i.propValue ++ ['}']) ++
            if Edit.endsInSlash inside then [' ', '/', '>'] else ['>']) ++ after := by
  obtain ⟨before, inside, after, hfirst⟩ := Edit.exists_isFirstTag htag
  refine ⟨before, inside, after, hfirst, fun is his => ⟨?_, fun k hk => ?_⟩⟩
  · obtain ⟨results, s', hrun, -⟩ :=
      applyFrom_of_editsAt hclear hnull (fun i hi => (his i hi).editsAt hcomponent) 0 hread
    obtain rfl : Batch.siteAt log context is s is.length = s' := by rw [Batch.siteAt_length, hrun]
    exact ⟨_, Job.outcome_bind_of_ok hrun _⟩
  · have hstate : ∀ j, (Batch.siteAt log context is s j).disk.readText q =
          .ok ((is.take j).foldl textAfter t) ∧
        Edit.IsFirstTag component.toList before
          (((is.take j).map propText).foldl Edit.withProp inside) after
          ((is.take j).foldl textAfter t) := fun j =>
      ⟨readText_siteAt_of_editsAt hclear hnull (fun i hi => (his i hi).editsAt hcomponent) hread j,
        isFirstTag_foldl_textAfter (fun i hi => his i (List.mem_of_mem_take hi)) hfirst
          (return_not_mem_of_readText hread)⟩
    obtain ⟨hread₀, hfirst₀⟩ := hstate k
    obtain ⟨hread₁, hfirst₁⟩ := hstate (k + 1)
    have hi := his is[k] (List.getElem_mem hk)
    have hstep := (hi.textAfter_eq hfirst₀ (return_not_mem_of_readText hread₀)).1
    have hedits := edits_of_readText hi.change_eq (hi.path ▸ hread₀)
    rw [hfirst₀.insertProp_eq, ← hstep] at hedits
    have hlast : (is.take (k + 1)).foldl textAfter t =
        is[k].textAfter ((is.take k).foldl textAfter t) := by
      rw [List.take_succ_eq_append_getElem hk, List.foldl_concat]
    refine ⟨_, _, _, hread₀, hfirst₀, hlast ▸ hedits, fun hsame => ?_, hread₁, ?_⟩
    · rw [hlast, hstep, hfirst₀.text] at hsame
      simp only [List.append_assoc, List.cons_append, List.append_cancel_left_eq, List.cons.injEq,
        true_and, List.append_cancel_right_eq] at hsame
      exact Edit.withProp_ne _ _ hsame
    · have hprops : ∀ prop ∈ (is.take (k + 1)).map propText, ∃ start, prop = start ++ ['}'] :=
        List.forall_mem_map.mpr fun i _ => ⟨_, rfl⟩
      have hne : (is.take (k + 1)).map propText ≠ [] :=
        List.ne_nil_of_length_pos (by rw [List.length_map, List.length_take]; omega)
      rw [hfirst₁.text, Edit.foldl_withProp hprops hne, List.flatMap_map]
      cases Edit.endsInSlash inside <;> simp [propText]

/-- Two attributes are added to a tag that has no blank before its slash, behind a tag with a longer
name and with a log beside the project. -/
theorem Instruction.insertProp_accumulates_of_two :
    let store : Log.Store := ⟨["logs"]⟩
    let context : Context := ⟨[], ["proj"], "shop", "auth", false⟩
    let q : Path := ["proj", "a.tsx"]
    let insert (name value : String) : Instruction :=
      ⟨"a.tsx", .insertProp, none, none, none, some "App", some name, some value, none⟩
    let is := [insert "v" "1", insert "w" "x/"]
    let t := "<Appx/><App a=b/> />".toList
    let s : Site :=
      ⟨⟨[(["proj"], .directory), (["proj", "a.tsx"], .file (Text.Utf8.encode t))]⟩, ⟨1000, 1⟩, []⟩
    s.disk.readText q = .ok t ∧ (∃ k, Edit.IsTagAt "App".toList t k) ∧
      Log.KeepsClear (some store) context q ∧ Disk.hasNull store.directory = false ∧
      (∀ i ∈ is, i.InsertsProp context q "App") ∧
      (Batch.siteAt (some store) context is s 2).disk.readText q =
        .ok "<Appx/><App a=b v=\x7b1\x7d w=\x7bx/\x7d /> />".toList := by
  intro store context q insert is t s
  have hread : s.disk.readText q = .ok t := by decide +kernel
  have htag : Edit.IsTagAt "App".toList t 7 :=
    ⟨' ', "a=b/> />".toList, by decide, by decide, by decide⟩
  have hbefore : ∀ k, Edit.IsTagAt "App".toList t k → 7 ≤ k := by
    rintro k ⟨c, rest, hdrop, hends, -⟩
    have hstart : (t.drop k)[0]? = some '<' := by rw [hdrop]; rfl
    have hend : (t.drop k)[4]? = some c := by rw [hdrop]; rfl
    by_contra hlt
    have hno : ∀ j < 7, (t.drop j)[0]? = some '<' → ¬((t.drop j)[4]?).any Edit.endsName := by
      decide
    exact hno k (by omega) hstart (by rw [hend]; exact hends)
  have hclear : Log.KeepsClear (some store) context q := by
    rintro _ ⟨⟩ index time heq
    exact absurd (List.cons.inj heq).1 (by decide)
  have hnull : Disk.hasNull store.directory = false := by decide
  have his : ∀ i ∈ is, i.InsertsProp context q "App" := by
    refine List.forall_mem_cons.mpr ⟨?_, List.forall_mem_singleton.mpr ?_⟩
    · exact ⟨rfl, rfl, by decide +kernel, rfl, by decide, by decide, by decide, by decide⟩
    · exact ⟨rfl, rfl, by decide +kernel, rfl, by decide, by decide, by decide, by decide⟩
  obtain ⟨before, inside, after, hfirst, hrun⟩ :=
    insertProp_accumulates hread (by decide) ⟨7, htag⟩ hclear (by rintro _ ⟨⟩; exact hnull)
  obtain ⟨-, t₀, t₁, -, -, -, -, hread₁, ht₁⟩ := (hrun is his).2 1 (by decide)
  refine ⟨hread, ⟨7, htag⟩, hclear, hnull, his, ?_⟩
  have hcut : Edit.IsFirstTag "App".toList "<Appx/>".toList " a=b/".toList " />".toList t :=
    ⟨by decide, by decide, htag, hbefore⟩
  obtain ⟨rfl, rfl, rfl⟩ := hfirst.unique hcut
  rw [hread₁, ht₁]
  decide

end Scaffold
