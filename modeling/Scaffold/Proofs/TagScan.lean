import Mathlib.Data.List.TakeWhile
import Mathlib.Order.Bounds.Basic
import Scaffold.Proofs.EditRegions
import Scaffold.Proofs.ReadableFile

/-!
# Adding an attribute as a plain scan

An attribute is added to the first place at which a tag of the component begins, and what stands
between the name and the next `>` tells everything about the tag: whether it closes itself is
decided by a slash at the end, and the blanks before the closing are not kept. The search by
patterns, which takes as few characters for attributes as it can, comes to the same.
-/

namespace Scaffold

namespace Edit

open Text

/-- At a position of a text begins a tag of a component: `<` and the name, a character that ends the
name, and a `>` somewhere from there on. -/
def IsTagAt (component t : List Char) (k : Nat) : Prop :=
  ∃ c rest, t.drop k = '<' :: component ++ c :: rest ∧ endsName c = true ∧ '>' ∈ c :: rest

/-- Whether what stands between the name and the `>` of a tag ends in a slash. -/
def endsInSlash (inside : List Char) : Bool := inside.getLast? = some '/'

/-- What stands between the name and the `>` of a tag, without the slash that it may end in and
without blanks before that. -/
def bare (inside : List Char) : List Char :=
  trimEnd (if endsInSlash inside then inside.dropLast else inside)

/-- A tag is read as what stands between its name and its `>`, and what stands after that. -/
structure TagMatch.Reads (m : TagMatch) (inside after : List Char) : Prop where
  attributes : trimEnd m.attributes = bare inside
  selfClosing : m.selfClosing = endsInSlash inside
  after : m.after = after

/-! ### One tag -/

lemma trimEnd_cons (c : Char) (t : List Char) :
    trimEnd (c :: t) = if trimEnd t = [] then trimEnd [c] else c :: trimEnd t := by
  simp only [trimEnd, List.reverse_cons, List.dropWhile_append, List.reverse_eq_nil_iff,
    List.isEmpty_iff]
  split
  · rfl
  · simp

/-- Before a character only the end that is trimmed off counts. -/
lemma trimEnd_cons_congr {s t : List Char} (h : trimEnd s = trimEnd t) (c : Char) :
    trimEnd (c :: s) = trimEnd (c :: t) := by
  rw [trimEnd_cons c s, trimEnd_cons c t, h]

lemma bare_cons_congr {inside attributes : List Char} {c : Char}
    (h : trimEnd attributes = bare inside) (hc : inside = [] → c ≠ '/') :
    trimEnd (c :: attributes) = bare (c :: inside) ∧
      endsInSlash inside = endsInSlash (c :: inside) := by
  cases inside with
  | nil =>
    have hslash : endsInSlash [c] = false := by simpa [endsInSlash] using hc rfl
    rw [bare, hslash]
    exact ⟨trimEnd_cons_congr h c, rfl⟩
  | cons next more =>
    have hends : endsInSlash (next :: more) = endsInSlash (c :: next :: more) := by
      rw [endsInSlash, endsInSlash, List.getLast?_cons_cons]
    refine ⟨?_, hends⟩
    rw [bare] at h
    rw [trimEnd_cons_congr h c, bare, ← hends]
    split <;> rfl

lemma trimStart_append (inside after : List Char) :
    trimStart (inside ++ '>' :: after) = trimStart inside ++ '>' :: after := by
  have hgt : trimStart ('>' :: after) = '>' :: after := by simp [trimStart, isBlank]
  rw [trimStart, List.dropWhile_append]
  split
  · next hempty =>
    rw [trimStart, List.isEmpty_iff.mp hempty]
    exact hgt
  · rfl

/-- A tag that has no slash before its `>` closes only there, and one that has a slash closes at the
blanks before it. -/
lemma closing?_append {inside after : List Char} (hgt : '>' ∉ inside) :
    closing? (inside ++ '>' :: after) =
      if inside = [] then some (false, after)
      else if trimStart inside = ['/'] then some (true, after)
      else none := by
  have htrim : '>' ∉ trimStart inside := fun h => hgt ((List.dropWhile_sublist _).subset h)
  unfold closing?
  rw [trimStart_append]
  split_ifs with hnil hslash
  · subst hnil
    rfl
  · rw [hslash]
    rfl
  · obtain ⟨c, rest, rfl⟩ := List.exists_cons_of_ne_nil hnil
    have hc : c ≠ '>' := fun h => hgt (by simp [h])
    -- a slash and a `>` at the start would be all of what is inside
    have hno : ∀ rest', trimStart (c :: rest) ++ '>' :: after ≠ '/' :: '>' :: rest' := by
      intro rest' heq
      cases htrimmed : trimStart (c :: rest) with
      | nil => simp [htrimmed] at heq
      | cons x xs =>
        rw [htrimmed, List.cons_append, List.cons.injEq] at heq
        obtain ⟨rfl, hxs⟩ := heq
        cases xs with
        | nil => exact hslash htrimmed
        | cons y ys =>
          rw [List.cons_append, List.cons.injEq] at hxs
          exact htrim (by simp [htrimmed, hxs.1])
    split
    · next heq => exact absurd heq (hno _)
    · split
      · next heq => exact absurd (List.cons.inj heq).1 hc
      · rfl

/-- What is inside and comes to a slash alone, the blanks before it apart, leaves no attributes. -/
lemma bare_of_trimStart {inside : List Char} (h : trimStart inside = ['/']) :
    bare inside = [] ∧ endsInSlash inside = true := by
  have hsplit : inside.takeWhile isBlank ++ ['/'] = inside := by
    rw [← h, trimStart, List.takeWhile_append_dropWhile]
  have hends : endsInSlash inside = true := by
    rw [← hsplit, endsInSlash, List.getLast?_concat]
    rfl
  refine ⟨?_, hends⟩
  rw [bare, if_pos hends, ← hsplit, List.dropLast_concat, trimEnd, List.reverse_eq_nil_iff,
    List.dropWhile_eq_nil_iff]
  intro c hc
  exact List.mem_takeWhile_imp (List.mem_reverse.mp hc)

/-- The attributes of a tag are read as what stands before its first `>`. -/
lemma attributes?_append {inside after : List Char} (hgt : '>' ∉ inside) :
    ∃ m, attributes? (inside ++ '>' :: after) = some m ∧ m.Reads inside after := by
  induction inside with
  | nil =>
    refine ⟨⟨[], false, after⟩, ?_, rfl, rfl, rfl⟩
    rw [attributes?.eq_def, closing?_append hgt]
    rfl
  | cons c rest ih =>
    rw [attributes?.eq_def, closing?_append hgt, if_neg (List.cons_ne_nil c rest)]
    by_cases hslash : trimStart (c :: rest) = ['/']
    · obtain ⟨hbare, hends⟩ := bare_of_trimStart hslash
      rw [if_pos hslash]
      exact ⟨⟨[], true, after⟩, rfl, hbare.symm, hends.symm, rfl⟩
    · obtain ⟨m, hm, hreads⟩ := ih fun h => hgt (List.mem_cons_of_mem c h)
      have hc : rest = [] → c ≠ '/' := by
        rintro rfl rfl
        exact hslash (by decide)
      obtain ⟨hattributes, hends⟩ := bare_cons_congr hreads.attributes hc
      rw [if_neg hslash]
      simp only [List.cons_append, hm, Option.map_some]
      exact ⟨_, rfl, hattributes, hreads.selfClosing.trans hends, hreads.after⟩

lemma closing?_of_not_mem {t : List Char} (h : '>' ∉ t) : closing? t = none := by
  unfold closing?
  split
  · next after htrim =>
    have hmem : '>' ∈ trimStart t := by simp [htrim]
    exact absurd ((List.dropWhile_sublist _).subset hmem) h
  · split
    · exact absurd List.mem_cons_self h
    · rfl

/-- A tag that does not close is none. -/
lemma attributes?_of_not_mem {t : List Char} (h : '>' ∉ t) : attributes? t = none := by
  induction t with
  | nil => rfl
  | cons c rest ih =>
    rw [attributes?.eq_def, closing?_of_not_mem h]
    simp only [ih fun hmem => h (List.mem_cons_of_mem c hmem), Option.map_none]

/-- A tag is found at the start of a text exactly if one begins there, and it is read as what stands
before its first `>`. -/
lemma tagAt?_cases (component t : List Char) :
    (∃ inside after m, t = '<' :: component ++ inside ++ '>' :: after ∧ '>' ∉ inside ∧
      IsTagAt component t 0 ∧ tagAt? component t = some m ∧ m.Reads inside after) ∨
      (¬ IsTagAt component t 0 ∧ tagAt? component t = none) := by
  by_cases htag : IsTagAt component t 0
  · obtain ⟨c, rest, hdrop, hends, hgt⟩ := id htag
    obtain ⟨inside, after, hrest, hinside⟩ := List.eq_append_cons_of_mem hgt
    obtain ⟨m, hm, hreads⟩ := @attributes?_append inside after hinside
    rw [List.drop_zero, hrest] at hdrop
    refine .inl ⟨inside, after, m, by rw [hdrop, List.append_assoc], hinside, htag, ?_, hreads⟩
    rw [tagAt?, hdrop, afterPrefix?_append, ← hrest]
    simp only [hends, if_true]
    rw [hrest, hm]
  · refine .inr ⟨htag, ?_⟩
    rw [tagAt?]
    split
    · next c rest hprefix =>
      split
      · next hends =>
        exact attributes?_of_not_mem fun hgt =>
          htag ⟨c, rest, afterPrefix?_eq_some hprefix, hends, hgt⟩
      · rfl
    · rfl

/-! ### The first tag -/

lemma not_isTagAt_nil (component : List Char) (k : Nat) : ¬ IsTagAt component [] k := by
  rintro ⟨c, rest, hdrop, -, -⟩
  simp at hdrop

lemma isLeast_isTagAt_cons {component t : List Char} {c : Char} {k : Nat}
    (hfirst : ¬ IsTagAt component (c :: t) 0) (h : IsLeast {k | IsTagAt component t k} k) :
    IsLeast {k | IsTagAt component (c :: t) k} (k + 1) := by
  refine ⟨h.1, fun j hj => ?_⟩
  cases j with
  | zero => exact absurd hj hfirst
  | succ j => exact Nat.succ_le_succ (h.2 hj)

/-- The first tag of a component is found, unless no tag of it begins anywhere. -/
lemma firstTag?_cases (component t : List Char) :
    (∃ before inside after m, t = before ++ ('<' :: component ++ inside ++ '>' :: after) ∧
      '>' ∉ inside ∧ IsLeast {k | IsTagAt component t k} before.length ∧
      firstTag? component t = some (before, m) ∧ m.Reads inside after) ∨
      ((∀ k, ¬ IsTagAt component t k) ∧ firstTag? component t = none) := by
  induction t with
  | nil => exact .inr ⟨not_isTagAt_nil component, rfl⟩
  | cons c rest ih =>
    rw [firstTag?]
    rcases tagAt?_cases component (c :: rest) with
      ⟨inside, after, m, ht, hgt, htag, hm, hreads⟩ | ⟨hno, hnone⟩
    · rw [hm]
      exact .inl ⟨[], inside, after, m, ht, hgt, ⟨htag, fun _ _ => Nat.zero_le _⟩, rfl, hreads⟩
    · rw [hnone]
      rcases ih with ⟨before, inside, after, m, ht, hgt, hleast, hm, hreads⟩ | ⟨hall, hm⟩
      · refine .inl ⟨c :: before, inside, after, m, by rw [List.cons_append, ← ht], hgt,
          isLeast_isTagAt_cons hno hleast, ?_, hreads⟩
        simp only [hm, Option.map_some]
      · refine .inr ⟨fun k => ?_, ?_⟩
        · cases k with
          | zero => exact hno
          | succ k => exact hall k
        · simp only [hm, Option.map_none]

/-- Adding an attribute changes the first tag of the component, or nothing if there is none. -/
lemma insertProp_cases (component prop t : List Char) :
    (∃ before inside after, t = before ++ ('<' :: component ++ inside ++ '>' :: after) ∧
      '>' ∉ inside ∧ IsLeast {k | IsTagAt component t k} before.length ∧
      insertProp component prop t = some (before ++ ('<' :: component ++ bare inside ++
        ' ' :: prop ++ closingText (endsInSlash inside)) ++ after)) ∨
      ((∀ k, ¬ IsTagAt component t k) ∧ insertProp component prop t = none) := by
  rw [insertProp]
  rcases firstTag?_cases component t with
    ⟨before, inside, after, m, ht, hgt, hleast, hm, hreads⟩ | ⟨hall, hm⟩
  · refine .inl ⟨before, inside, after, ht, hgt, hleast, ?_⟩
    rw [hm, Option.map_some]
    dsimp only
    rw [hreads.attributes, hreads.selfClosing, hreads.after]
    simp
  · rw [hm]
    exact .inr ⟨hall, rfl⟩

lemma trimEnd_isPrefix (t : List Char) : trimEnd t <+: t := by
  have h := List.reverse_prefix.mpr (List.dropWhile_suffix isBlank (l := t.reverse))
  rwa [List.reverse_reverse] at h

lemma bare_isPrefix (inside : List Char) : bare inside <+: inside := by
  refine (trimEnd_isPrefix _).trans ?_
  split
  · exact List.dropLast_prefix inside
  · exact List.prefix_refl inside

lemma insertProp_eq_some {component prop t t' : List Char}
    (h : insertProp component prop t = some t') :
    ∃ before tag tag' after, AddsAttribute component prop tag tag' ∧
      t = before ++ tag ++ after ∧ t' = before ++ tag' ++ after := by
  rcases insertProp_cases component prop t with
    ⟨before, inside, after, ht, hgt, -, hinsert⟩ | ⟨-, hinsert⟩
  · obtain rfl := Option.some.inj (hinsert.symm.trans h)
    refine ⟨before, '<' :: component ++ inside ++ ['>'], _, after,
      ⟨inside, bare inside, endsInSlash inside, rfl, hgt, bare_isPrefix inside, rfl⟩, ?_, rfl⟩
    rw [ht]
    simp
  · rw [hinsert] at h
    cases h

end Edit

namespace Instruction

/-- Adding an attribute edits a file that can be read as a plain scan does. If no tag of the
component begins anywhere, the file is left as it is. Otherwise the tag that begins first, with what
stands in it up to the first `>` after its name, gets the attribute after what it holds already and
is closed as it was. The instruction lacks no field unless one of the two names is empty. -/
theorem insertProp_editsFirstTag {i : Instruction} {context : Context} {d : Disk}
    {t : List Char} (haction : i.action = .insertProp)
    (h : d.readText (context.resolve i.path) = .ok t) :
    let component := textOf i.componentName
    let prop := Edit.attributeText (textOf i.propName) (i.propValue.map String.toList)
    (component ≠ [] → textOf i.propName ≠ [] → i.lacking = []) ∧
      (((∀ k, ¬ Edit.IsTagAt component t k) ∧ i.Edits context d none) ∨
        ∃ before inside after,
          t = before ++ ('<' :: component ++ inside ++ '>' :: after) ∧ '>' ∉ inside ∧
          IsLeast {k | Edit.IsTagAt component t k} before.length ∧
          i.Edits context d (some (before ++ ('<' :: component ++ Edit.bare inside ++
            ' ' :: prop ++ if Edit.endsInSlash inside then [' ', '/', '>'] else ['>']) ++
            after))) := by
  intro component prop
  have hlacking : component ≠ [] → textOf i.propName ≠ [] → i.lacking = [] := by
    intro hcomponent hprop
    have hneeds : i.action.needs = [.componentName, .propName] := by rw [haction, Action.needs]
    exact lacking_eq_nil_of_pair hneeds (has_of_textOf hcomponent) (has_of_textOf hprop)
  have hchange : i.change = .edit (Edit.insertProp component prop) := by rw [change, haction]
  have hedits := edits_of_readText hchange h
  refine ⟨hlacking, ?_⟩
  rcases Edit.insertProp_cases component prop t with
    ⟨before, inside, after, ht, hgt, hleast, hinsert⟩ | ⟨hall, hinsert⟩
  · rw [hinsert] at hedits
    exact .inr ⟨before, inside, after, ht, hgt, hleast, hedits⟩
  · rw [hinsert] at hedits
    exact .inl ⟨hall, hedits⟩

/-- A tag with a slash among its attributes that closes itself, behind a tag with a longer name. -/
theorem insertProp_editsFirstTag_of_longerName :
    let context : Context := ⟨[], ["proj"], "shop", "auth", false⟩
    let i : Instruction :=
      ⟨"a.tsx", .insertProp, none, none, none, some "App", some "v", some "1", none⟩
    let t := "<Appx/><App a=b/ \n/> />".toList
    let d : Disk := ⟨[(["proj"], .directory), (["proj", "a.tsx"], .file (Text.Utf8.encode t))]⟩
    i.lacking = [] ∧ (∃ t', i.Edits context d (some t')) ∧
      (i.change.apply ["proj", "a.tsx"] d).2.readText ["proj", "a.tsx"] =
        .ok "<Appx/><App a=b/ v=\x7b1\x7d /> />".toList := by
  intro context i t d
  have hread : d.readText (context.resolve i.path) = .ok t := by decide +kernel
  obtain ⟨hlacking, ⟨hno, -⟩ | ⟨_, _, _, -, -, -, hedits⟩⟩ :=
    insertProp_editsFirstTag (i := i) rfl hread
  · exact absurd ⟨' ', "a=b/ \n/> />".toList, by decide, by decide, by decide⟩ (hno 7)
  · exact ⟨hlacking (by decide) (by decide), ⟨_, hedits⟩, by decide +kernel⟩

end Instruction

end Scaffold
