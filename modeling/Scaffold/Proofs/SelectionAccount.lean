import Scaffold.Proofs.InstallOrder

/-!
# What becomes of each choice

A choice by name is looked up when its turn comes, in a table to which the modules that are selected
as such are added one by one. So a name that the catalog does not have is missed if it is selected
before its module, and found if it is selected after it. What is selected always comes to be reached
or unknown. It is one of the two only, whatever the order of the selection, exactly if no name that
the catalog does not have is selected both by itself and with its module.
-/

namespace Scaffold

/-- The name under which a choice is made. -/
def Choice.label : Choice → String
  | .name written => written
  | .module m => m.name

namespace Resolution

/-- The names of the modules that are selected as such. -/
def givenNames (selected : List Choice) : List String := selected.flatMap namesGiven

/-- A name is missed by a selection if it is selected when it is not known: neither from the start,
nor by a module that has been selected before. -/
def IsMissed (known : List String) (selected : List Choice) (name : String) : Prop :=
  name ∉ known ∧
    ∃ before after, selected = before ++ .name name :: after ∧ name ∉ givenNames before

/-- Names that are selected by themselves are known from the start or are those of no module that is
selected as such. -/
def IsUnmixed (known : List String) (selected : List Choice) : Prop :=
  ∀ name, .name name ∈ selected → name ∈ known ∨ name ∉ givenNames selected

section Names

variable {known : List String} {selected selected' : List Choice} {name : String}

lemma mem_givenNames : name ∈ givenNames selected ↔ ∃ m, .module m ∈ selected ∧ m.name = name := by
  rw [givenNames, List.mem_flatMap]
  constructor
  · rintro ⟨choice, hchoice, hname⟩
    cases choice with
    | name other => cases hname
    | module m => exact ⟨m, hchoice, (List.mem_singleton.mp hname).symm⟩
  · rintro ⟨m, hm, rfl⟩
    exact ⟨.module m, hm, List.mem_singleton_self _⟩

lemma isMissed_concat {choice : Choice} :
    IsMissed known (selected ++ [choice]) name ↔
      IsMissed known selected name ∨
        choice = .name name ∧ name ∉ known ∧ name ∉ givenNames selected := by
  constructor
  · rintro ⟨hknown, before, after, hsplit, hbefore⟩
    rcases List.eq_nil_or_concat after with rfl | ⟨after, last, rfl⟩
    · obtain ⟨rfl, hchoice⟩ := List.append_inj' hsplit rfl
      exact .inr ⟨(List.cons.inj hchoice).1, hknown, hbefore⟩
    · rw [List.concat_eq_append, ← List.cons_append, ← List.append_assoc] at hsplit
      exact .inl ⟨hknown, before, after, (List.append_inj' hsplit rfl).1, hbefore⟩
  · rintro (⟨hknown, before, after, rfl, hbefore⟩ | ⟨rfl, hknown, hgiven⟩)
    · exact ⟨hknown, before, after ++ [choice], by simp, hbefore⟩
    · exact ⟨hknown, selected, [], rfl, hgiven⟩

/-- In a selection that does not mix, a name is missed wherever it stands. -/
lemma IsUnmixed.isMissed_iff (h : IsUnmixed known selected) :
    IsMissed known selected name ↔ name ∉ known ∧ .name name ∈ selected := by
  constructor
  · rintro ⟨hknown, before, after, rfl, -⟩
    exact ⟨hknown, by simp⟩
  · rintro ⟨hknown, hname⟩
    obtain ⟨before, after, rfl⟩ := List.append_of_mem hname
    refine ⟨hknown, before, after, rfl, fun hbefore => (h name hname).resolve_left hknown ?_⟩
    exact List.mem_flatMap.mpr
      (List.mem_flatMap.mp hbefore |>.imp fun _ hc => ⟨List.mem_append_left _ hc.1, hc.2⟩)

lemma IsUnmixed.perm (h : IsUnmixed known selected) (hperm : selected.Perm selected') :
    IsUnmixed known selected' := by
  intro name hname
  refine (h name (hperm.mem_iff.mpr hname)).imp_right fun hgiven hmem => hgiven ?_
  rw [mem_givenNames] at hmem ⊢
  exact hmem.imp fun m hm => ⟨hperm.mem_iff.mpr hm.1, hm.2⟩

/-! ### Names that are picked -/

lemma mem_namesPicked_of_mem_givenNames (h : name ∈ givenNames selected) :
    name ∈ namesPicked known selected := by
  induction selected generalizing known with
  | nil => cases h
  | cons choice rest ih =>
    rw [givenNames, List.flatMap_cons, List.mem_append] at h
    refine List.mem_append.mpr (h.imp (fun hchoice => ?_) fun hrest => ih hrest)
    cases choice with
    | name other => cases hchoice
    | module m => exact hchoice

/-- What is picked is known in the end. -/
lemma mem_of_mem_namesPicked (h : name ∈ namesPicked known selected) :
    name ∈ givenNames selected ∨ name ∈ known := by
  induction selected generalizing known with
  | nil => cases h
  | cons choice rest ih =>
    rw [givenNames, List.flatMap_cons, List.mem_append]
    rcases List.mem_append.mp h with hchoice | hrest
    · cases choice with
      | name other =>
        rw [namePicked] at hchoice
        split at hchoice
        · next hknown => exact .inr (List.mem_singleton.mp hchoice ▸ hknown)
        · cases hchoice
      | module m => exact .inl (.inl hchoice)
    · have hknown := ih hrest
      rw [List.mem_append, givenNames] at hknown
      tauto

/-- A choice picks a module, or its name is missed. -/
lemma mem_namesPicked_or_isMissed {choice : Choice} (h : choice ∈ selected) :
    choice.label ∈ namesPicked known selected ∨ IsMissed known selected choice.label := by
  induction selected generalizing known with
  | nil => cases h
  | cons first rest ih =>
    rw [namesPicked, List.mem_append]
    rcases List.mem_cons.mp h with rfl | hrest
    · cases choice with
      | name name =>
        by_cases hknown : name ∈ known
        · exact .inl (.inl (by simp [namePicked, hknown, Choice.label]))
        · exact .inr ⟨hknown, [], rest, rfl, List.not_mem_nil⟩
      | module m => exact .inl (.inl (List.mem_singleton_self m.name))
    · have hlater : choice.label ∈ namesPicked (namesGiven first ++ known) rest ∨
          IsMissed (namesGiven first ++ known) rest choice.label := ih hrest
      rcases hlater with hpicked | ⟨hnot, hmissed⟩
      · exact .inl (.inr hpicked)
      · obtain ⟨before, after, rfl, hbefore⟩ := hmissed
        rw [List.mem_append, not_or] at hnot
        refine .inr ⟨hnot.2, first :: before, after, rfl, ?_⟩
        rw [givenNames, List.flatMap_cons, List.mem_append, not_or]
        exact ⟨hnot.1, hbefore⟩

end Names

/-! ### Names that are unknown -/

section Unknown

variable {c : Chosen} {name : String}

lemma mem_unknown_take {choice : Choice} :
    name ∈ (c.take choice).unknown ↔
      name ∈ c.unknown ∨ choice = .name name ∧ Table.find? c.table name = none := by
  cases choice with
  | name other =>
    rw [Chosen.take]
    cases hfind : Table.find? c.table other with
    | some m =>
      refine (or_iff_left ?_).symm
      rintro ⟨heq, hnone⟩
      rw [Choice.name.inj heq, hnone] at hfind
      cases hfind
    | none =>
      dsimp only
      split
      · next hmem =>
        refine (or_iff_left_of_imp ?_).symm
        rintro ⟨heq, -⟩
        exact Choice.name.inj heq ▸ hmem
      · rw [List.mem_append, List.mem_singleton, Choice.name.injEq]
        refine or_congr_right ⟨?_, fun h => h.1.symm⟩
        rintro rfl
        exact ⟨rfl, hfind⟩
  | module m =>
    rw [Chosen.take]
    cases Table.find? c.table m.name <;> simp

lemma nodup_unknown_take (h : c.unknown.Nodup) (choice : Choice) :
    (c.take choice).unknown.Nodup := by
  cases choice with
  | name other =>
    rw [Chosen.take]
    split
    · exact h
    · split
      · exact h
      · next hnot =>
        rw [← List.concat_eq_append]
        exact h.concat hnot
  | module m =>
    rw [Chosen.take]
    split <;> exact h

variable (selected : List Choice)

lemma isSome_find?_foldl_take :
    (Table.find? (selected.foldl Chosen.take c).table name).isSome = true ↔
      name ∈ givenNames selected ∨ (Table.find? c.table name).isSome = true := by
  induction selected generalizing c with
  | nil => simp [givenNames]
  | cons choice rest ih =>
    rw [List.foldl_cons, ih, isSome_find?_take, givenNames, givenNames, List.flatMap_cons,
      List.mem_append]
    tauto

/-- What is unknown in the end are the names that have been missed on the way. -/
lemma mem_unknown_foldl_take {known : List String}
    (hknown : ∀ name, (Table.find? c.table name).isSome = true ↔ name ∈ known) :
    name ∈ (selected.foldl Chosen.take c).unknown ↔
      name ∈ c.unknown ∨ IsMissed known selected name := by
  induction selected using List.reverseRecOn with
  | nil => simp [IsMissed]
  | append_singleton selected choice ih =>
    have hnone : Table.find? (selected.foldl Chosen.take c).table name = none ↔
        name ∉ known ∧ name ∉ givenNames selected := by
      rw [← Option.not_isSome_iff_eq_none, isSome_find?_foldl_take, hknown, not_or, and_comm]
    rw [List.foldl_append, List.foldl_cons, List.foldl_nil, mem_unknown_take, ih, hnone,
      isMissed_concat, or_assoc]

lemma nodup_unknown_foldl_take (h : c.unknown.Nodup) :
    (selected.foldl Chosen.take c).unknown.Nodup := by
  induction selected generalizing c with
  | nil => exact h
  | cons choice rest ih => exact ih (nodup_unknown_take h choice)

end Unknown

/-! ### What a selection reaches -/

/-- The names of the include closure that a selection comes to. -/
def reachedNames (selected : List Choice) (catalog : List Module) : List String :=
  let c := chosen selected catalog
  (closure c.table c.modules).modules.map Module.name

section Reached

variable (selected : List Choice) (catalog : List Module) {name : String}

/-- What is reached is installed or excluded. -/
lemma mem_reachedNames_iff :
    name ∈ reachedNames selected catalog ↔
      name ∈ (ofSelection selected catalog).names ∨
        name ∈ (ofSelection selected catalog).excluded := by
  have hnames : name ∈ (ofSelection selected catalog).names ↔ _ :=
    ((perm_sortByPriority _).map Module.name).mem_iff
  rw [hnames]
  constructor
  · intro hreached
    obtain ⟨m, hm, rfl⟩ := List.mem_map.mp hreached
    by_cases hexcluded : m.name ∈ (ofSelection selected catalog).excluded
    · exact .inr hexcluded
    · exact .inl (List.mem_map_of_mem (mem_kept_filterConflicts.mpr ⟨hm, hexcluded⟩))
  · rintro (hkept | hexcluded)
    · obtain ⟨m, hm, rfl⟩ := List.mem_map.mp hkept
      exact List.mem_map_of_mem (mem_kept_filterConflicts.mp hm).1
    · exact (mem_excluded_filterConflicts.mp hexcluded).1

lemma mem_reachedNames_of_picked (h : name ∈ namesPicked (catalog.map Module.name) selected) :
    name ∈ reachedNames selected catalog := by
  rw [← names_chosen] at h
  rw [reachedNames, names_closure _ (nameKeyed_chosen selected catalog)]
  exact List.mem_append_left _ (mem_names_distinct.mpr h)

/-- What is reached is known in the end. -/
lemma mem_of_mem_reachedNames (h : name ∈ reachedNames selected catalog) :
    name ∈ givenNames selected ∨ name ∈ catalog.map Module.name := by
  rw [reachedNames, names_closure _ (nameKeyed_chosen selected catalog), List.mem_append] at h
  rcases h with hchosen | hadded
  · rw [mem_names_distinct, names_chosen] at hchosen
    exact mem_of_mem_namesPicked hchosen
  · have hknown := isSome_of_mem_discover hadded
    rw [chosen, isSome_find?_foldl_take, Module.isSome_find?_tableOf] at hknown
    exact hknown

lemma mem_unknown_iff :
    name ∈ (ofSelection selected catalog).unknown ↔
      IsMissed (catalog.map Module.name) selected name :=
  (mem_unknown_foldl_take selected fun _ => Module.isSome_find?_tableOf).trans
    (or_iff_right List.not_mem_nil)

/-- A name is both reached and unknown if it is missed and its module is selected as well. -/
lemma reached_and_unknown_iff :
    name ∈ reachedNames selected catalog ∧ name ∈ (ofSelection selected catalog).unknown ↔
      IsMissed (catalog.map Module.name) selected name ∧ name ∈ givenNames selected := by
  rw [mem_unknown_iff, and_comm]
  refine and_congr_right fun hmissed => ⟨fun hreached => ?_, fun hgiven => ?_⟩
  · exact (mem_of_mem_reachedNames selected catalog hreached).resolve_right hmissed.1
  · exact mem_reachedNames_of_picked selected catalog (mem_namesPicked_of_mem_givenNames hgiven)

end Reached

/-- A resolution accounts for its selection: each choice is either reached or unknown, no name is
unknown twice, and which names are unknown does not depend on the order of the selection. -/
structure Accounts (selected : List Choice) (catalog : List Module) : Prop where
  once : ∀ choice ∈ selected, Xor (choice.label ∈ reachedNames selected catalog)
    (choice.label ∈ (ofSelection selected catalog).unknown)
  distinct : (ofSelection selected catalog).unknown.Nodup
  unordered : ∀ selected', selected.Perm selected' → ∀ name,
    name ∈ (ofSelection selected' catalog).unknown ↔ name ∈ (ofSelection selected catalog).unknown

section Accounts

variable {selected : List Choice} {catalog : List Module}

lemma IsUnmixed.accounts (h : IsUnmixed (catalog.map Module.name) selected) :
    Accounts selected catalog where
  once choice hchoice := by
    refine (xor_iff_or_and_not_and _ _).mpr ⟨?_, fun hboth => ?_⟩
    · rw [mem_unknown_iff]
      exact (mem_namesPicked_or_isMissed hchoice).imp_left
        (mem_reachedNames_of_picked selected catalog)
    · obtain ⟨hmissed, hgiven⟩ := (reached_and_unknown_iff selected catalog).mp hboth
      obtain ⟨hknown, hname⟩ := h.isMissed_iff.mp hmissed
      exact (h _ hname).resolve_left hknown hgiven
  distinct := nodup_unknown_foldl_take selected List.nodup_nil
  unordered selected' hperm name := by
    rw [mem_unknown_iff, mem_unknown_iff, h.isMissed_iff, (h.perm hperm).isMissed_iff,
      hperm.mem_iff]

/-- If a name that the catalog does not have is selected by itself and with its module, then it is
missed when it comes first, and it is reached all the same. -/
lemma Accounts.isUnmixed (h : Accounts selected catalog) :
    IsUnmixed (catalog.map Module.name) selected := by
  intro name hname
  by_contra hmixed
  rw [not_or, not_not] at hmixed
  obtain ⟨hknown, hgiven⟩ := hmixed
  obtain ⟨before, after, rfl⟩ := List.append_of_mem hname
  have hfirst : name ∈ (ofSelection (.name name :: (before ++ after)) catalog).unknown :=
    (mem_unknown_iff _ _).mpr ⟨hknown, [], before ++ after, rfl, List.not_mem_nil⟩
  have hunknown := (h.unordered _ List.perm_middle name).mp hfirst
  have hreached := mem_reachedNames_of_picked _ catalog (mem_namesPicked_of_mem_givenNames hgiven)
  exact ((xor_iff_or_and_not_and _ _).mp (h.once _ hname)).2 ⟨hreached, hunknown⟩

end Accounts

/-- Whatever is selected is reached, that is installed or excluded, or else unknown, and no name is
unknown twice. Unknown are the names that are selected before they are known. So a name is both
reached and unknown exactly if it is missed and its module is selected later, and a selection is
accounted for in every order exactly if no name that the catalog does not have is selected both by
itself and with its module. -/
theorem ofSelection_accounts_iff (selected : List Choice) (catalog : List Module) :
    let known := catalog.map Module.name
    let reached := reachedNames selected catalog
    let r := ofSelection selected catalog
    (∀ choice ∈ selected, choice.label ∈ reached ∨ choice.label ∈ r.unknown) ∧
      (∀ name, name ∈ reached ↔ name ∈ r.names ∨ name ∈ r.excluded) ∧ r.unknown.Nodup ∧
      (∀ name, name ∈ r.unknown ↔ IsMissed known selected name) ∧
      (∀ name, name ∈ reached ∧ name ∈ r.unknown ↔
        IsMissed known selected name ∧ name ∈ givenNames selected) ∧
      (Accounts selected catalog ↔ IsUnmixed known selected) := by
  refine ⟨fun choice hchoice => ?_, fun _ => mem_reachedNames_iff selected catalog,
    nodup_unknown_foldl_take selected List.nodup_nil, fun _ => mem_unknown_iff selected catalog,
    fun _ => reached_and_unknown_iff selected catalog, Accounts.isUnmixed, IsUnmixed.accounts⟩
  rw [mem_unknown_iff]
  exact (mem_namesPicked_or_isMissed hchoice).imp_left (mem_reachedNames_of_picked selected catalog)

/-- A module that is in no catalog, selected by its name and then as such: it is installed, and its
name is unknown; the other way round it is known. -/
theorem not_accounts :
    let m : Module := ⟨"x", "", "x.json", [], [], 0⟩
    let selected : List Choice := [.name "x", .module m]
    (ofSelection selected []).names = ["x"] ∧ (ofSelection selected []).unknown = ["x"] ∧
      (ofSelection selected.reverse []).unknown = [] ∧ ¬Accounts selected [] := by
  intro m selected
  refine ⟨by cbv, by cbv, by cbv, fun h => ?_⟩
  rcases h.isUnmixed "x" List.mem_cons_self with hknown | hgiven
  · cases hknown
  · exact hgiven (by decide)

end Resolution

end Scaffold
