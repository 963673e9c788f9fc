import Scaffold.Proofs.LogPruning
import Scaffold.Proofs.PatternSearch

/-!
# Listing by a part of a name

A part of a name and the name itself are put in lower case apart from each other. This changes each
character as it stands, but for the capital sigma, whose small form depends on the nearest
characters on both sides. So a part is found in every name that it stands in exactly if these
characters are in the part itself, for every capital sigma of it, as far as they matter.
-/

namespace Scaffold

namespace Text

variable {before before' after after' t u v : List Char}

/-! ### The form of a capital sigma -/

/-- Whether the nearest character that is not passed over is a letter with case, if there is such a
character. -/
def nearestCased (t : List Char) : Option Bool :=
  (t.find? fun c => !inRuns caseIgnorableRuns c).map (inRuns casedRuns)

lemma startsCased_iff (t : List Char) : startsCased t = true ↔ nearestCased t = some true := by
  rw [startsCased, nearestCased, List.find?_not_eq_head?_dropWhile]
  cases t.dropWhile (inRuns caseIgnorableRuns) <;> simp

lemma nearestCased_append (t u : List Char) :
    nearestCased (t ++ u) = (nearestCased t).or (nearestCased u) := by
  rw [nearestCased, List.find?_append, nearestCased, nearestCased]
  cases t.find? fun c => !inRuns caseIgnorableRuns c <;> rfl

lemma nearestCased_letter : nearestCased ['a'] = some true := by decide +kernel

/-- The small form of a capital sigma between the text before it (nearest character first) and the
text after it. -/
def sigmaBetween (before after : List Char) : Char :=
  if startsCased before && !startsCased after then finalSigma else smallSigma

lemma lowerAt_capitalSigma (before after : List Char) :
    lowerAt before capitalSigma after = [sigmaBetween before after] := if_pos rfl

lemma sigmaBetween_eq (before after : List Char) :
    sigmaBetween before after =
      if nearestCased before = some true ∧ nearestCased after ≠ some true then finalSigma
      else smallSigma := by
  simp [sigmaBetween, ← startsCased_iff]

lemma sigmaBetween_eq_finalSigma_iff : sigmaBetween before after = finalSigma ↔
    nearestCased before = some true ∧ nearestCased after ≠ some true := by
  have hne : smallSigma ≠ finalSigma := by decide
  rw [sigmaBetween_eq, ite_eq_left_iff]
  exact ⟨fun h => by_contra fun hno => hne (h hno), fun h hno => absurd h hno⟩

lemma sigmaBetween_eq_smallSigma_iff : sigmaBetween before after = smallSigma ↔
    (nearestCased before = some true → nearestCased after = some true) := by
  have hne : finalSigma ≠ smallSigma := by decide
  rw [sigmaBetween_eq, ite_eq_right_iff]
  exact ⟨fun h hbefore => by_contra fun hafter => hne (h ⟨hbefore, hafter⟩),
    fun h ⟨hbefore, hafter⟩ => absurd (h hbefore) hafter⟩

/-- All other characters have one lower-case form. -/
lemma lowerAt_of_ne {c : Char} (h : c ≠ capitalSigma) (before after : List Char) :
    lowerAt before c after = lowerAt [] c [] := by
  rw [lowerAt, lowerAt, if_neg h, if_neg h]

/-- A capital sigma whose small form is settled by two texts, whatever stands around them: the text
before it ends in a character without case, or that after it begins with a letter, or it is at the
end of a word. -/
def IsSettled (before after : List Char) : Prop :=
  nearestCased before = some false ∨ nearestCased after = some true ∨
    (nearestCased before = some true ∧ nearestCased after = some false)

lemma IsSettled.sigmaBetween_append (h : IsSettled before after) (u v : List Char) :
    sigmaBetween (before ++ u) (after ++ v) = sigmaBetween before after := by
  simp only [sigmaBetween_eq, nearestCased_append]
  rcases h with hbefore | hafter | ⟨hbefore, hafter⟩
  · simp [hbefore]
  · simp [hafter]
  · simp [hbefore, hafter]

lemma not_isSettled_iff : ¬IsSettled before after ↔
    (nearestCased before = some true ∧ nearestCased after = none) ∨
      (nearestCased before = none ∧ nearestCased after ≠ some true) := by
  rw [IsSettled]
  rcases nearestCased before with _ | _ | _ <;> rcases nearestCased after with _ | _ | _ <;> simp

/-! ### Stretches of a text -/

/-- The lower-case form of a stretch of text between the text before it (nearest character first)
and the text after it. -/
def lowerBetween (before : List Char) : List Char → List Char → List Char
  | [], _ => []
  | c :: rest, after => lowerAt before c (rest ++ after) ++ lowerBetween (c :: before) rest after

lemma lowerAfter_append (before t after : List Char) :
    lowerAfter before (t ++ after) =
      lowerBetween before t after ++ lowerAfter (t.reverse ++ before) after := by
  induction t generalizing before with
  | nil => rfl
  | cons c t ih =>
    rw [List.cons_append, lowerAfter, lowerBetween, ih, List.append_assoc, List.reverse_cons,
      List.append_assoc, List.singleton_append]

lemma lowerAfter_eq (before t : List Char) : lowerAfter before t = lowerBetween before t [] := by
  simpa [lowerAfter] using lowerAfter_append before t []

lemma lower_eq (t : List Char) : lower t = lowerBetween [] t [] := lowerAfter_eq [] t

lemma lowerBetween_append (before t u after : List Char) :
    lowerBetween before (t ++ u) after =
      lowerBetween before t (u ++ after) ++ lowerBetween (t.reverse ++ before) u after := by
  induction t generalizing before with
  | nil => rfl
  | cons c t ih =>
    rw [List.cons_append, lowerBetween, lowerBetween, ih, List.append_assoc, List.append_assoc,
      List.reverse_cons, List.append_assoc, List.singleton_append]

lemma lowerBetween_infix (t u v : List Char) :
    lowerBetween u.reverse t v <:+: lower (u ++ t ++ v) := by
  refine ⟨lowerBetween [] u (t ++ v), lowerAfter (t.reverse ++ u.reverse) v, ?_⟩
  rw [lower, List.append_assoc u t v, lowerAfter_append, lowerAfter_append, List.append_nil,
    List.append_assoc]

/-- A stretch has the same lower-case form wherever its capital sigmas have the same form. -/
lemma lowerBetween_congr
    (h : ∀ x y, t = x ++ capitalSigma :: y →
      sigmaBetween (x.reverse ++ before) (y ++ after) =
        sigmaBetween (x.reverse ++ before') (y ++ after')) :
    lowerBetween before t after = lowerBetween before' t after' := by
  induction t generalizing before before' with
  | nil => rfl
  | cons c t ih =>
    have hfirst : lowerAt before c (t ++ after) = lowerAt before' c (t ++ after') := by
      by_cases hc : c = capitalSigma
      · subst hc
        rw [lowerAt_capitalSigma, lowerAt_capitalSigma]
        exact congrArg ([·]) (h [] t rfl)
      · rw [lowerAt_of_ne hc, lowerAt_of_ne hc before']
    have hrest : lowerBetween (c :: before) t after = lowerBetween (c :: before') t after' :=
      ih fun x y hxy => by simpa using h (c :: x) y (by rw [hxy, List.cons_append])
    rw [lowerBetween, lowerBetween, hfirst, hrest]

/-- Where more of the capital sigmas have a form, the form is there more often. -/
lemma count_lowerBetween_le {s : Char}
    (h : ∀ x y, t = x ++ capitalSigma :: y →
      sigmaBetween (x.reverse ++ before) (y ++ after) = s →
        sigmaBetween (x.reverse ++ before') (y ++ after') = s) :
    (lowerBetween before t after).count s ≤ (lowerBetween before' t after').count s := by
  induction t generalizing before before' with
  | nil => exact Nat.le_refl _
  | cons c t ih =>
    have hfirst : (lowerAt before c (t ++ after)).count s ≤
        (lowerAt before' c (t ++ after')).count s := by
      by_cases hc : c = capitalSigma
      · subst hc
        have hsigma := h [] t rfl
        simp only [List.reverse_nil, List.nil_append] at hsigma
        rw [lowerAt_capitalSigma, lowerAt_capitalSigma, List.count_singleton, List.count_singleton]
        simp only [beq_iff_eq]
        split
        · next heq => rw [if_pos (hsigma heq)]
        · exact Nat.zero_le _
      · rw [lowerAt_of_ne hc, lowerAt_of_ne hc before']
    have hrest : (lowerBetween (c :: before) t after).count s ≤
        (lowerBetween (c :: before') t after').count s :=
      ih fun x y hxy => by simpa using h (c :: x) y (by rw [hxy, List.cons_append])
    rw [lowerBetween, lowerBetween, List.count_append, List.count_append]
    exact Nat.add_le_add hfirst hrest

lemma count_lowerBetween_lt {s : Char} {x y : List Char}
    (h : ∀ x' y', x ++ capitalSigma :: y = x' ++ capitalSigma :: y' →
      sigmaBetween (x'.reverse ++ before) (y' ++ after) = s →
        sigmaBetween (x'.reverse ++ before') (y' ++ after') = s)
    (hbefore : sigmaBetween (x.reverse ++ before) (y ++ after) ≠ s)
    (hafter : sigmaBetween (x.reverse ++ before') (y ++ after') = s) :
    (lowerBetween before (x ++ capitalSigma :: y) after).count s <
      (lowerBetween before' (x ++ capitalSigma :: y) after').count s := by
  have hleft : (lowerBetween before x (capitalSigma :: y ++ after)).count s ≤
      (lowerBetween before' x (capitalSigma :: y ++ after')).count s :=
    count_lowerBetween_le fun a b hab => by
      simpa using h a (b ++ capitalSigma :: y) (by rw [hab, List.append_assoc, List.cons_append])
  have hright : (lowerBetween (capitalSigma :: (x.reverse ++ before)) y after).count s ≤
      (lowerBetween (capitalSigma :: (x.reverse ++ before')) y after').count s :=
    count_lowerBetween_le fun a b hab => by
      simpa using h (x ++ capitalSigma :: a) b (by rw [hab, List.append_assoc, List.cons_append])
  simp only [lowerBetween_append, lowerBetween, lowerAt_capitalSigma, List.count_append,
    List.count_singleton, beq_iff_eq, if_neg hbefore, if_pos hafter]
  omega

/-! ### Parts of names -/

/-- A text whose capital sigmas all have their small forms settled within it. -/
def KeepsSigmas (t : List Char) : Prop :=
  ∀ x y, t = x ++ capitalSigma :: y → IsSettled x.reverse y

/-- So all texts without a capital sigma keep theirs. -/
lemma keepsSigmas_of_not_mem (h : capitalSigma ∉ t) : KeepsSigmas t := by
  rintro x y rfl
  exact absurd (List.mem_append_right x List.mem_cons_self) h

lemma lower_infix_of_keepsSigmas {name : List Char} (h : KeepsSigmas t) (hname : t <:+: name) :
    lower t <:+: lower name := by
  obtain ⟨u, v, rfl⟩ := hname
  have hforms : lower t = lowerBetween u.reverse t v := by
    rw [lower_eq]
    refine lowerBetween_congr fun x y hxy => ?_
    rw [List.append_nil, List.append_nil, (h x y hxy).sigmaBetween_append]
  rw [hforms]
  exact lowerBetween_infix t u v

lemma lower_append_letter (t : List Char) :
    lower (t ++ ['a']) = lowerBetween [] t ['a'] ++ ['a'] := by
  rw [lower, lowerAfter_append, lowerAfter, lowerAfter, lowerAt_of_ne (by decide)]
  rfl

lemma lower_cons_letter (t : List Char) : lower ('a' :: t) = 'a' :: lowerBetween ['a'] t [] := by
  rw [lower, lowerAfter, lowerAt_of_ne (by decide), lowerAfter_eq]
  rfl

/-- A letter after the text takes the final form from a capital sigma at its end. -/
lemma not_lower_infix_append {x y : List Char} (hx : nearestCased x.reverse = some true)
    (hy : nearestCased y = none) :
    ¬lower (x ++ capitalSigma :: y) <:+: lower (x ++ capitalSigma :: y ++ ['a']) := by
  intro hinfix
  have hlt : (lowerBetween [] (x ++ capitalSigma :: y) ['a']).count finalSigma <
      (lowerBetween [] (x ++ capitalSigma :: y) []).count finalSigma := by
    refine count_lowerBetween_lt (fun x' y' _ => ?_) ?_ ?_
    · simp only [List.append_nil, sigmaBetween_eq_finalSigma_iff, nearestCased_append]
      rintro ⟨hbefore, hafter⟩
      exact ⟨hbefore, fun h => hafter (by rw [h, Option.some_or])⟩
    · simp [sigmaBetween_eq_finalSigma_iff, nearestCased_append, hy, nearestCased_letter]
    · simp [sigmaBetween_eq_finalSigma_iff, hx, hy]
  have hle := hinfix.sublist.count_le finalSigma
  rw [lower_append_letter, lower_eq, List.count_append,
    List.count_eq_zero_of_not_mem (by decide : finalSigma ∉ ['a'])] at hle
  omega

/-- A letter before the text takes the small form from a capital sigma at its beginning. -/
lemma not_lower_infix_cons {x y : List Char} (hx : nearestCased x.reverse = none)
    (hy : nearestCased y ≠ some true) :
    ¬lower (x ++ capitalSigma :: y) <:+: lower ('a' :: (x ++ capitalSigma :: y)) := by
  intro hinfix
  have hlt : (lowerBetween ['a'] (x ++ capitalSigma :: y) []).count smallSigma <
      (lowerBetween [] (x ++ capitalSigma :: y) []).count smallSigma := by
    refine count_lowerBetween_lt (fun x' y' _ => ?_) ?_ ?_
    · simp only [List.append_nil, sigmaBetween_eq_smallSigma_iff, nearestCased_append]
      exact fun h hbefore => h (by rw [hbefore, Option.some_or])
    · simp [sigmaBetween_eq_smallSigma_iff, nearestCased_append, hx, nearestCased_letter, hy]
    · simp [sigmaBetween_eq_smallSigma_iff, hx]
  have hle := hinfix.sublist.count_le smallSigma
  rw [lower_cons_letter, lower_eq, List.count_cons_of_ne (by decide)] at hle
  omega

/-- The lower-case form of a text is found in that of every text around it exactly if its capital
sigmas have their forms settled. -/
theorem keepsSigmas_iff :
    KeepsSigmas t ↔ ∀ name, t <:+: name → lower t <:+: lower name := by
  constructor
  · exact fun h name => lower_infix_of_keepsSigmas h
  · intro h x y hxy
    subst hxy
    by_contra hsigma
    rcases not_isSettled_iff.mp hsigma with ⟨hx, hy⟩ | ⟨hx, hy⟩
    · exact not_lower_infix_append hx hy (h _ (List.prefix_append _ _).isInfix)
    · exact not_lower_infix_cons hx hy (h _ (List.suffix_cons _ _).isInfix)

end Text

namespace Log

open Document

/-- A record that the directory of a store has in a file under a name that listings look at. -/
def Store.HasLog (s : Store) (d : Disk) (r : Record) : Prop :=
  ∃ name t, isLogName name = true ∧ d.readText (s.directory.child name) = .ok t ∧
    readRecord t = .valid r

section Listing

variable {s : Store} {d : Disk} {r : Record} {part : String}

lemma Store.exists_list_eq (h : d.LeadsToDirectory s.directory) (q : Query) :
    ∃ rs, s.list q d = .ok rs ∧ ∀ r, r ∈ rs ↔ s.HasLog d r ∧ q.accepts r = true := by
  obtain ⟨found, hscan, hperm⟩ := exists_scan_perm h
  refine ⟨(found.map Found.record).filter q.accepts, by rw [list, records, hscan]; rfl, fun r => ?_⟩
  rw [List.mem_filter, List.mem_map]
  refine and_congr_left fun _ => ⟨?_, ?_⟩
  · rintro ⟨f, hf, rfl⟩
    obtain ⟨hname, t, hread, hr⟩ := mem_readable_iff.mp (hperm.mem_iff.mp hf)
    exact ⟨f.name, t, hname, hread, hr⟩
  · rintro ⟨name, t, hname, hread, hr⟩
    exact ⟨⟨name, r⟩, hperm.mem_iff.mpr (mem_readable_iff.mpr ⟨hname, t, hread, hr⟩), rfl⟩

/-- A record that is there is listed exactly if the query accepts it. -/
lemma Store.HasLog.mem_list_iff (h : s.HasLog d r) (q : Query) :
    (∃ rs, s.list q d = .ok rs ∧ r ∈ rs) ↔ q.accepts r = true := by
  obtain ⟨name, t, -, hread, -⟩ := id h
  obtain ⟨rs, hlist, hmem⟩ := exists_list_eq (leadsToDirectory_of_readText hread) q
  constructor
  · rintro ⟨rs', hlist', hr⟩
    obtain rfl := Except.ok.inj (hlist.symm.trans hlist')
    exact ((hmem r).mp hr).2
  · exact fun hq => ⟨rs, hlist, (hmem r).mpr ⟨h, hq⟩⟩

/-- An empty part narrows nothing, and stands in every name. -/
lemma matchesName_iff {name : String} : matchesName (some part) name = true ↔
    Text.lower part.toList <:+: Text.lower name.toList := by
  rw [matchesName, Bool.or_eq_true, decide_eq_true_iff, Text.contains_iff, or_iff_right_of_imp]
  rintro rfl
  exact List.nil_infix

/-- A record of a project and a module of the same name. -/
def Record.ofName (name : String) : Record :=
  { Record.ofCount 0 0 with project := name, module := name }

lemma Store.hasLog_ofName (name : String) :
    (⟨["logs"]⟩ : Store).HasLog
      ⟨[(["logs"], .directory),
        (["logs", "a.json"], .file (Text.Utf8.encode (fileText (Record.ofName name))))]⟩
      (Record.ofName name) := by
  have hshort : Json.isShort 0 = true := by decide +kernel
  have hlegible : (Record.ofName name).isLegible = true := by
    rw [show (Record.ofName name).isLegible = (Record.ofCount 0 0).isLegible from rfl,
      Record.isLegible_ofCount, hshort]
    rfl
  refine ⟨"a.json", Text.unifyLineEnds (fileText (Record.ofName name)), by decide, ?_, ?_⟩
  · rw [Disk.readText_of_find? (Disk.find?_eq_some_iff.mpr ⟨rfl, rfl⟩)]
    simp only [Text.Utf8.decode_encode]
  · rw [Record.readRecord_fileText rfl, hlegible, if_pos rfl]

/-- A listing that is narrowed to a part of a field contains all records with the part in the field,
in every store, exactly if the capital sigmas of the part have their forms settled. -/
lemma Store.keepsSigmas_iff_mem_list {q : Query} {field : Record → String}
    (hq : ∀ r, q.accepts r = matchesName (some part) (field r))
    (hfield : ∀ name, field (Record.ofName name) = name) :
    Text.KeepsSigmas part.toList ↔ ∀ (s : Store) (d : Disk) (r : Record), s.HasLog d r →
      part.toList <:+: (field r).toList → ∃ rs, s.list q d = .ok rs ∧ r ∈ rs := by
  rw [Text.keepsSigmas_iff]
  constructor
  · intro hinfix s d r hr hpart
    rw [hr.mem_list_iff, hq, matchesName_iff]
    exact hinfix _ hpart
  · intro hlisted name hpart
    have hname : part.toList <:+: (field (Record.ofName (String.ofList name))).toList := by
      rwa [hfield, String.toList_ofList]
    have hmem := hlisted _ _ _ (hasLog_ofName _) hname
    rwa [(hasLog_ofName _).mem_list_iff, hq, matchesName_iff, hfield, String.toList_ofList] at hmem

end Listing

/-- A listing by a part of the project's name contains every record of the store in whose project
the part stands, exactly for the parts whose capital sigmas have their forms settled within the
part, such as all parts without one. The same holds for a part of the module's name. -/
theorem Store.list_containsParts_iff (part : String) :
    (Text.KeepsSigmas part.toList ↔ ∀ (s : Store) (d : Disk) (r : Record), s.HasLog d r →
      part.toList <:+: r.project.toList →
        ∃ rs, s.list ⟨none, some part, none⟩ d = .ok rs ∧ r ∈ rs) ∧
    (Text.KeepsSigmas part.toList ↔ ∀ (s : Store) (d : Disk) (r : Record), s.HasLog d r →
      part.toList <:+: r.module.toList →
        ∃ rs, s.list ⟨none, none, some part⟩ d = .ok rs ∧ r ∈ rs) ∧
    (Text.capitalSigma ∉ part.toList → Text.KeepsSigmas part.toList) := by
  refine ⟨keepsSigmas_iff_mem_list (fun r => ?_) fun _ => rfl,
    keepsSigmas_iff_mem_list (fun r => ?_) fun _ => rfl, Text.keepsSigmas_of_not_mem⟩
  · simp [Query.accepts, matchesName]
  · simp [Query.accepts, matchesName]

/-- The sigma at the end of the part is a final one, and inside the name it is not. -/
theorem Store.not_list_containsParts :
    ∃ d : Disk, (⟨["logs"]⟩ : Store).HasLog d (Record.ofName "ΘΕΣΣΑΛΟΝΙΚΗ") ∧
      "ΘΕΣ".toList <:+: "ΘΕΣΣΑΛΟΝΙΚΗ".toList ∧
      ¬∃ rs, (⟨["logs"]⟩ : Store).list ⟨none, some "ΘΕΣ", none⟩ d = .ok rs ∧
        Record.ofName "ΘΕΣΣΑΛΟΝΙΚΗ" ∈ rs := by
  refine ⟨_, hasLog_ofName _, by decide, ?_⟩
  rw [(hasLog_ofName _).mem_list_iff]
  decide +kernel

end Log

end Scaffold
