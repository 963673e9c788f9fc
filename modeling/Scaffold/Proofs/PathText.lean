import Mathlib.Tactic.Lemma
import Scaffold.Disk.Path

/-!
# Paths as texts

A path that has been read from a text is written as a text that is read as the same path, with the
same root. Reading has dropped the names that say nothing, and no name holds a slash.
-/

namespace Scaffold.Path

/-- A path as it is read from a text: its names say something and hold no slash. -/
def IsRead (p : Path) : Prop := ∀ name ∈ p.names, name ≠ "" ∧ name ≠ "." ∧ '/' ∉ name.toList

instance (p : Path) : Decidable p.IsRead := inferInstanceAs (Decidable (∀ name ∈ p.names, _))

lemma not_mem_of_mem_splitSlashes {t part : List Char} (h : part ∈ splitSlashes t) :
    '/' ∉ part := by
  induction t generalizing part with
  | nil =>
    rw [List.mem_singleton.mp h]
    exact List.not_mem_nil
  | cons c rest ih =>
    rw [splitSlashes] at h
    by_cases hc : c = '/'
    · rw [if_pos hc] at h
      rcases List.mem_cons.mp h with rfl | hrest
      · exact List.not_mem_nil
      · exact ih hrest
    · rw [if_neg hc] at h
      cases hsplit : splitSlashes rest with
      | nil =>
        rw [hsplit] at h
        rw [List.mem_singleton.mp h]
        simpa using Ne.symm hc
      | cons first more =>
        rw [hsplit] at h ih
        rcases List.mem_cons.mp h with rfl | hmore
        · have hfirst := ih (List.mem_cons_self (a := first) (l := more))
          simpa [hfirst] using Ne.symm hc
        · exact ih (List.mem_cons_of_mem first hmore)

lemma isRead_ofString (s : String) : IsRead (ofString s) := by
  intro name hname
  obtain ⟨hmem, hsays⟩ := List.mem_filter.mp hname
  obtain ⟨part, hpart, rfl⟩ := List.mem_map.mp hmem
  obtain ⟨hempty, hdot⟩ := of_decide_eq_true hsays
  refine ⟨hempty, hdot, ?_⟩
  rw [String.toList_ofList]
  exact not_mem_of_mem_splitSlashes hpart

/-- Up to its first slash a text is one part. -/
lemma splitSlashes_append {t : List Char} (h : '/' ∉ t) (u : List Char) :
    splitSlashes (t ++ '/' :: u) = t :: splitSlashes u := by
  induction t with
  | nil => rfl
  | cons c rest ih =>
    obtain ⟨hc, hrest⟩ := not_or.mp (mt List.mem_cons.mpr h)
    rw [List.cons_append, splitSlashes, if_neg (Ne.symm hc), ih hrest]

lemma splitSlashes_of_not_mem {t : List Char} (h : '/' ∉ t) : splitSlashes t = [t] := by
  induction t with
  | nil => rfl
  | cons c rest ih =>
    obtain ⟨hc, hrest⟩ := not_or.mp (mt List.mem_cons.mpr h)
    rw [splitSlashes, if_neg (Ne.symm hc), ih hrest]

lemma splitSlashes_intercalate {names : List String} (hne : names ≠ [])
    (h : ∀ name ∈ names, '/' ∉ name.toList) :
    splitSlashes ("/".intercalate names).toList = names.map String.toList := by
  induction names with
  | nil => exact absurd rfl hne
  | cons first rest ih =>
    obtain ⟨hfirst, hrest⟩ := List.forall_mem_cons.mp h
    cases rest with
    | nil =>
      rw [String.intercalate_singleton, splitSlashes_of_not_mem hfirst]
      rfl
    | cons next more =>
      have hslash : "/".toList = ['/'] := rfl
      rw [String.intercalate_cons_of_ne_nil (List.cons_ne_nil next more), String.toList_append,
        String.toList_append, hslash, List.append_assoc, List.singleton_append,
        splitSlashes_append hfirst, ih (List.cons_ne_nil next more) hrest]
      rfl

/-! ### Names and roots in a text -/

lemma namesIn_intercalate {p : Path} (h : p.IsRead) :
    namesIn ("/".intercalate p.names).toList = p.names := by
  by_cases hne : p.names = []
  · rw [hne]
    rfl
  · have hsplit := splitSlashes_intercalate hne fun name hname => (h name hname).2.2
    have hback : String.ofList ∘ String.toList = id := by
      funext name
      exact String.ofList_toList
    rw [namesIn, hsplit, List.map_map, hback, List.map_id]
    refine List.filter_eq_self.mpr fun name hname => ?_
    exact decide_eq_true ⟨(h name hname).1, (h name hname).2.1⟩

/-- Slashes at the front of a text add no names. -/
lemma namesIn_root_append (r : Root) (t : List Char) :
    namesIn (r.text.toList ++ t) = namesIn t := by
  have hslash (u : List Char) : namesIn ('/' :: u) = namesIn u := by
    simp [namesIn, splitSlashes]
  cases r with
  | here => rfl
  | slash => exact hslash t
  | slashes => exact (hslash ('/' :: t)).trans (hslash t)

lemma head?_intercalate_ne {p : Path} (h : p.IsRead) :
    ("/".intercalate p.names).toList.head? ≠ some '/' := by
  rcases hnames : p.names with _ | ⟨first, rest⟩
  · decide
  · obtain ⟨hempty, -, hslash⟩ := h first (by simp [hnames])
    have hfirst : first.toList.head? ≠ some '/' := fun hhead => hslash (List.mem_of_head? hhead)
    obtain ⟨c, others, hcons⟩ := List.exists_cons_of_ne_nil (l := first.toList) (by simpa using hempty)
    rw [hcons] at hfirst
    cases rest with
    | nil =>
      rw [String.intercalate_singleton, hcons]
      exact hfirst
    | cons next more =>
      rw [String.intercalate_cons_of_ne_nil (List.cons_ne_nil next more), String.toList_append,
        String.toList_append, hcons]
      exact hfirst

lemma takeWhile_slash_eq_nil {t : List Char} (h : t.head? ≠ some '/') :
    t.takeWhile (· = '/') = [] := by
  cases t with
  | nil => rfl
  | cons c rest => exact List.takeWhile_cons_of_neg (by simpa using h)

/-- The slashes at the front of a text tell its root, if no slash comes after them. -/
lemma ofSlashes_root_append (r : Root) {t : List Char} (h : t.head? ≠ some '/') :
    Root.ofSlashes ((r.text.toList ++ t).takeWhile (· = '/')).length = r := by
  have hnone := takeWhile_slash_eq_nil h
  cases r with
  | here =>
    rw [show Root.here.text.toList ++ t = t from rfl, hnone]
    rfl
  | slash =>
    rw [show Root.slash.text.toList ++ t = '/' :: t from rfl]
    simp [hnone, Root.ofSlashes]
  | slashes =>
    rw [show Root.slashes.text.toList ++ t = '/' :: '/' :: t from rfl]
    simp [hnone, Root.ofSlashes]

/-- A path that has been read is read again from its text. -/
lemma ofString_text {p : Path} (h : p.IsRead) : ofString p.text = p := by
  by_cases hp : p.root = .here ∧ p.names = []
  · obtain ⟨root, names⟩ := p
    obtain ⟨rfl, rfl⟩ := hp
    decide
  · rw [text, if_neg hp, ofString, String.toList_append, namesIn_root_append, namesIn_intercalate h,
      ofSlashes_root_append p.root (head?_intercalate_ne h)]

/-- A text without a slash that is neither empty nor a dot names one entry of a directory. -/
lemma ofString_of_not_mem {s : String} (h : '/' ∉ s.toList) (hempty : s ≠ "") (hdot : s ≠ ".") :
    ofString s = ⟨.here, [s]⟩ := by
  have hnone := takeWhile_slash_eq_nil fun hhead => h (List.mem_of_head? hhead)
  rw [ofString, hnone]
  simp [Root.ofSlashes, namesIn, splitSlashes_of_not_mem h, hempty, hdot]

end Scaffold.Path
