import Mathlib.Data.List.Forall2
import Mathlib.Tactic.Lemma
import Scaffold.Document.Pruned
import Scaffold.Proofs.TableKeys
import Scaffold.Schema.Reader

/-!
# Reading the fields of a map

When a record that is put together from checked parts is valid, what its fields are once one of them
has been set anew, and what they are in a map from which the absent values have been left out. A
text is the key of a map under no other key.
-/

namespace Scaffold.Schema

open Document

namespace Checked

variable {α β : Type} {x : Checked α}

@[simp] lemma map_valid (f : α → β) (a : α) : f <$> Checked.valid a = .valid (f a) := rfl

@[simp] lemma seq_valid (f : α → β) (a : α) :
    Checked.valid f <*> Checked.valid a = .valid (f a) := rfl

@[simp] lemma within_valid (step : Step) (a : α) : (Checked.valid a).within step = .valid a := rfl

lemma map_eq_valid_iff {f : α → β} {b : β} :
    f <$> x = .valid b ↔ ∃ a, x = .valid a ∧ f a = b := by
  cases x with
  | valid a => simp
  | invalid problems =>
    refine iff_of_false ?_ (by simp)
    rintro ⟨⟩

lemma seq_eq_valid_iff {f : Checked (α → β)} {b : β} :
    f <*> x = .valid b ↔ ∃ g a, f = .valid g ∧ x = .valid a ∧ g a = b := by
  cases f with
  | valid g =>
    cases x with
    | valid a => simp
    | invalid problems =>
      refine iff_of_false ?_ (by simp)
      rintro ⟨⟩
  | invalid problems =>
    refine iff_of_false ?_ (by simp)
    cases x <;> rintro ⟨⟩

lemma within_eq_valid_iff {step : Step} {a : α} : x.within step = .valid a ↔ x = .valid a := by
  cases x <;> simp [within]

lemma andThen_eq_valid_iff {f : α → Checked β} {b : β} :
    x.andThen f = .valid b ↔ ∃ a, x = .valid a ∧ f a = .valid b := by
  cases x <;> simp [andThen]

/-- The items of a list are valid exactly if each of them is. -/
lemma items_eq_valid_iff {check : α → Checked β} {index : Nat} {xs : List α} {ys : List β} :
    items check index xs = .valid ys ↔ List.Forall₂ (fun x y => check x = .valid y) xs ys := by
  induction xs generalizing index ys with
  | nil => rw [items, List.forall₂_nil_left_iff, Checked.valid.injEq, eq_comm]
  | cons x rest ih =>
    rw [items, seq_eq_valid_iff, List.forall₂_cons_left_iff]
    constructor
    · rintro ⟨f, more, hf, hmore, rfl⟩
      obtain ⟨first, hfirst, rfl⟩ := map_eq_valid_iff.mp hf
      exact ⟨first, more, within_eq_valid_iff.mp hfirst, ih.mp hmore, rfl⟩
    · rintro ⟨first, more, hfirst, hmore, rfl⟩
      have hcons : List.cons <$> (check x).within (.item index) = .valid (List.cons first) :=
        map_eq_valid_iff.mpr ⟨first, within_eq_valid_iff.mpr hfirst, rfl⟩
      exact ⟨List.cons first, more, hcons, ih.mpr hmore, rfl⟩

/-- What has been read of the items of a list comes from the items. -/
lemma exists_mem_of_items {check : α → Checked β} {index : Nat} {xs : List α} {ys : List β}
    (h : items check index xs = .valid ys) : ∀ y ∈ ys, ∃ x ∈ xs, check x = .valid y := by
  have hall := (items_eq_valid_iff.mp h).flip
  intro y hy
  obtain ⟨k, hk, rfl⟩ := List.getElem_of_mem hy
  have hk' : k < xs.length := hall.length_eq ▸ hk
  exact ⟨xs[k], List.getElem_mem hk', hall.get hk hk'⟩

lemma items_map {check : α → Checked β} {write : β → α} {index : Nat} {ys : List β}
    (h : ∀ y ∈ ys, check (write y) = .valid y) : items check index (ys.map write) = .valid ys := by
  rw [items_eq_valid_iff, List.forall₂_map_left_iff]
  exact List.forall₂_same.mpr h

end Checked

/-! ### Texts as keys -/

lemma beq_string_iff {k : Scalar} {s : String} : (k == Scalar.string s) = true ↔ k = .string s := by
  change Scalar.sameKey k (.string s) = true ↔ _
  cases k with
  | string t => simp [Scalar.sameKey, Scalar.number?, Scalar.instant?]
  | null => simp [Scalar.sameKey, Scalar.number?, Scalar.instant?]
  | bool b => simp [Scalar.sameKey, Scalar.number?]
  | int n => simp [Scalar.sameKey, Scalar.number?]
  | float x =>
    simp only [Scalar.sameKey, Scalar.number?, Scalar.instant?]
    cases x.toInt? <;> simp
  | date d => simp [Scalar.sameKey, Scalar.number?, Scalar.instant?]
  | moment m =>
    simp only [Scalar.sameKey, Scalar.number?, Scalar.instant?]
    cases m.instant? <;> simp
  | bytes b => simp [Scalar.sameKey, Scalar.number?, Scalar.instant?]

/-- Texts as keys, each of them once. -/
structure HasTextKeys (entries : Entries) : Prop where
  distinct : Table.HasDistinctKeys entries
  areTexts : ∀ key ∈ Table.keys entries, ∃ name, key = .string name

lemma HasTextKeys.nil : HasTextKeys [] := ⟨List.Pairwise.nil, by simp [Table.keys]⟩

lemma HasTextKeys.insert {entries : Entries} (h : HasTextKeys entries) (name : String) (v : Value) :
    HasTextKeys (Table.insert entries (.string name) v) := by
  refine ⟨h.distinct.insert _ v, fun key hkey => ?_⟩
  rcases Table.keys_insert_cases entries (.string name) v with ⟨-, heq⟩ | ⟨-, heq⟩
  · rw [heq] at hkey
    exact h.areTexts key hkey
  · rw [heq, List.mem_append] at hkey
    exact hkey.elim (h.areTexts key) fun hlast => ⟨name, List.mem_singleton.mp hlast⟩

lemma HasTextKeys.ofPairs {pairs : Entries} (h : ∀ pair ∈ pairs, ∃ name, pair.1 = .string name) :
    HasTextKeys (Table.ofPairs pairs) := by
  induction pairs using List.reverseRecOn with
  | nil => exact .nil
  | append_singleton pairs pair ih =>
    obtain ⟨key, v⟩ := pair
    obtain ⟨hpairs, hlast⟩ := List.forall_mem_append.mp h
    obtain ⟨name, rfl⟩ := List.forall_mem_singleton.mp hlast
    rw [Table.ofPairs_concat]
    exact (ih hpairs).insert name v

lemma find?_insert_string (entries : Entries) (a b : String) (v : Value) :
    Table.find? (Table.insert entries (.string a) v) (.string b) =
      if a = b then some v else Table.find? entries (.string b) := by
  induction entries with
  | nil =>
    by_cases hab : a = b
    · simp [Table.insert, Table.find?, hab, beq_string_iff.mpr]
    · simp [Table.insert, Table.find?, hab, beq_string_iff]
  | cons pair rest ih =>
    obtain ⟨key, u⟩ := pair
    by_cases hkey : key = .string a
    · subst hkey
      by_cases hab : a = b
      · simp [Table.insert, Table.find?, hab, beq_string_iff.mpr]
      · simp [Table.insert, Table.find?, hab, beq_string_iff]
    · have hne := Bool.eq_false_iff.mpr (mt beq_string_iff.mp hkey)
      simp only [Table.insert, hne, Bool.false_eq_true, if_false, Table.find?, ih]
      by_cases hb : key = .string b
      · have hab : a ≠ b := fun h => hkey (h ▸ hb)
        simp [hab]
      · have hbne := Bool.eq_false_iff.mpr (mt beq_string_iff.mp hb)
        simp [hbne]

section Insert

variable {α : Type} {entries : Entries} {name : FieldName} {key : String} {v : Value}

/-- A field that is not set anew is given as before. -/
lemma given?_insert_of_ne (hwritten : key ≠ name.written) (hsecond : key ≠ name.second) :
    name.given? (Table.insert entries (.string key) v) = name.given? entries := by
  simp [FieldName.given?, find?_insert_string, hwritten, hsecond]

lemma required_insert_of_ne {part : Reader α} (hwritten : key ≠ name.written)
    (hsecond : key ≠ name.second) :
    required (Table.insert entries (.string key) v) name part = required entries name part := by
  rw [required, required, given?_insert_of_ne hwritten hsecond]

lemma optional_insert_of_ne {default : α} {part : Reader α} (hwritten : key ≠ name.written)
    (hsecond : key ≠ name.second) :
    optional (Table.insert entries (.string key) v) name default part =
      optional entries name default part := by
  rw [optional, optional, given?_insert_of_ne hwritten hsecond]

lemma optional_insert_self {default : α} {part : Reader α} :
    optional (Table.insert entries (.string key) v) (.single key) default part =
      (part v).within (.field key) := by
  simp [optional, FieldName.given?, FieldName.single, find?_insert_string]

end Insert

/-! ### Fields by name -/

/-- The entries of a map with the given texts as keys. -/
def entriesOf (fields : List (String × Value)) : Entries :=
  fields.map fun (name, v) => (.string name, v)

@[simp] lemma find?_entriesOf_nil (key : String) :
    Table.find? (entriesOf []) (.string key) = none := rfl

lemma hasTextKeys_entriesOf {fields : List (String × Value)} (h : (fields.map Prod.fst).Nodup) :
    HasTextKeys (entriesOf fields) := by
  have hkeys : Table.keys (entriesOf fields) = fields.map fun field => .string field.1 := by
    simp [Table.keys, entriesOf]
  constructor
  · rw [Table.HasDistinctKeys, hkeys, List.pairwise_map]
    refine (List.pairwise_map.mp h).imp fun hne => ?_
    exact eq_false_of_ne_true fun hsame => hne (Scalar.string.inj (beq_string_iff.mp hsame))
  · intro key hkey
    rw [hkeys] at hkey
    obtain ⟨field, -, rfl⟩ := List.mem_map.mp hkey
    exact ⟨field.1, rfl⟩

lemma record_entriesOf {α : Type} (name : String) (read : Entries → Checked α)
    (fields : List (String × Value)) :
    Schema.record name read (Value.record fields) = read (entriesOf fields) := rfl

/-- What a map of named fields holds under a name. -/
@[simp] lemma find?_entriesOf_cons (name key : String) (v : Value) (rest : List (String × Value)) :
    Table.find? (entriesOf ((name, v) :: rest)) (.string key) =
      if name = key then some v else Table.find? (entriesOf rest) (.string key) := by
  rw [entriesOf, List.map_cons, Table.find?]
  by_cases h : name = key
  · rw [if_pos (beq_string_iff.mpr (congrArg Scalar.string h)), if_pos h]
  · rw [if_neg fun hbeq => h (Scalar.string.inj (beq_string_iff.mp hbeq)), if_neg h]
    rfl

lemma find?_entriesOf_of_not_mem {fields : List (String × Value)} {key : String}
    (h : key ∉ fields.map Prod.fst) : Table.find? (entriesOf fields) (.string key) = none := by
  induction fields with
  | nil => rfl
  | cons field rest ih =>
    obtain ⟨hfield, hrest⟩ := not_or.mp (mt List.mem_cons.mpr h)
    rw [find?_entriesOf_cons, if_neg (Ne.symm hfield), ih hrest]

section Present

variable {α : Type} {fields : List (String × Value)} {name : FieldName} {part : Reader α}

/-- What is left of a map without its absent values holds what is there under a name. -/
lemma find?_entriesOf_present (h : (fields.map Prod.fst).Nodup) (key : String) :
    Table.find? (entriesOf (Value.present fields)) (.string key) =
      (Table.find? (entriesOf fields) (.string key)).filter fun v => !v.isNull := by
  induction fields with
  | nil => rfl
  | cons field rest ih =>
    obtain ⟨name, v⟩ := field
    obtain ⟨hname, hrest⟩ := List.nodup_cons.mp h
    have hpresent : Value.present ((name, v) :: rest) =
        if v.isNull then Value.present rest else (name, v) :: Value.present rest := by
      cases hv : v.isNull <;> simp [Value.present, hv]
    rw [hpresent, find?_entriesOf_cons]
    by_cases hkey : name = key
    · subst hkey
      have hnone : Table.find? (entriesOf (Value.present rest)) (.string name) = none := by
        rw [ih hrest, find?_entriesOf_of_not_mem hname, Option.filter_none]
      cases hv : v.isNull <;> simp [Option.filter, hv, hnone]
    · rw [if_neg hkey, ← ih hrest]
      cases hv : v.isNull <;> simp [hkey]

/-- A field is given without the absent values if it is given and its value is not absent. -/
lemma given?_present (h : (fields.map Prod.fst).Nodup)
    (hsecond : name.second = name.written ∨ name.second ∉ fields.map Prod.fst) :
    name.given? (entriesOf (Value.present fields)) =
      (name.given? (entriesOf fields)).filter fun given => !given.2.isNull := by
  have habsent : Table.find? (entriesOf fields) (.string name.written) = none →
      Table.find? (entriesOf fields) (.string name.second) = none := by
    intro hnone
    rcases hsecond with hsame | hnot
    · rwa [hsame]
    · exact find?_entriesOf_of_not_mem hnot
  have hdropped : ∀ v, v.isNull = true →
      Table.find? (entriesOf fields) (.string name.written) = some v →
      (Table.find? (entriesOf fields) (.string name.second)).filter (fun v => !v.isNull) =
        none := by
    intro v hv hsome
    rcases hsecond with hsame | hnot
    · rw [hsame, hsome]
      simp [hv]
    · rw [find?_entriesOf_of_not_mem hnot, Option.filter_none]
  rw [FieldName.given?, FieldName.given?, find?_entriesOf_present h, find?_entriesOf_present h]
  cases hwritten : Table.find? (entriesOf fields) (.string name.written) with
  | none => simp [habsent hwritten]
  | some v =>
    cases hv : v.isNull with
    | false => simp [Option.filter, hv]
    | true => simp [Option.filter_some, hv, hdropped v hv hwritten]

/-- A field that may be absent is read alike whether its absent value is written or left out. -/
lemma optional_present (h : (fields.map Prod.fst).Nodup)
    (hsecond : name.second = name.written ∨ name.second ∉ fields.map Prod.fst) :
    optional (entriesOf (Value.present fields)) name none (nullable part) =
      optional (entriesOf fields) name none (nullable part) := by
  rw [optional, optional, given?_present h hsecond]
  cases name.given? (entriesOf fields) with
  | none => rfl
  | some given =>
    cases hv : given.2.isNull <;> simp [Option.filter, hv, nullable]

/-- A field that is not absent is given alike whether absent values are written or left out. -/
lemma given?_present_of_not_isNull (h : (fields.map Prod.fst).Nodup)
    (hsecond : name.second = name.written ∨ name.second ∉ fields.map Prod.fst)
    (hgiven : (name.given? (entriesOf fields)).all fun given => !given.2.isNull) :
    name.given? (entriesOf (Value.present fields)) = name.given? (entriesOf fields) := by
  rw [given?_present h hsecond]
  cases hname : name.given? (entriesOf fields) with
  | none => rfl
  | some given =>
    rw [hname, Option.all_some] at hgiven
    rw [Option.filter_some, if_pos hgiven]

lemma required_present (h : (fields.map Prod.fst).Nodup)
    (hsecond : name.second = name.written ∨ name.second ∉ fields.map Prod.fst)
    (hgiven : (name.given? (entriesOf fields)).all fun given => !given.2.isNull) :
    required (entriesOf (Value.present fields)) name part =
      required (entriesOf fields) name part := by
  rw [required, required, given?_present_of_not_isNull h hsecond hgiven]

lemma optional_present_of_not_isNull {default : α} (h : (fields.map Prod.fst).Nodup)
    (hsecond : name.second = name.written ∨ name.second ∉ fields.map Prod.fst)
    (hgiven : (name.given? (entriesOf fields)).all fun given => !given.2.isNull) :
    optional (entriesOf (Value.present fields)) name default part =
      optional (entriesOf fields) name default part := by
  rw [optional, optional, given?_present_of_not_isNull h hsecond hgiven]

end Present

/-! ### Facts about what has been read -/

lemma record_eq_valid_iff {α : Type} {name : String} {read : Entries → Checked α} {v : Value}
    {a : α} : Schema.record name read v = .valid a ↔
      ∃ entries, v = .map entries ∧ read entries = .valid a := by
  cases v <;> simp [Schema.record, Checked.fail]

section Facts

variable {α : Type} {entries : Entries} {name : FieldName} {part : Reader α} {P : α → Prop} {a : α}

lemma of_required (hpart : ∀ v a, part v = .valid a → P a)
    (h : required entries name part = .valid a) : P a := by
  rw [required] at h
  cases hgiven : name.given? entries with
  | none => simp [hgiven] at h
  | some given =>
    rw [hgiven] at h
    exact hpart given.2 a (Checked.within_eq_valid_iff.mp h)

lemma of_optional_given {default : α} (hdefault : P default)
    (hpart : ∀ given ∈ name.given? entries, part given.2 = .valid a → P a)
    (h : optional entries name default part = .valid a) : P a := by
  rw [optional] at h
  cases hgiven : name.given? entries with
  | none =>
    rw [hgiven] at h
    obtain rfl := Checked.valid.inj h
    exact hdefault
  | some given =>
    rw [hgiven] at h
    exact hpart given hgiven (Checked.within_eq_valid_iff.mp h)

lemma of_optional {default : α} (hdefault : P default) (hpart : ∀ v a, part v = .valid a → P a)
    (h : optional entries name default part = .valid a) : P a :=
  of_optional_given hdefault (fun given _ => hpart given.2 a) h

lemma of_list {otherwise : Cause} (hpart : ∀ v a, part v = .valid a → P a) {v : Value} {as : List α}
    (h : Schema.list otherwise part v = .valid as) : ∀ a ∈ as, P a := by
  cases v with
  | list items =>
    intro a ha
    obtain ⟨v, -, hread⟩ := Checked.exists_mem_of_items h a ha
    exact hpart v a hread
  | set items =>
    intro a ha
    obtain ⟨v, -, hread⟩ := Checked.exists_mem_of_items h a ha
    exact hpart v a hread
  | scalar s => cases h
  | map entries => cases h

lemma of_nullableList {otherwise : Cause} (hpart : ∀ v a, part v = .valid a → P a) {v : Value}
    {as : List α} (h : nullableList otherwise part v = .valid as) : ∀ a ∈ as, P a := by
  rw [nullableList] at h
  cases hv : v.isNull with
  | true =>
    rw [hv, if_pos rfl] at h
    obtain rfl := Checked.valid.inj h
    simp
  | false =>
    rw [hv, if_neg Bool.false_ne_true] at h
    exact of_list hpart h

end Facts

/-! ### Words -/

/-- A word stands for what it is listed with. -/
lemma choice_eq_valid_iff {α : Type} {choices : List (String × α)} {v : Value} {a : α} :
    choice choices v = .valid a ↔
      ∃ word, text v = .valid word ∧ Table.find? choices word = some a := by
  rw [choice]
  cases htext : text v with
  | invalid problems => simp [Checked.toOption, Checked.fail]
  | valid word =>
    cases hfind : Table.find? choices word <;> simp [Checked.toOption, Checked.fail, hfind]

/-! ### Parts that are read as they were written -/

lemma nullable_getD {α : Type} {part : Reader α} {write : α → Value} (x : Option α)
    (hgiven : ∀ a ∈ x, (write a).isNull = false) (hread : ∀ a ∈ x, part (write a) = .valid a) :
    nullable part ((x.map write).getD .null) = .valid x := by
  cases x with
  | none => rfl
  | some a =>
    rw [Option.map_some, Option.getD_some, nullable, hgiven a rfl, hread a rfl]
    rfl

lemma nullable_text_string? (s : Option String) :
    nullable text (Value.string? s) = .valid s :=
  nullable_getD s (fun _ _ => rfl) fun _ _ => rfl

end Scaffold.Schema
