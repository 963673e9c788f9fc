import Mathlib.Data.List.Forall2
import Scaffold.Proofs.DirectoryListing
import Scaffold.Proofs.DocumentKeys
import Scaffold.Proofs.FieldReading
import Scaffold.Proofs.Utf8RoundTrip

/-!
# The categories of a catalog

A catalog of templates is kept by the texts of the keys of its document. Keys that differ may have
the same text: a number and the text of its digits do. Then the later one takes the place of the
earlier one, and the templates of the earlier one are lost. Nothing is lost otherwise, so nothing of
a document in JSON.
-/

namespace Scaffold

open Document Schema

namespace TemplateCatalog

/-! ### What is to be kept -/

/-- The documents of templates in a list of them. -/
def documentsIn : Value → List Value
  | .list documents => documents
  | _ => []

/-- The texts of the keys of a document. -/
def names (entries : Entries) : List String := (Table.keys entries).map Scalar.text

/-- An entry of a document and the category that it is read as. -/
structure IsReadAs (entry : Scalar × Value) (category : String × List Template) : Prop where
  name : entry.1.text = category.1
  isList : ∃ documents, entry.2 = .list documents
  templates : List.Forall₂ (fun document t => Template.read document = .valid t)
    (documentsIn entry.2) category.2

/-- A category is what the last entry of its name is read as. -/
def IsOfLast (entries : Entries) (category : String × List Template) : Prop :=
  ∃ before entry after, entries = before ++ entry :: after ∧ IsReadAs entry category ∧
    category.1 ∉ names after

/-- A catalog that loses nothing of a document: its templates, list after list, are those of the
document in order, and it has a category for each key. -/
structure IsLossless (c : TemplateCatalog) (entries : Entries) : Prop where
  templates : List.Forall₂ (fun document t => Template.read document = .valid t)
    (entries.flatMap fun entry => documentsIn entry.2) (c.flatMap Prod.snd)
  categories : c.length = entries.length

/-! ### The catalog of a document -/

section Reading

variable {source : String} {entries : Entries} {categories : List (String × List Template)}

/-- The category that an entry is read as. -/
def readEntry (source : String) (entry : Scalar × Value) :
    Except Failure (String × List Template) :=
  (readCategory source entry.1 entry.2).map fun templates => (entry.1.text, templates)

lemma addCategories_eq (source : String) (c : TemplateCatalog) (entries : Entries) :
    addCategories source c entries = (entries.mapM (readEntry source)).map fun categories =>
      categories.foldl (fun c category => Table.insert c category.1 category.2) c := by
  induction entries generalizing c with
  | nil => rfl
  | cons entry rest ih =>
    obtain ⟨key, v⟩ := entry
    rw [addCategories, List.mapM_cons, readEntry]
    cases readCategory source key v with
    | error e => rfl
    | ok templates =>
      change addCategories source (Table.insert c key.text templates) rest = _
      rw [ih]
      cases hrest : rest.mapM (readEntry source) with
      | error e => simp [Except.map, bind, Except.bind]
      | ok categories => simp [Except.map, bind, Except.bind, pure, Except.pure]

lemma ofDocument_eq_valid_iff {v : Value} {t : Template} :
    Template.ofDocument source v = .ok t ↔ Template.read v = .valid t := by
  unfold Template.ofDocument
  cases Template.read v <;> simp

lemma isReadAs_of_readEntry {entry : Scalar × Value} {category : String × List Template}
    (h : readEntry source entry = .ok category) : IsReadAs entry category := by
  obtain ⟨key, v⟩ := entry
  obtain ⟨templates, hcategory, rfl⟩ := map_eq_ok_iff.mp h
  simp only [readCategory, bind_eq_ok_iff] at hcategory
  obtain ⟨-, -, hread⟩ := hcategory
  cases v with
  | list documents =>
    have hall := mapM_eq_ok_iff.mp hread
    exact ⟨rfl, ⟨documents, rfl⟩, hall.imp fun _ _ => ofDocument_eq_valid_iff.mp⟩
  | scalar s => cases hread
  | map entries => cases hread
  | set items => cases hread

/-- The catalog of a document is the table of its categories. -/
lemma exists_of_ofDocument {v : Value} {c : TemplateCatalog} (h : ofDocument source v = .ok c) :
    ∃ entries categories, v = .map entries ∧ List.Forall₂ IsReadAs entries categories ∧
      c = Table.ofPairs categories := by
  cases v with
  | map entries =>
    rw [ofDocument, addCategories_eq, map_eq_ok_iff] at h
    obtain ⟨categories, hread, rfl⟩ := h
    have hall := mapM_eq_ok_iff.mp hread
    exact ⟨entries, categories, rfl, hall.imp fun _ _ => isReadAs_of_readEntry, rfl⟩
  | scalar s => cases h
  | list items => cases h
  | set items => cases h

lemma keys_eq_names (h : List.Forall₂ IsReadAs entries categories) :
    Table.keys categories = names entries := by
  induction h with
  | nil => rfl
  | cons hentry _ ih => exact congrArg₂ _ hentry.name.symm ih

lemma isOfLast_of_mem (h : List.Forall₂ IsReadAs entries categories)
    {category : String × List Template} (hmem : category ∈ Table.ofPairs categories) :
    IsOfLast entries category := by
  obtain ⟨name, templates⟩ := category
  have hfind := Table.find?_of_mem (Table.nodup_keys_ofPairs categories) hmem
  obtain ⟨before, after, rfl, hlast⟩ := Table.find?_ofPairs_iff.mp hfind
  obtain ⟨entry, later, hentry, hlater, hdrop⟩ :=
    List.forall₂_cons_right_iff.mp (List.forall₂_drop_append entries before _ h)
  refine ⟨entries.take before.length, entry, later, ?_, hentry, keys_eq_names hlater ▸ hlast⟩
  rw [← hdrop, List.take_append_drop]

lemma isLossless_ofPairs_iff (h : List.Forall₂ IsReadAs entries categories) :
    IsLossless (Table.ofPairs categories) entries ↔ (names entries).Nodup := by
  rw [← keys_eq_names h]
  constructor
  · intro hlossless
    exact Table.length_ofPairs_iff.mp (hlossless.categories.trans h.length_eq)
  · intro hnodup
    rw [Table.ofPairs_eq_self hnodup]
    exact ⟨List.rel_flatMap h fun _ _ hentry => hentry.templates, h.length_eq.symm⟩

end Reading

/-! ### Catalogs in files -/

lemma readDocument_of_encode {room : Room} {p : Path} {d : Disk} {t : List Char}
    (h : d.find? p = .ok (some (.file (Text.Utf8.encode t)))) :
    d.readDocument room p = (Format.ofPath p).parse room p.text (Text.unifyLineEnds t) := by
  have hholds : d.holds p = .ok true := by
    rw [Disk.holds, h]
    rfl
  rw [Disk.readDocument, hholds, Disk.readText_of_find? h]
  simp only [Text.Utf8.decode_encode]

/-- The text of a key that is a text is the key itself. -/
lemma nodup_names_of_areTexts {entries : Entries} (hdistinct : Table.HasDistinctKeys entries)
    (htexts : ∀ key ∈ Table.keys entries, ∃ name, key = .string name) : (names entries).Nodup := by
  refine List.pairwise_map.mpr (hdistinct.imp_of_mem fun hk hl hne hsame => ?_)
  obtain ⟨k, rfl⟩ := htexts _ hk
  obtain ⟨l, rfl⟩ := htexts _ hl
  obtain rfl : k = l := hsame
  rw [beq_string_iff.mpr rfl] at hne
  cases hne

/-- A file whose catalog is loaded holds a document without two keys that are the same. The names of
the categories are the texts of its keys, in order and each of them once, and each category is what
the last entry of its name is read as. So nothing of the document is lost exactly if its keys have
different texts: always if all keys are texts, and always in JSON. -/
theorem load_isLossless_iff {room : Room} {p : Path} {d : Disk} {c : TemplateCatalog}
    (h : load room p d = .ok c) :
    ∃ entries, d.readDocument room p = .ok (.map entries) ∧ Table.HasDistinctKeys entries ∧
      Table.keys c = (names entries).eraseDups ∧ (∀ category ∈ c, IsOfLast entries category) ∧
      (IsLossless c entries ↔ (names entries).Nodup) ∧
      ((names entries).Nodup → List.Forall₂ IsReadAs entries c) ∧
      ((∀ key ∈ Table.keys entries, ∃ name, key = .string name) → IsLossless c entries) ∧
      (Format.ofPath p = .json → IsLossless c entries) := by
  obtain ⟨v, hread, hdocument⟩ := bind_eq_ok_iff.mp h
  obtain ⟨entries, categories, rfl, hall, rfl⟩ := exists_of_ofDocument hdocument
  obtain ⟨hdistinct, hjson⟩ := keys_of_readDocument hread
  have hiff := isLossless_ofPairs_iff hall
  have htexts : (∀ key ∈ Table.keys entries, ∃ name, key = .string name) →
      IsLossless (Table.ofPairs categories) entries :=
    fun htexts => hiff.mpr (nodup_names_of_areTexts hdistinct htexts)
  refine ⟨entries, hread, hdistinct, ?_, fun _ => isOfLast_of_mem hall, hiff, fun hnodup => ?_,
    htexts, fun hformat => htexts (hjson hformat)⟩
  · rw [Table.keys_ofPairs, keys_eq_names hall]
  · rwa [Table.ofPairs_eq_self (keys_eq_names hall ▸ hnodup)]

/-- Two categories in JSON, the first of them with a template. -/
theorem load_isLossless_iff_of_json :
    let t := "\x7b\"a\": [\x7b\"name\": \"n\"\x7d], \"b\": []\x7d".toList
    let d : Disk := ⟨[(["t.json"], .file (Text.Utf8.encode t))]⟩
    let c : TemplateCatalog := [("a", [⟨"n", "", "", []⟩]), ("b", [])]
    load .usual ["t.json"] d = .ok c ∧
      ∃ entries, d.readDocument .usual ["t.json"] = .ok (.map entries) ∧ IsLossless c entries := by
  have hread : Json.readWithin (.all Room.usual.json)
      "\x7b\"a\": [\x7b\"name\": \"n\"\x7d], \"b\": []\x7d".toList =
        .ok (.record [("a", .list [.record [("name", .string "n")]]), ("b", .list [])]) := by
    decide +kernel
  intro t d c
  have hjson : Format.ofPath ["t.json"] = .json := by decide +kernel
  have hunified : Text.unifyLineEnds t = t := by decide +kernel
  have hload : load .usual ["t.json"] d = .ok c := by
    rw [load, readDocument_of_encode rfl, hjson, hunified, Format.parse, hread]
    rfl
  obtain ⟨entries, hread, -, -, -, -, -, -, hlossless⟩ := load_isLossless_iff hload
  exact ⟨hload, entries, hread, hlossless hjson⟩

/-- A number as a key and the text of its digits as another one: the template of the first is
lost. -/
theorem not_load_isLossless :
    let t := "1: [\x7b'name': 'a'\x7d]\n'1': []".toList
    let d : Disk := ⟨[(["t.yaml"], .file (Text.Utf8.encode t))]⟩
    let entries : Entries :=
      [(.int 1, .list [.record [("name", .string "a")]]), (.string "1", .list [])]
    d.readDocument .usual ["t.yaml"] = .ok (.map entries) ∧
      load .usual ["t.yaml"] d = .ok [("1", [])] ∧ ¬IsLossless [("1", [])] entries := by
  have hparse : Yaml.read Room.usual.yaml Room.usual.chain
      "1: [\x7b'name': 'a'\x7d]\n'1': []".toList =
      .ok (.map [(.int 1, .list [.record [("name", .string "a")]]), (.string "1", .list [])]) := by
    decide +kernel
  intro t d entries
  have hyaml : Format.ofPath ["t.yaml"] = .yaml := by decide +kernel
  have hunified : Text.unifyLineEnds t = t := by decide +kernel
  have hread : d.readDocument .usual ["t.yaml"] = .ok (.map entries) := by
    rw [readDocument_of_encode rfl, hyaml, hunified, Format.parse, hparse]
  have hdigits : Text.decimal 1 = .ok "1" := decimal_eq_ok_iff.mpr ⟨by decide +kernel, rfl⟩
  have hload : load .usual ["t.yaml"] d = .ok [("1", [])] := by
    rw [load, hread, Except.bind, ofDocument, addCategories, readCategory, checkCategory, hdigits]
    rfl
  exact ⟨hread, hload, fun hlossless => absurd hlossless.categories (by decide)⟩

end TemplateCatalog

end Scaffold
