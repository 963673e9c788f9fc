import Scaffold.Catalog.Source
import Scaffold.Proofs.ErrorLists
import Scaffold.Proofs.FieldReading

/-!
# The keys of a document

A document that is read from a file is a map without two keys that are the same, or it is no map. If
it is read from JSON, its keys are texts. Both hold of every unfinished map that the readers keep, so
they hold of the document in the end.
-/

namespace Scaffold

open Document Schema

/-! ### JSON -/

namespace Document.Json

/-- A map has texts as keys. -/
def IsKeyed (v : Value) : Prop := ∀ entries, v = .map entries → HasTextKeys entries

/-- An unfinished map has texts as keys. -/
def Frame.IsKeyed : Frame → Prop
  | .list _ => True
  | .map entries _ => HasTextKeys entries

/-- What the machine keeps at a stage has texts as keys. -/
def Stage.IsKeyed : Stage → Prop
  | .name entries => HasTextKeys entries
  | .colon entries _ => HasTextKeys entries
  | .after v => Json.IsKeyed v
  | _ => True

/-- What a move leads to has texts as keys. -/
def Move.IsKeyed : Move → Prop
  | .next stage stack => stage.IsKeyed ∧ ∀ frame ∈ stack, frame.IsKeyed
  | .done v => Json.IsKeyed v

lemma isKeyed_scalar (s : Scalar) : IsKeyed (.scalar s) := fun _ h => by cases h

lemma isKeyed_list (items : List Value) : IsKeyed (.list items) := fun _ h => by cases h

lemma isKeyed_map {entries : Entries} (h : HasTextKeys entries) : IsKeyed (.map entries) :=
  fun _ heq => Value.map.inj heq ▸ h

section Step

variable {bound : Bound} {stack : List Frame} {x : Lexeme} {m : Move}

lemma isKeyed_openContainer {container : Container} (hstack : ∀ frame ∈ stack, frame.IsKeyed)
    (h : openContainer bound stack container = .ok m) : m.IsKeyed := by
  unfold openContainer at h
  cases container
  all_goals
    dsimp only at h
    split at h
    · split at h
      · cases h
      · cases h
        exact ⟨trivial, hstack⟩
    · cases h
      exact ⟨trivial, hstack⟩

lemma isKeyed_startValue (hstack : ∀ frame ∈ stack, frame.IsKeyed)
    (h : startValue bound stack x = .ok m) : m.IsKeyed := by
  unfold startValue at h
  split at h
  · exact isKeyed_openContainer hstack h
  · exact isKeyed_openContainer hstack h
  · cases h
    exact ⟨isKeyed_scalar _, hstack⟩
  · cases h
    exact ⟨isKeyed_scalar _, hstack⟩
  all_goals cases h

lemma isKeyed_startName {entries : Entries} (hentries : HasTextKeys entries)
    (hstack : ∀ frame ∈ stack, frame.IsKeyed) (h : startName entries stack x = .ok m) :
    m.IsKeyed := by
  unfold startName at h
  split at h
  · cases h
    exact ⟨hentries, hstack⟩
  · cases h
  · cases h

lemma isKeyed_endValue {v : Value} (hv : IsKeyed v) (hstack : ∀ frame ∈ stack, frame.IsKeyed)
    (h : endValue v stack x = .ok m) : m.IsKeyed := by
  unfold endValue at h
  split at h
  · split at h
    · cases h
      exact hv
    · cases h
  · next items outer =>
    obtain ⟨-, houter⟩ := List.forall_mem_cons.mp hstack
    split at h
    · cases h
      exact ⟨trivial, List.forall_mem_cons.mpr ⟨trivial, houter⟩⟩
    · cases h
      exact ⟨isKeyed_list _, houter⟩
    · cases h
  · next entries key outer =>
    obtain ⟨hentries, houter⟩ := List.forall_mem_cons.mp hstack
    dsimp only at h
    split at h
    · cases h
      exact ⟨HasTextKeys.insert hentries key v, houter⟩
    · cases h
      exact ⟨isKeyed_map (HasTextKeys.insert hentries key v), houter⟩
    · cases h

lemma isKeyed_startPart {container : Container} {first : Except Refusal Move}
    (hfirst : first = .ok m → m.IsKeyed) (h : startPart bound stack container first = .ok m) :
    m.IsKeyed := by
  unfold startPart at h
  split at h
  · split at h
    · cases h
    · exact hfirst h
  · exact hfirst h

/-- A move keeps the keys of maps texts. -/
lemma isKeyed_move {stage : Stage} (hstage : stage.IsKeyed) (hstack : ∀ frame ∈ stack, frame.IsKeyed)
    (h : move bound stage stack x = .ok m) : m.IsKeyed := by
  cases stage with
  | value => exact isKeyed_startValue hstack h
  | firstItem =>
    rw [move] at h
    split at h
    · cases h
      exact ⟨isKeyed_list _, hstack⟩
    · have hopen : ∀ frame ∈ Frame.list [] :: stack, frame.IsKeyed :=
        List.forall_mem_cons.mpr ⟨trivial, hstack⟩
      exact isKeyed_startPart (isKeyed_startValue hopen) h
  | firstName =>
    rw [move] at h
    split at h
    · cases h
      exact ⟨isKeyed_map .nil, hstack⟩
    · exact isKeyed_startPart (isKeyed_startName .nil hstack) h
  | name entries => exact isKeyed_startName hstage hstack h
  | colon entries key =>
    rw [move] at h
    split at h
    · cases h
      exact ⟨trivial, List.forall_mem_cons.mpr ⟨hstage, hstack⟩⟩
    · cases h
  | after v => exact isKeyed_endValue hstage hstack h

end Step

lemma isKeyed_run {bound : Bound} {stage : Stage} {stack : List Frame} {row : List Lexeme}
    {v : Value} (hstage : stage.IsKeyed) (hstack : ∀ frame ∈ stack, frame.IsKeyed)
    (h : run bound stage stack row = .ok v) : IsKeyed v := by
  induction row generalizing stage stack with
  | nil => cases h
  | cons x rest ih =>
    rw [run] at h
    split at h
    · cases h
    · next v' hmove =>
      cases h
      exact isKeyed_move hstage hstack hmove
    · next stage' stack' hmove =>
      obtain ⟨hstage', hstack'⟩ := isKeyed_move hstage hstack hmove
      exact ih hstage' hstack' h

lemma hasTextKeys_of_readWithin {bound : Bound} {t : List Char} {entries : Entries}
    (h : readWithin bound t = .ok (.map entries)) : HasTextKeys entries := by
  unfold readWithin at h
  split at h
  · cases h
  · have hstage : Stage.IsKeyed .value := trivial
    exact isKeyed_run hstage (by simp) h entries rfl

end Document.Json

/-! ### YAML -/

namespace Document.Yaml

/-- A map has no two keys that are the same. -/
def Shape.IsKeyed : Shape → Prop
  | .map entries => Table.HasDistinctKeys entries
  | _ => True

namespace Work

/-- All shapes so far have keys that differ. -/
def IsKeyed (w : Work) : Prop := ∀ known ∈ w.shapes, ∀ shape ∈ known, shape.IsKeyed

section Step

variable {w w' : Work} {n : Nat}

lemma IsKeyed.put (h : w.IsKeyed) {shape : Shape} (hshape : shape.IsKeyed) :
    (w.put n shape).IsKeyed := by
  intro known hknown
  rcases Array.mem_or_eq_of_mem_setIfInBounds hknown with hold | rfl
  · exact h known hold
  · rintro _ ⟨⟩
    exact hshape

lemma isKeyed_of_shape? {kind : Kind} {shape : Shape} (h : kind.shape? = some shape) :
    shape.IsKeyed := by
  cases kind with
  | map =>
    cases h
    exact List.Pairwise.nil
  | list | pairs | set =>
    cases h
    trivial
  | _ => cases h

lemma IsKeyed.visit (h : w.IsKeyed) (hvisit : w.visit n = .ok w') : w'.IsKeyed := by
  unfold Work.visit at hvisit
  split at hvisit
  · cases hvisit
    exact h
  · split at hvisit
    · cases hvisit
    · next v _ =>
      split at hvisit
      · next shape hshape =>
        cases hvisit
        exact h.put (isKeyed_of_shape? hshape)
      · cases hscalar : w.graph.scalar w.room n v.kind with
        | error refusal =>
          rw [hscalar] at hvisit
          cases hvisit
        | ok s =>
          rw [hscalar] at hvisit
          cases hvisit
          exact h.put trivial

lemma IsKeyed.visitPairs (h : w.IsKeyed) {pairs : List (Nat × Nat)}
    {entries : List (Scalar × Nat)} (hvisit : w.visitPairs pairs = .ok (entries, w')) :
    w'.IsKeyed := by
  induction pairs generalizing w entries w' with
  | nil =>
    cases hvisit
    exact h
  | cons pair rest ih =>
    obtain ⟨k, x⟩ := pair
    simp only [Work.visitPairs, bind_eq_ok_iff] at hvisit
    obtain ⟨w₁, hkey, key, -, w₂, hvalue, ⟨more, w₃⟩, hrest, heq⟩ := hvisit
    cases heq
    exact ih ((h.visit hkey).visit hvalue) hrest

lemma IsKeyed.visitSingles (h : w.IsKeyed) {items : List Nat} {pairs : List (Nat × Nat)}
    (hvisit : w.visitSingles items = .ok (pairs, w')) : w'.IsKeyed := by
  induction items generalizing w pairs w' with
  | nil =>
    cases hvisit
    exact h
  | cons n rest ih =>
    rw [Work.visitSingles] at hvisit
    split at hvisit
    · simp only [bind_eq_ok_iff] at hvisit
      obtain ⟨w₁, hkey, w₂, hvalue, ⟨more, w₃⟩, hrest, heq⟩ := hvisit
      cases heq
      exact ih ((h.visit hkey).visit hvalue) hrest
    · cases hvisit

lemma IsKeyed.entries (h : w.IsKeyed) {entries : Table Scalar Nat}
    (hentries : w.entries n = .ok (entries, w')) :
    w'.IsKeyed ∧ Table.HasDistinctKeys entries := by
  simp only [Work.entries, bind_eq_ok_iff] at hentries
  obtain ⟨graph, -, ⟨pairs, w₁⟩, hpairs, heq⟩ := hentries
  cases heq
  have hgraph : IsKeyed { w with graph } := h
  exact ⟨hgraph.visitPairs hpairs, Table.hasDistinctKeys_ofPairs pairs⟩

lemma IsKeyed.lookInto (h : w.IsKeyed) (hlook : w.lookInto n = .ok w') : w'.IsKeyed := by
  unfold Work.lookInto at hlook
  split at hlook
  · rw [bind_eq_ok_iff] at hlook
    obtain ⟨w₁, hitems, heq⟩ := hlook
    cases heq
    exact (foldlM_keeps (fun _ _ _ => IsKeyed.visit) h hitems).put trivial
  · rw [bind_eq_ok_iff] at hlook
    obtain ⟨⟨entries, w₁⟩, hentries, heq⟩ := hlook
    cases heq
    obtain ⟨hkeyed, hdistinct⟩ := h.entries hentries
    exact hkeyed.put hdistinct
  · rw [bind_eq_ok_iff] at hlook
    obtain ⟨⟨pairs, w₁⟩, hpairs, heq⟩ := hlook
    cases heq
    exact (h.visitSingles hpairs).put trivial
  · rw [bind_eq_ok_iff] at hlook
    obtain ⟨⟨entries, w₁⟩, hentries, heq⟩ := hlook
    cases heq
    exact (h.entries hentries).1.put trivial
  · cases hlook

lemma IsKeyed.finish (h : w.IsKeyed) {bound : Nat} (hfinish : w.finish bound = .ok w') :
    w'.IsKeyed := by
  induction bound, w using Work.finish.induct with
  | case1 bound w hwaiting =>
    simp only [Work.finish, hwaiting, Except.ok.injEq] at hfinish
    exact hfinish ▸ h
  | case2 w hwaiting =>
    simp only [Work.finish, Except.ok.injEq] at hfinish
    exact hfinish ▸ h
  | case3 w bound hwaiting ih =>
    simp only [Work.finish, bind_eq_ok_iff] at hfinish
    obtain ⟨w₁, hlayer, hrest⟩ := hfinish
    have hcleared : IsKeyed { w with waiting := [] } := h
    exact ih w₁ (foldlM_keeps (fun _ _ _ => IsKeyed.lookInto) hcleared hlayer) hrest

end Step

end Work

lemma isKeyed_start (room : Nat) (g : Graph) : (Work.start room g).IsKeyed := by
  intro known hknown shape hshape
  obtain ⟨vertex, -, rfl⟩ := Array.mem_map.mp hknown
  cases hshape

lemma isKeyed_of_shapes {room : Nat} {g : Graph} {all : Array Shape}
    (h : shapes room g = .ok all) :
    ∀ shape ∈ all, shape.IsKeyed := by
  simp only [shapes, bind_eq_ok_iff] at h
  obtain ⟨w, hvisit, w', hfinish, heq⟩ := h
  have hkeyed := ((isKeyed_start room g).visit hvisit).finish hfinish
  cases heq
  intro shape hshape
  obtain ⟨known, hknown, rfl⟩ := Array.mem_map.mp hshape
  cases known with
  | none => trivial
  | some shape => exact hkeyed _ hknown shape rfl

/-- A map that is unfolded has the keys of its shape. -/
lemma hasDistinctKeys_of_unfolded {all : Array Shape} (h : ∀ shape ∈ all, shape.IsKeyed)
    {depth n : Nat} {entries : Entries} (hvalue : (unfolded all depth)[n]? = some (.map entries)) :
    Table.HasDistinctKeys entries := by
  cases depth with
  | zero =>
    rw [unfolded, Array.getElem?_map, Option.map_eq_some_iff] at hvalue
    obtain ⟨shape, -, hnull⟩ := hvalue
    cases hnull
  | succ depth =>
    rw [unfolded, Array.getElem?_map, Option.map_eq_some_iff] at hvalue
    obtain ⟨shape, hshape, hmap⟩ := hvalue
    have hkeyed := h shape (Array.mem_of_getElem? hshape)
    cases shape with
    | scalar s => cases hmap
    | list items => cases hmap
    | pairs entries => cases hmap
    | set items => cases hmap
    | map numbers =>
      obtain rfl := Value.map.inj hmap
      rw [Table.HasDistinctKeys, Table.keys, List.map_map]
      exact hkeyed

lemma hasDistinctKeys_of_read {nesting chain : Nat} {t : List Char} {entries : Entries}
    (h : read nesting chain t = .ok (.map entries)) : Table.HasDistinctKeys entries := by
  rw [read, bind_eq_ok_iff] at h
  obtain ⟨node?, -, h⟩ := h
  cases node? with
  | none => cases h
  | some node =>
    simp only [bind_eq_ok_iff, Graph.value] at h
    obtain ⟨g, -, all, hshapes, heq⟩ := h
    have hvalue : (unfolded all (unfoldingDepth all))[0]?.getD .null = .map entries :=
      Except.ok.inj heq
    rw [Option.getD_eq_iff] at hvalue
    rcases hvalue with hsome | ⟨-, hnull⟩
    · exact hasDistinctKeys_of_unfolded (isKeyed_of_shapes hshapes) hsome
    · cases hnull

end Document.Yaml

/-! ### Files -/

lemma keys_of_parse {room : Room} {source : String} {t : List Char} {f : Format}
    {entries : Entries} (h : f.parse room source t = .ok (.map entries)) :
    Table.HasDistinctKeys entries ∧
      (f = .json → ∀ key ∈ Table.keys entries, ∃ name, key = .string name) := by
  cases f with
  | json =>
    rw [Format.parse] at h
    split at h
    · next v hread =>
      obtain rfl := Except.ok.inj h
      have htexts := Json.hasTextKeys_of_readWithin hread
      exact ⟨htexts.distinct, fun _ => htexts.areTexts⟩
    all_goals cases h
  | yaml =>
    rw [Format.parse] at h
    split at h
    · next v hread =>
      obtain rfl := Except.ok.inj h
      exact ⟨Yaml.hasDistinctKeys_of_read hread, fun hjson => by cases hjson⟩
    all_goals cases h

/-- No two keys of a map that is read from a file are the same, and those of a map that is read from
JSON are texts. -/
lemma keys_of_readDocument {room : Room} {d : Disk} {p : Path} {entries : Entries}
    (h : d.readDocument room p = .ok (.map entries)) :
    Table.HasDistinctKeys entries ∧
      (Format.ofPath p = .json → ∀ key ∈ Table.keys entries, ∃ name, key = .string name) := by
  unfold Disk.readDocument at h
  split at h
  · cases h
  · cases h
  · split at h
    · cases h
    · cases h
    · exact keys_of_parse h

end Scaffold
