import Scaffold.Document.Value
import Scaffold.Document.Yaml.Graph

/-!
# Reading YAML

The document that a text stands for. The nodes of its graph are given their meaning layer by layer,
from the topmost one down: the parts of a list or map are looked at when all lists and maps of the
layers above have been. Of several nodes that stand for nothing, the first one in this order is the
reason why a text is refused. A text without a document stands for the absent value.

A list or map may be a part of itself. It is unfolded further than any reader of records looks, and
not without end.
-/

namespace Scaffold.Document.Yaml

/-- What a node stands for. Its parts are nodes, given by their numbers. -/
inductive Shape
  | scalar (s : Scalar)
  | list (items : List Nat)
  | map (entries : Table Scalar Nat)
  | pairs (entries : List (Nat × Nat))
  | set (items : List Scalar)

/-- Whether a shape can be the key of a map. -/
def Shape.key? : Shape → Option Scalar
  | .scalar s => some s
  | _ => none

/-- The shape of a node that is taken for something with parts, before these are looked at. -/
def Kind.shape? : Kind → Option Shape
  | .list => some (.list [])
  | .map => some (.map [])
  | .pairs => some (.pairs [])
  | .set => some (.set [])
  | _ => none

/-- The work of giving nodes their meaning: the graph, the shapes of the nodes so far, and the nodes
whose parts have still to be looked at, the last one first. `room` bounds the chains of maps that
stand for one another. -/
structure Work where
  room : Nat
  graph : Graph
  shapes : Array (Option Shape)
  waiting : List Nat

namespace Work

/-- The work on a graph before it begins. -/
def start (room : Nat) (g : Graph) : Work := ⟨room, g, g.map fun _ => none, []⟩

/-- The work with the shape of a node. -/
def put (w : Work) (n : Nat) (shape : Shape) : Work :=
  { w with shapes := w.shapes.setIfInBounds n (some shape) }

/-- The shape of a node, if it has one yet. -/
def shape? (w : Work) (n : Nat) : Option Shape := (w.shapes[n]?).join

/-- Gives a node its shape, unless it has one. What has parts has to wait for them. -/
def visit (w : Work) (n : Nat) : Except Refusal Work :=
  if (w.shape? n).isSome then .ok w
  else
    match w.graph[n]? with
    | none => .error .malformed
    | some v =>
      match v.kind.shape? with
      | some shape => .ok { w.put n shape with waiting := n :: w.waiting }
      | none => (w.graph.scalar w.room n v.kind).map fun s => w.put n (.scalar s)

/-- Visits the keys and values of a map in turn. The answer is its entries. -/
def visitPairs (w : Work) : List (Nat × Nat) → Except Refusal (List (Scalar × Nat) × Work)
  | [] => .ok ([], w)
  | (k, x) :: rest => do
    let w ← w.visit k
    let key ← orMalformed ((w.shape? k).bind Shape.key?)
    let w ← w.visit x
    let (entries, w) ← w.visitPairs rest
    .ok ((key, x) :: entries, w)

/-- The entries of a map, after what has been merged into it. -/
def entries (w : Work) (n : Nat) : Except Refusal (Table Scalar Nat × Work) := do
  let graph ← w.graph.merge w.room n
  let (entries, w) ← { w with graph }.visitPairs (graph.pairs n)
  .ok (Table.ofPairs entries, w)

/-- Visits the only entry of each map of a list. The answer is these entries. -/
def visitSingles (w : Work) : List Nat → Except Refusal (List (Nat × Nat) × Work)
  | [] => .ok ([], w)
  | n :: rest =>
    match w.graph.pairs n with
    | [(k, x)] => do
      let w ← w.visit k
      let w ← w.visit x
      let (pairs, w) ← w.visitSingles rest
      .ok ((k, x) :: pairs, w)
    | _ => .error .malformed

/-- Looks at the parts of a node, which has to hold what it is taken for. -/
def lookInto (w : Work) (n : Nat) : Except Refusal Work :=
  match w.graph[n]? with
  | some ⟨.list, .sequence items⟩ => do
    let w ← items.foldlM visit w
    .ok (w.put n (.list items))
  | some ⟨.map, .mapping _⟩ => do
    let (entries, w) ← w.entries n
    .ok (w.put n (.map entries))
  | some ⟨.pairs, .sequence items⟩ => do
    let (pairs, w) ← w.visitSingles items
    .ok (w.put n (.pairs pairs))
  | some ⟨.set, .mapping _⟩ => do
    let (entries, w) ← w.entries n
    .ok (w.put n (.set (Table.keys entries)))
  | _ => .error .malformed

/-- Looks at one layer after the other. There are no more layers than nodes. -/
def finish (bound : Nat) (w : Work) : Except Refusal Work :=
  match bound, w.waiting with
  | _, [] => .ok w
  | 0, _ => .ok w
  | bound + 1, layer => do
    let w ← layer.reverse.foldlM lookInto { w with waiting := [] }
    w.finish bound

end Work

/-- The shapes of all nodes of a graph. A node that is part of none stands for nothing. -/
def shapes (room : Nat) (g : Graph) : Except Refusal (Array Shape) := do
  let w ← (Work.start room g).visit 0
  let w ← w.finish g.size
  .ok (w.shapes.map fun shape => shape.getD (.scalar .null))

/-- A shape with values for its parts. -/
def Shape.value (values : Array Value) : Shape → Value
  | .scalar s => .scalar s
  | .list items => .list (items.map fun n => values[n]?.getD .null)
  | .map entries => .map (entries.map fun (key, n) => (key, values[n]?.getD .null))
  | .pairs entries =>
    .list (entries.map fun (k, x) => .list [values[k]?.getD .null, values[x]?.getD .null])
  | .set items => .set items

/-- The values of all nodes, unfolded to a depth. -/
def unfolded (shapes : Array Shape) : Nat → Array Value
  | 0 => shapes.map fun _ => .null
  | depth + 1 => shapes.map (Shape.value (unfolded shapes depth))

/-- No reader of records looks further than so deep into a document. -/
def readerDepth : Nat := 16

/-- The depth to which a document is unfolded: no document that is not part of itself is deeper. -/
def unfoldingDepth (shapes : Array Shape) : Nat :=
  shapes.foldl (fun count shape => if shape.key?.isSome then count else count + 1) readerDepth

/-- The value of the topmost node of a graph. -/
def Graph.value (room : Nat) (g : Graph) : Except Refusal Value := do
  let shapes ← shapes room g
  .ok ((unfolded shapes (unfoldingDepth shapes))[0]?.getD .null)

/-- Reads a document. There is room for so many lists and maps inside of one another, and for chains
of so many maps that stand for one another. -/
def read (nesting chain : Nat) (t : List Char) : Except Refusal Value := do
  match ← Node.document nesting (tokens t) with
  | none => .ok .null
  | some node => (← orMalformed (Graph.ofNode? node)).value chain

end Scaffold.Document.Yaml
