import Scaffold.Document.Yaml.Node
import Scaffold.Document.Yaml.Scalar

/-!
# The graph of a YAML document

The nodes of a document by number, with aliases followed: an alias is the node that its anchor is
on, even if it stands inside that node. Every node is taken for a value of some kind, by its tag or
by its form. Merging puts the entries of other maps in front of the own entries of a map. It is done
once for each map and changes the map in place, so that whoever shares the map sees it merged.

Maps can stand for one another in a chain: one is merged into the next one, or stands for it as a
whole. How long such a chain may be is a matter of the room on the stack.
-/

namespace Scaffold.Document.Yaml

/-- What a node of a graph holds. Its parts are nodes, given by their numbers. -/
inductive Content
  | scalar (text : String)
  | sequence (items : List Nat)
  | mapping (pairs : List (Nat × Nat))
  deriving DecidableEq, Repr

/-- A node of a graph. -/
structure Vertex where
  kind : Kind
  content : Content
  deriving DecidableEq, Repr

/-- The nodes of a document, in the order in which they begin. -/
abbrev Graph : Type := Array Vertex

/-- The kind that a tag gives to a node. Without a tag that says more than that the node is not
plain, the node has the given kind. -/
def kindOf (tag : Option String) (untagged : Kind) : Kind :=
  match tag with
  | none => untagged
  | some "!" => untagged
  | some t => Kind.ofTag t

/-- The kind of a text. The tag that says nothing makes it a plain one. -/
def textKind (tag : Option String) (text : String) (isPlain : Bool) : Kind :=
  kindOf tag (if isPlain || tag.isSome then .ofForm text else .str)

namespace Graph

/-! ## From the tree -/

/-- The nodes of the anchors so far, the latest first. -/
abbrev Anchors : Type := List (String × Nat)

/-- The anchors with that of a node whose number is given. -/
def nameNode (anchors : Anchors) (p : Properties) (n : Nat) : Anchors :=
  (p.anchor.map (·, n)).toList ++ anchors

/-- The graph with the content of a node put in. -/
def fill (g : Graph) (n : Nat) (content : Content) : Graph :=
  g.modify n fun v => { v with content }

mutual

/-- Adds the nodes of a tree to a graph. The answer is the number of the topmost one, with the
anchors and the graph after it. -/
def add? (anchors : Anchors) (g : Graph) : Node → Option (Nat × Anchors × Graph)
  | .alias name => (anchors.lookup name).map (·, anchors, g)
  | .scalar p text isPlain =>
    some (g.size, nameNode anchors p g.size, g.push ⟨textKind p.tag text isPlain, .scalar text⟩)
  | .sequence p items => do
    let n := g.size
    let opened := g.push ⟨kindOf p.tag .list, .sequence []⟩
    let (ns, anchors, g) ← addItems? (nameNode anchors p n) opened items
    some (n, anchors, fill g n (.sequence ns))
  | .mapping p pairs => do
    let n := g.size
    let opened := g.push ⟨kindOf p.tag .map, .mapping []⟩
    let (ns, anchors, g) ← addPairs? (nameNode anchors p n) opened pairs
    some (n, anchors, fill g n (.mapping ns))

/-- Adds the items of a list. -/
def addItems? (anchors : Anchors) (g : Graph) : List Node → Option (List Nat × Anchors × Graph)
  | [] => some ([], anchors, g)
  | x :: rest => do
    let (n, anchors, g) ← add? anchors g x
    let (ns, anchors, g) ← addItems? anchors g rest
    some (n :: ns, anchors, g)

/-- Adds the entries of a map. -/
def addPairs? (anchors : Anchors) (g : Graph) :
    List (Node × Node) → Option (List (Nat × Nat) × Anchors × Graph)
  | [] => some ([], anchors, g)
  | (k, x) :: rest => do
    let (m, anchors, g) ← add? anchors g k
    let (n, anchors, g) ← add? anchors g x
    let (ns, anchors, g) ← addPairs? anchors g rest
    some ((m, n) :: ns, anchors, g)

end

/-- The graph of a tree, whose topmost node is the first one of the graph. -/
def ofNode? (node : Node) : Option Graph := (add? [] #[] node).map fun x => x.2.2

/-! ## Scalars -/

/-- Whether a node is of a kind. -/
def isOf (g : Graph) (n : Nat) (kind : Kind) : Bool := g[n]?.any fun v => v.kind = kind

/-- The text of a node that is taken for a scalar: its own, or if it is a map, the text of what
stands under the sign for the map as a whole. There is room for a chain of so many maps. -/
def text (room : Nat) (g : Graph) (n : Nat) : Except Refusal String :=
  match g[n]?.map Vertex.content with
  | some (.scalar text) => .ok text
  | some (.mapping pairs) =>
    match pairs.find? fun pair => g.isOf pair.1 .whole with
    | none => .error .malformed
    | some (_, x) =>
      match room with
      | 0 => .error .tooDeep
      | room + 1 => text room g x
  | _ => .error .malformed

/-- Whether a node is a map. -/
def isMapping (g : Graph) (n : Nat) : Bool :=
  match g[n]?.map Vertex.content with
  | some (.mapping _) => true
  | _ => false

/-- The scalar that a node stands for when it is taken for a kind. A map stands for no day. -/
def scalar (room : Nat) (g : Graph) (n : Nat) (kind : Kind) : Except Refusal Scalar :=
  if kind = .merge ∨ kind = .whole ∨ kind = .unknown then .error .malformed
  else do
    let text ← g.text room n
    if kind = .time && g.isMapping n then .error (.fault .timeOfMap) else kind.read text

/-! ## Merging -/

/-- The entries of a node that is a map, and none of any other node. -/
def pairs (g : Graph) (n : Nat) : List (Nat × Nat) :=
  match g[n]?.map Vertex.content with
  | some (.mapping pairs) => pairs
  | _ => []

/-- Whether an entry is one that merges. -/
def isMerging (g : Graph) (pair : Nat × Nat) : Bool := g.isOf pair.1 .merge

/-- The sign for the value of a map as a whole is a text where it is a key. -/
def spellWhole (g : Graph) (pair : Nat × Nat) : Graph :=
  g.modify pair.1 fun v => if v.kind = .whole then { v with kind := .str } else v

/-- The number of entries that merge. -/
def mergeCount (g : Graph) : Nat :=
  g.foldl
    (fun count v =>
      match v.content with
      | .mapping pairs => count + pairs.countP g.isMerging
      | _ => count)
    0

/-- Merges the maps of a list one by one by `merge`. The answer is the entries that each of them has
then. -/
def mergeEach (merge : Graph → Nat → Except Refusal Graph) (g : Graph) :
    List Nat → Except Refusal (List (List (Nat × Nat)) × Graph)
  | [] => .ok ([], g)
  | n :: rest =>
    if g.isMapping n then do
      let g ← merge g n
      let (parts, later) ← mergeEach merge g rest
      .ok (g.pairs n :: parts, later)
    else .error .malformed

/-- Merges into a map what its entries from a position on say. `merged` is what has been merged
before, `bound` bounds the entries that merge, and there is room for a chain of so many maps that
are merged each into the one before. -/
def mergeFrom (bound room : Nat) (g : Graph) (n position : Nat) (merged : List (Nat × Nat)) :
    Except Refusal Graph :=
  let own := g.pairs n
  match bound, (own.drop position).findIdx? g.isMerging with
  | bound + 1, some distance => do
    let merge (g : Graph) (n : Nat) : Except Refusal Graph :=
      match room with
      | 0 => .error .tooDeep
      | room + 1 => mergeFrom bound room g n 0 []
    let position := position + distance
    let source := ((own[position]?).map Prod.snd).getD n
    let g := fill g n (.mapping (own.eraseIdx position))
    match g[source]?.map Vertex.content with
    | some (.mapping _) =>
      let g ← merge g source
      mergeFrom bound room g n position (merged ++ g.pairs source)
    | some (.sequence items) =>
      let (parts, g) ← mergeEach merge g items
      mergeFrom bound room g n position (merged ++ parts.reverse.flatten)
    | _ => .error .malformed
  | _, _ => .ok (own.foldl spellWhole (fill g n (.mapping (merged ++ own))))

/-- Merges into a map what its entries say, unless one of them merges what is no map. -/
def merge (room : Nat) (g : Graph) (n : Nat) : Except Refusal Graph :=
  mergeFrom (g.mergeCount + 1) room g n 0 []

end Graph

end Scaffold.Document.Yaml
