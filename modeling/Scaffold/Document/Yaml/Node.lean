import Scaffold.Document.Yaml.Token

/-!
# Nodes of YAML

The tree that a row of tokens stands for, before aliases are followed and before scalars have a
meaning. A row that breaks off is read as far as it goes, and what is wrong before its end counts
more than why it breaks off. The functions that read the tree are bounded in depth; the bound is a
multiple of the number of tokens, because at most three calls in a row pass without one being taken.
-/

namespace Scaffold.Document.Yaml

/-- What may stand before the content of a node. -/
structure Properties where
  anchor : Option String
  tag : Option String
  deriving DecidableEq, Repr

/-- No properties. -/
def Properties.none : Properties := ⟨.none, .none⟩

/-- A node of the tree. -/
inductive Node
  | alias (name : String)
  | scalar (p : Properties) (text : String) (isPlain : Bool)
  | sequence (p : Properties) (items : List Node)
  | mapping (p : Properties) (pairs : List (Node × Node))
  deriving Repr

namespace Node

/-- A node that is not written. -/
def empty : Node := .scalar .none "" true

/-- The handles of tags and what they stand for. -/
abbrev Handles : Type := List (String × String)

/-- The handles that every document has. -/
def standardHandles : Handles := [("!", "!"), ("!!", "tag:yaml.org,2002:")]

/-- The tag that a handle and a suffix stand for. -/
def fullTag? (handles : Handles) (handle : Option String) (suffix : String) : Option String :=
  match handle with
  | none => some suffix
  | some h => (handles.lookup h).map (· ++ suffix)

/-- What the reading of a row of tokens depends on: the handles of tags, why the row breaks off, if it
does, and how many lists and maps may still be opened inside of one another. -/
structure Source where
  handles : Handles
  refusal : Option Refusal
  room : Nat

/-- The refusal of a row that does not go on as it has to. -/
def Source.refuse (x : Source) : List Token → Refusal
  | [] => x.refusal.getD .malformed
  | _ => .malformed

/-- Refuses a row that has broken off. -/
def Source.check (x : Source) (ts : List Token) : Except Refusal Unit :=
  match ts, x.refusal with
  | [], some r => .error r
  | _, _ => .ok ()

/-- The reading inside of a list or map that is opened. -/
def Source.enter (x : Source) : Except Refusal Source :=
  match x.room with
  | 0 => .error .tooDeep
  | room + 1 => .ok { x with room }

/-- The tag at the start of a row of tokens, if there is one, before its handle is looked up. -/
def tagFirst : List Token → Option (Option String × String) × List Token
  | .tag handle suffix :: ts => (some (handle, suffix), ts)
  | ts => (none, ts)

/-- The anchor at the start of a row of tokens, if there is one. -/
def anchorFirst : List Token → Option String × List Token
  | .anchor name :: ts => (some name, ts)
  | ts => (none, ts)

/-- The properties of an anchor and a tag. A tag whose handle is unknown is refused. -/
def Source.properties (x : Source) (anchor : Option String)
    (tag : Option (Option String × String)) : Except Refusal Properties :=
  match tag with
  | none => .ok ⟨anchor, none⟩
  | some (handle, suffix) => do
    let full ← orMalformed (fullTag? x.handles handle suffix)
    .ok ⟨anchor, some full⟩

/-- The properties at the start of a row of tokens: an anchor and a tag in any order. -/
def Source.propertiesFirst (x : Source) (ts : List Token) :
    Except Refusal (Properties × List Token) := do
  match anchorFirst ts with
  | (some name, ts) =>
    let (tag, ts) := tagFirst ts
    .ok (← x.properties (some name) tag, ts)
  | (none, ts) =>
    match tagFirst ts with
    | (none, ts) => .ok (.none, ts)
    | (tag, ts) =>
      x.check ts
      let (anchor, ts) := anchorFirst ts
      .ok (← x.properties anchor tag, ts)

/-- What can hold nodes, each with its own tokens around them. -/
inductive Place
  | blockItem
  | looseItem
  | blockPart
  | flowItem
  | flowPart
  deriving DecidableEq

/-- Whether a token shows that nothing is written at a place. -/
def Place.isEndedBy : Place → Token → Bool
  | .blockItem, t => t = .blockEntry || t = .blockEnd
  | .looseItem, t => t = .blockEntry || t = .key || t = .value || t = .blockEnd
  | .blockPart, t => t = .key || t = .value || t = .blockEnd
  | .flowItem, t => t = .value || t = .flowEntry || t = .flowSequenceEnd
  | .flowPart, t => t = .value || t = .flowEntry || t = .flowMappingEnd

/-- Whether blocks can begin at a place. -/
def Place.isBlock (p : Place) : Bool := p = .blockItem || p = .looseItem || p = .blockPart

/-- The tokens after the comma that has to stand before every item but the first. -/
def Source.afterComma (x : Source) (isFirst : Bool) (ts : List Token) :
    Except Refusal (List Token) :=
  if isFirst then .ok ts
  else
    match ts with
    | .flowEntry :: ts => .ok ts
    | ts => .error (x.refuse ts)

mutual

/-- The node at the start of a row of tokens. -/
def read (bound : Nat) (x : Source) (place : Place) (ts : List Token) :
    Except Refusal (Node × List Token) :=
  match bound with
  | 0 => .error .malformed
  | bound + 1 =>
    match ts with
    | .alias name :: ts => .ok (.alias name, ts)
    | ts => do
      let (p, ts) ← x.propertiesFirst ts
      x.check ts
      match ts with
      | .scalar text isPlain :: ts => .ok (.scalar p text isPlain, ts)
      | .flowSequenceStart :: ts => do
        let (items, ts) ← flowItems bound (← x.enter) true ts
        .ok (.sequence p items, ts)
      | .flowMappingStart :: ts => do
        let (pairs, ts) ← flowPairs bound (← x.enter) true ts
        .ok (.mapping p pairs, ts)
      | ts =>
        match place.isBlock, ts with
        | true, .blockSequenceStart :: ts => do
          let (items, ts) ← blockItems bound (← x.enter) ts
          .ok (.sequence p items, ts)
        | true, .blockMappingStart :: ts => do
          let (pairs, ts) ← blockPairs bound (← x.enter) ts
          .ok (.mapping p pairs, ts)
        | _, ts =>
          if place = .blockPart && ts.head? = some .blockEntry then do
            let (items, ts) ← looseItems bound (← x.enter) ts
            .ok (.sequence p items, ts)
          else if p = .none then .error .malformed
          else .ok (.scalar p "" true, ts)

/-- The node at a place, at which nothing may be written. -/
def readOrEmpty (bound : Nat) (x : Source) (place : Place) (ts : List Token) :
    Except Refusal (Node × List Token) :=
  match bound with
  | 0 => .error .malformed
  | bound + 1 =>
    if ts.head?.any place.isEndedBy then .ok (empty, ts) else read bound x place ts

/-- The node after a colon, or none if there is no colon. -/
def readValue (bound : Nat) (x : Source) (place : Place) (ts : List Token) :
    Except Refusal (Node × List Token) :=
  match bound with
  | 0 => .error .malformed
  | bound + 1 =>
    match ts with
    | .value :: ts => readOrEmpty bound x place ts
    | ts => .ok (empty, ts)

/-- The items of a block, up to its end. -/
def blockItems (bound : Nat) (x : Source) (ts : List Token) :
    Except Refusal (List Node × List Token) :=
  match bound with
  | 0 => .error .malformed
  | bound + 1 =>
    match ts with
    | .blockEntry :: ts => do
      let (item, ts) ← readOrEmpty bound x .blockItem ts
      let (later, ts) ← blockItems bound x ts
      .ok (item :: later, ts)
    | .blockEnd :: ts => .ok ([], ts)
    | ts => .error (x.refuse ts)

/-- The items of a list that stands in a map without being indented. -/
def looseItems (bound : Nat) (x : Source) (ts : List Token) :
    Except Refusal (List Node × List Token) :=
  match bound with
  | 0 => .error .malformed
  | bound + 1 =>
    match ts with
    | .blockEntry :: ts => do
      let (item, ts) ← readOrEmpty bound x .looseItem ts
      let (later, ts) ← looseItems bound x ts
      .ok (item :: later, ts)
    | ts => .ok ([], ts)

/-- The entries of a block, up to its end. -/
def blockPairs (bound : Nat) (x : Source) (ts : List Token) :
    Except Refusal (List (Node × Node) × List Token) :=
  match bound with
  | 0 => .error .malformed
  | bound + 1 =>
    match ts with
    | .key :: ts => do
      let (k, ts) ← readOrEmpty bound x .blockPart ts
      let (v, ts) ← readValue bound x .blockPart ts
      let (later, ts) ← blockPairs bound x ts
      .ok ((k, v) :: later, ts)
    | .blockEnd :: ts => .ok ([], ts)
    | ts => .error (x.refuse ts)

/-- The items between brackets, up to the closing one. A pair alone is a map of one entry. -/
def flowItems (bound : Nat) (x : Source) (isFirst : Bool) (ts : List Token) :
    Except Refusal (List Node × List Token) :=
  match bound with
  | 0 => .error .malformed
  | bound + 1 =>
    match ts with
    | .flowSequenceEnd :: ts => .ok ([], ts)
    | ts => do
      let ts ← x.afterComma isFirst ts
      match ts with
      | .flowSequenceEnd :: ts => .ok ([], ts)
      | .key :: ts => do
        let inner ← x.enter
        let (k, ts) ← readOrEmpty bound inner .flowItem ts
        let (v, ts) ← readValue bound inner .flowItem ts
        let (later, ts) ← flowItems bound x false ts
        .ok (.mapping .none [(k, v)] :: later, ts)
      | ts => do
        let (item, ts) ← read bound x .flowItem ts
        let (later, ts) ← flowItems bound x false ts
        .ok (item :: later, ts)

/-- The entries between braces, up to the closing one. -/
def flowPairs (bound : Nat) (x : Source) (isFirst : Bool) (ts : List Token) :
    Except Refusal (List (Node × Node) × List Token) :=
  match bound with
  | 0 => .error .malformed
  | bound + 1 =>
    match ts with
    | .flowMappingEnd :: ts => .ok ([], ts)
    | ts => do
      let ts ← x.afterComma isFirst ts
      match ts with
      | .flowMappingEnd :: ts => .ok ([], ts)
      | .key :: ts => do
        let (k, ts) ← readOrEmpty bound x .flowPart ts
        let (v, ts) ← readValue bound x .flowPart ts
        let (later, ts) ← flowPairs bound x false ts
        .ok ((k, v) :: later, ts)
      | ts => do
        let (k, ts) ← read bound x .flowPart ts
        let (later, ts) ← flowPairs bound x false ts
        .ok ((k, empty) :: later, ts)

end

/-! ## Documents -/

/-- What the directives before a document say: the version, if one is given, and the handles. -/
structure Directives where
  version : Option Nat
  handles : Handles

/-- The directives before a document, each given once. -/
def directives (d : Directives) : List Token → Except Refusal (Directives × List Token)
  | .version major :: ts =>
    if d.version.isSome || major ≠ 1 then .error .malformed
    else directives { d with version := some major } ts
  | .handle name uri :: ts =>
    if (d.handles.lookup name).isSome then .error .malformed
    else directives { d with handles := (name, uri) :: d.handles } ts
  | .unknownDirective :: ts => directives d ts
  | ts => .ok (d, ts)

/-- Whether no node follows the start of a document. -/
def endsDocument : Option Token → Bool
  | none => true
  | some t =>
    match t with
    | .version _ | .handle .. | .unknownDirective | .documentStart | .documentEnd => true
    | _ => false

/-- Checks that nothing follows the end of the only document. -/
def checkEnd (refusal : Option Refusal) (ts : List Token) : Except Refusal Unit := do
  match ts.dropWhile (· = .documentEnd) with
  | [] =>
    match refusal with
    | some r => .error r
    | none => .ok ()
  | ts =>
    let (_, ts) ← directives ⟨none, []⟩ ts
    .error (Source.refuse ⟨[], refusal, 0⟩ ts)

/-- The only document of a row of tokens: no node at all if there is none. There is room for so many
lists and maps inside of one another. -/
def documentOf (room : Nat) (row : Row) : Except Refusal (Option Node) := do
  let bound := 3 * row.tokens.length + 3
  let whole (handles : Handles) (ts : List Token) : Except Refusal (Option Node) := do
    let (node, ts) ← read bound ⟨handles, row.refusal, room⟩ .blockItem ts
    checkEnd row.refusal ts
    .ok (some node)
  let ts := row.tokens
  if !endsDocument ts.head? then whole standardHandles ts
  else
    match ts, row.refusal with
    | [], none => .ok none
    | [], some r => .error r
    | .documentEnd :: _, _ => .error .malformed
    | ts, refusal => do
      let (d, ts) ← directives ⟨none, []⟩ ts
      match ts with
      | .documentStart :: ts =>
        Source.check ⟨[], refusal, room⟩ ts
        if endsDocument ts.head? then do
          checkEnd refusal ts
          .ok (some empty)
        else whole (d.handles ++ standardHandles) ts
      | ts => .error (Source.refuse ⟨[], refusal, room⟩ ts)

/-- The tokens of a row before the first alias that has no anchor before it, or the first anchor that
is given twice, if there is one. `names` are the anchors before the row. An anchor counts once the
token after it is known. -/
def beforeMisnomer? (refusal : Option Refusal) (names : List String) :
    List Token → Option (List Token)
  | [] => none
  | .alias name :: ts =>
    if names.contains name then (beforeMisnomer? refusal names ts).map (.alias name :: ·)
    else some []
  | .anchor name :: ts =>
    let isKnown := !(tagFirst ts).2.isEmpty || refusal.isNone
    if isKnown && names.contains name then some []
    else (beforeMisnomer? refusal (name :: names) ts).map (.anchor name :: ·)
  | t :: ts => (beforeMisnomer? refusal names ts).map (t :: ·)

/-- The only document of a row of tokens, which breaks off where an alias or anchor is no good. -/
def document (room : Nat) (row : Row) : Except Refusal (Option Node) :=
  match beforeMisnomer? row.refusal [] row.tokens with
  | some ts => documentOf room ⟨ts, some .malformed⟩
  | none => documentOf room row

end Node

end Scaffold.Document.Yaml
