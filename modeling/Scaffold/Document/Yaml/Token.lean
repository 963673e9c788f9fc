import Scaffold.Document.Yaml.Text
import Scaffold.Text.Utf8

/-!
# Tokens of YAML

The row of tokens of a text. Blocks are told by columns: a token further to the right than the block
that it is in opens a new block, and one further to the left closes the blocks that it is left of.
That a scalar or a bracket was the key of a map is known only when its colon is reached, so the
scanner remembers where a key may have begun and puts the tokens for the key in there.
-/

namespace Scaffold.Document.Yaml

/-- A token. -/
inductive Token
  | version (major : Nat)
  | handle (name uri : String)
  | unknownDirective
  | documentStart
  | documentEnd
  | blockSequenceStart
  | blockMappingStart
  | blockEnd
  | flowSequenceStart
  | flowSequenceEnd
  | flowMappingStart
  | flowMappingEnd
  | blockEntry
  | flowEntry
  | key
  | value
  | alias (name : String)
  | anchor (name : String)
  | tag (handle : Option String) (suffix : String)
  | scalar (text : String) (isPlain : Bool)
  deriving DecidableEq, Repr

/-- A place at which the key of a map may have begun. -/
structure PossibleKey where
  /-- How many tokens come before the key. -/
  position : Nat
  /-- Whether nothing but a key can begin there. -/
  required : Bool
  index : Nat
  line : Nat
  column : Nat
  deriving Repr

/-- The state of the scanner. -/
structure Scanner where
  cursor : Cursor
  /-- The tokens so far, the last one first. -/
  tokens : List Token
  /-- The column of the block that the cursor is in; it is -1 outside of all blocks. -/
  indent : Int
  /-- The columns of the blocks around that one. -/
  outer : List Int
  /-- The possible key on the current level of brackets. -/
  possible : Option PossibleKey
  /-- The possible keys on the levels around the current one. -/
  suspended : List (Option PossibleKey)
  /-- Whether a key may begin at the cursor. -/
  keyAllowed : Bool
  deriving Repr

namespace Scanner

/-- The scanner at the start of a text. -/
def start (t : List Char) : Scanner := ⟨.start t, [], -1, [], none, [], true⟩

/-- Whether the cursor is inside of brackets. -/
def inFlow (s : Scanner) : Bool := !s.suspended.isEmpty

/-- The scanner with a token added. -/
def push (token : Token) (s : Scanner) : Scanner := { s with tokens := token :: s.tokens }

/-- Skips what stands between two tokens: spaces, comments and line ends. -/
def skipGap (bound : Nat) (s : Scanner) : Scanner :=
  match bound with
  | 0 => s
  | bound + 1 =>
    let c := s.cursor.skipWhile (· = ' ')
    let c := if c.here? = some '#' then c.skipWhile fun x => !isBreak x else c
    match c.lineBreak? with
    | some (_, c) => skipGap bound { s with cursor := c, keyAllowed := s.keyAllowed || !s.inFlow }
    | none => { s with cursor := c }

/-- Whether a possible key has turned out to be none: it is too far back, or on another line. -/
def isStale (c : Cursor) (k : PossibleKey) : Bool := k.line ≠ c.line || 1024 < c.index - k.index

/-- The possible key that may still be one; it is refused to give up one that is required. -/
def keep? (c : Cursor) (k : Option PossibleKey) : Option (Option PossibleKey) :=
  match k with
  | none => some none
  | some k =>
    if !isStale c k then some (some k) else if k.required then none else some none

/-- Gives up the possible keys that are stale. -/
def dropStale (s : Scanner) : Option Scanner := do
  let possible ← keep? s.cursor s.possible
  let suspended ← s.suspended.mapM (keep? s.cursor)
  some { s with possible, suspended }

/-- Gives up the possible key on the current level. -/
def dropKey (s : Scanner) : Option Scanner :=
  if s.possible.any PossibleKey.required then none else some { s with possible := none }

/-- Takes the cursor for the place of a possible key, if a key may begin there. -/
def saveKey (s : Scanner) : Option Scanner :=
  if s.keyAllowed then
    s.dropKey.map fun s =>
      let c := s.cursor
      { s with
        possible := some
          { position := s.tokens.length
            required := !s.inFlow && s.indent = c.column
            index := c.index
            line := c.line
            column := c.column } }
  else some s

/-- Closes the blocks to the right of a column. -/
def closeBlocks (column : Int) (s : Scanner) : Scanner :=
  if s.inFlow then s
  else
    let left := s.outer.dropWhile (column < ·)
    if column < s.indent then
      { s with
        indent := left.head?.getD (-1)
        outer := left.tail
        tokens :=
          List.replicate (s.outer.length - left.length + 1) Token.blockEnd ++ s.tokens }
    else s

/-- Opens a block at a column, unless one is open there. The tokens that open it go before the last
`later` ones. -/
def openBlock (token : Token) (column : Nat) (later : Nat) (s : Scanner) : Scanner :=
  if s.indent < column then
    { s with
      indent := column
      outer := s.indent :: s.outer
      tokens := s.tokens.take later ++ token :: s.tokens.drop later }
  else s

/-- Ends all blocks, as the markers of a document do. -/
def endBlocks (s : Scanner) : Option Scanner :=
  (s.closeBlocks (-1)).dropKey.map fun s => { s with keyAllowed := false }

/-- The scanner after so many characters, with a token for them. -/
def emit (token : Token) (length : Nat) (s : Scanner) : Scanner :=
  { s.push token with cursor := s.cursor.skip length }

/-- The scanner after a text. -/
def emitScalar (isPlain : Bool) (x : Scanned) (s : Scanner) : Scanner :=
  { s.push (.scalar (String.ofList x.text) isPlain) with cursor := x.cursor }

/-! ## Names, tags and directives -/

/-- Whether a character may stand in the name of an anchor or of a directive. -/
def isNameChar (c : Char) : Bool :=
  ('0' ≤ c && c ≤ '9') || ('A' ≤ c && c ≤ 'Z') || ('a' ≤ c && c ≤ 'z') || c = '-' || c = '_'

/-- Whether a character may stand in the address of a tag. -/
def isAddressChar (c : Char) : Bool := isNameChar c || c ∈ ";/?:@&=+$,.!~*'()[]%".toList

/-- The bytes that an address written with percent signs stands for. -/
def addressBytes : List Char → Option (List UInt8)
  | [] => some []
  | '%' :: high :: low :: rest => do
    let code ← Text.valueIn? 16 [high, low]
    let later ← addressBytes rest
    some (UInt8.ofNat code :: later)
  | '%' :: _ => none
  | c :: rest => (addressBytes rest).map (Text.Utf8.encode [c] ++ ·)

/-- The address at the cursor. -/
def address? (c : Cursor) : Option (String × Cursor) :=
  let (written, c) := c.take isAddressChar
  match addressBytes written with
  | none => none
  | some bytes =>
    match Text.Utf8.decode bytes with
    | .ok t => if written = [] then none else some (String.ofList t, c)
    | .error _ => none

/-- The handle of a tag at the cursor: one exclamation mark, or two with a name between. -/
def handle? (c : Cursor) : Option (String × Cursor) :=
  if c.here? ≠ some '!' then none
  else
    let (name, after) := c.advance.take isNameChar
    if after.here? = some '!' then
      some (String.ofList ('!' :: name ++ ['!']), after.advance)
    else if name = [] && c.ahead? 1 = some ' ' then some ("!", c.advance)
    else none

/-- Whether a space, the end of a line or the end of the text is at the cursor. -/
def atSpace (c : Cursor) : Bool := c.here?.all fun x => x = ' ' || isBreak x

/-- The tag at the cursor. -/
def tag? (c : Cursor) : Option (Token × Cursor) :=
  let ended (token : Token) (c : Cursor) : Option (Token × Cursor) :=
    if atSpace c then some (token, c) else none
  match c.ahead? 1 with
  | some '<' => do
    let (suffix, c) ← address? (c.skip 2)
    if c.here? = some '>' then ended (.tag none suffix) c.advance else none
  | next =>
    if next.all isGap then ended (.tag none "!") c.advance
    else
      let word := c.advance.rest.takeWhile fun x => !(x = ' ' || isBreak x)
      if word.contains '!' then do
        let (handle, c) ← handle? c
        let (suffix, c) ← address? c
        ended (.tag (some handle) suffix) c
      else do
        let (suffix, c) ← address? c.advance
        ended (.tag (some "!") suffix) c

/-- The name of an anchor or alias, whose sign is at the cursor. -/
def anchorName? (c : Cursor) : Option (String × Cursor) :=
  let (name, c) := c.advance.take isNameChar
  if name = [] then none
  else if c.here?.all fun x => isGap x || x ∈ "?:,]\x7d%@`".toList then some (String.ofList name, c)
  else none

/-- The number at the cursor. There is a limit to its digits. -/
def number (c : Cursor) : Except Refusal (Nat × Cursor) :=
  let (digits, c) := c.take fun x => '0' ≤ x && x ≤ '9'
  if digits = [] then .error .malformed
  else if Text.maxDigits < digits.length then .error (.fault (.integerTooLong digits.length))
  else .ok (Text.valueIn 10 digits, c)

/-- What a directive says about the version, from the cursor on. -/
def version (c : Cursor) : Except Refusal (Token × Cursor) := do
  let (major, c) ← number (c.skipWhile (· = ' '))
  if c.here? ≠ some '.' then .error .malformed
  else
    let (_, c) ← number c.advance
    if atSpace c then .ok (.version major, c) else .error .malformed

/-- What a directive says about a handle, from the cursor on. -/
def handleMeaning? (c : Cursor) : Option (Token × Cursor) := do
  let (name, c) ← handle? (c.skipWhile (· = ' '))
  if c.here? ≠ some ' ' then none
  else
    let (uri, c) ← address? (c.skipWhile (· = ' '))
    if atSpace c then some (Token.handle name uri, c) else none

/-- The directive whose percent sign is at the cursor, up to the end of its line. -/
def directive (c : Cursor) : Except Refusal (Token × Cursor) := do
  let (name, c) := c.advance.take isNameChar
  if name = [] || !atSpace c then .error .malformed
  else
    let (token, c) ←
      match String.ofList name with
      | "YAML" => version c
      | "TAG" => orMalformed (handleMeaning? c)
      | _ => .ok (.unknownDirective, c.skipWhile fun x => !isBreak x)
    let c ← orMalformed c.restOfLine?
    .ok (token, c)

/-! ## Single steps -/

/-- A bracket that opens a level. -/
def openFlow (token : Token) (s : Scanner) : Option Scanner :=
  s.saveKey.map fun s =>
    { s.emit token 1 with
      possible := none, suspended := s.possible :: s.suspended, keyAllowed := true }

/-- A bracket that closes a level. -/
def closeFlow (token : Token) (s : Scanner) : Option Scanner :=
  s.dropKey.bind fun s =>
    match s.suspended with
    | [] => none
    | possible :: suspended =>
      some { s.emit token 1 with possible, suspended, keyAllowed := false }

/-- The dash before an item of a block. -/
def blockItem (s : Scanner) : Option Scanner :=
  if s.inFlow || s.keyAllowed then
    let s := if s.inFlow then s else s.openBlock .blockSequenceStart s.cursor.column 0
    { s with keyAllowed := true }.dropKey.map (emit .blockEntry 1)
  else none

/-- The question mark before a key. -/
def explicitKey (s : Scanner) : Option Scanner :=
  if s.inFlow || s.keyAllowed then
    let s := if s.inFlow then s else s.openBlock .blockMappingStart s.cursor.column 0
    { s with keyAllowed := !s.inFlow }.dropKey.map (emit .key 1)
  else none

/-- The colon before a value. -/
def mapValue (s : Scanner) : Option Scanner :=
  match s.possible with
  | some k =>
    let later := s.tokens.length - k.position
    let s := { s with
      tokens := s.tokens.take later ++ Token.key :: s.tokens.drop later
      possible := none
      keyAllowed := false }
    let s := if s.inFlow then s else s.openBlock .blockMappingStart k.column (later + 1)
    some (s.emit .value 1)
  | none =>
    if s.inFlow || s.keyAllowed then
      let s := if s.inFlow then s else s.openBlock .blockMappingStart s.cursor.column 0
      { s with keyAllowed := !s.inFlow }.dropKey.map (emit .value 1)
    else none

/-- A name, tag or text that may begin a key. -/
def leaf (s : Scanner) (read : Scanner → Option Scanner) : Option Scanner :=
  s.saveKey.bind fun s => read { s with keyAllowed := false }

/-- The plain text at the cursor. -/
def plain (s : Scanner) : Scanner :=
  let (x, lineEnded) := plainText s.inFlow (s.indent + 1) s.cursor
  { s.emitScalar true x with keyAllowed := lineEnded }

/-- The block of lines at the cursor. -/
def block (isFolded : Bool) (s : Scanner) : Option Scanner :=
  { s with keyAllowed := true }.dropKey.bind fun s =>
    (blockText isFolded s.indent s.cursor).map fun x => s.emitScalar false x

/-- Whether a plain text can begin at the cursor. -/
def startsPlain (s : Scanner) : Bool :=
  s.cursor.here?.any fun c =>
    !(isGap c || c ∈ "-?:,[]\x7b\x7d#&*!|>'\"%@`".toList)
      || (!s.cursor.gapAhead 1 && (c = '-' || (!s.inFlow && (c = '?' || c = ':'))))

/-- Reads the quoted text at the cursor. -/
def quoted (quote : Char) (s : Scanner) : Except Refusal Scanner := do
  let s ← orMalformed s.saveKey
  let x ← quotedText quote s.cursor
  .ok ({ s with keyAllowed := false }.emitScalar false x)

/-- Reads the directive at the cursor. -/
def directed (s : Scanner) : Except Refusal Scanner := do
  let s ← orMalformed s.endBlocks
  let (token, cursor) ← directive s.cursor
  .ok { s.push token with cursor }

/-- Reads the token at the cursor, which is neither at the end of the text nor at a quote or a
directive. -/
def token? (s : Scanner) : Option Scanner :=
  let c := s.cursor
  let atStart := c.column = 0
  let isMarker := atStart && c.atMarker
  match c.here? with
  | none => none
  | some x =>
    if x = '-' && isMarker then s.endBlocks.map (emit .documentStart 3)
    else if x = '.' && isMarker then s.endBlocks.map (emit .documentEnd 3)
    else if x = '[' then s.openFlow .flowSequenceStart
    else if x = '{' then s.openFlow .flowMappingStart
    else if x = ']' then s.closeFlow .flowSequenceEnd
    else if x = '}' then s.closeFlow .flowMappingEnd
    else if x = ',' then { s with keyAllowed := true }.dropKey.map (emit .flowEntry 1)
    else if x = '-' && c.gapAhead 1 then s.blockItem
    else if x = '?' && (s.inFlow || c.gapAhead 1) then s.explicitKey
    else if x = ':' && (s.inFlow || c.gapAhead 1) then s.mapValue
    else if x = '*' then
      s.leaf fun s => (anchorName? c).map fun (n, c) => { s.push (.alias n) with cursor := c }
    else if x = '&' then
      s.leaf fun s => (anchorName? c).map fun (n, c) => { s.push (.anchor n) with cursor := c }
    else if x = '!' then s.leaf fun s => (tag? c).map fun (t, c) => { s.push t with cursor := c }
    else if x = '|' && !s.inFlow then s.block false
    else if x = '>' && !s.inFlow then s.block true
    else if s.startsPlain then s.leaf fun s => some s.plain
    else none

/-- The scanner at the next token, outside of the blocks that end before it. -/
def approach? (s : Scanner) : Option Scanner :=
  (s.skipGap (s.cursor.rest.length + 1)).dropStale.map fun s => s.closeBlocks s.cursor.column

/-- Reads the token at the cursor. -/
def token (s : Scanner) : Except Refusal Scanner :=
  match s.cursor.here? with
  | some '"' => s.quoted '"'
  | some '\'' => s.quoted '\''
  | some '%' => if s.cursor.column = 0 then s.directed else orMalformed s.token?
  | _ => orMalformed s.token?

/-- How many of the tokens so far are beyond doubt: those before the first possible key, in front of
which tokens may still be put in. -/
def settled (s : Scanner) : Nat :=
  let keys := (s.possible :: s.suspended).filterMap id
  let keys := keys.filter fun k => !isStale s.cursor k
  (keys.map PossibleKey.position).foldl min s.tokens.length

end Scanner

/-- A row of tokens, and why it does not go on up to the end of the text, if it does not. -/
structure Row where
  tokens : List Token
  refusal : Option Refusal
  deriving Repr

/-- Reads tokens up to the end of the text, or up to where it cannot be read on. -/
def Scanner.run (bound : Nat) (s : Scanner) : Row :=
  let refused (r : Refusal) : Row := ⟨s.tokens.reverse.take s.settled, some r⟩
  match bound with
  | 0 => refused .malformed
  | bound + 1 =>
    match s.approach? with
    | none => refused .malformed
    | some next =>
      if next.cursor.atEnd then
        match next.endBlocks with
        | some last => ⟨last.tokens.reverse, none⟩
        | none => refused .malformed
      else
        match next.token with
        | .ok s => s.run bound
        | .error r => refused r

/-- Whether a character may stand in a YAML text at all. -/
def isAllowed (c : Char) : Bool :=
  let n := c.toNat
  n = 0x9 || n = 0xA || n = 0xD || (0x20 ≤ n && n ≤ 0x7E) || n = 0x85
    || (0xA0 ≤ n && n ≤ 0xD7FF) || (0xE000 ≤ n && n ≤ 0xFFFD) || 0x10000 ≤ n

/-- The tokens of a text. A byte order mark at its start is passed over. -/
def tokens (t : List Char) : Row :=
  if t.all isAllowed then
    let s := Scanner.start t
    let s := if s.cursor.here? = some '\ufeff' then { s with cursor := s.cursor.advance } else s
    s.run (t.length + 2)
  else ⟨[], some .malformed⟩

end Scaffold.Document.Yaml
