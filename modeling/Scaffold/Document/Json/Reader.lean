import Scaffold.Document.Json.Token

/-!
# Reading JSON

The document that a row of tokens stands for, found by a machine that keeps the unfinished lists and
maps on a stack and looks at one token at a time. The machine refuses at the first token that fits
no document, with the reason why it does not fit.
-/

namespace Scaffold.Document.Json

/-- How deeply the lists and maps of a document may be nested: as deeply as they are; those with
parts at most so deep; or all of them at most so deep. -/
inductive Bound
  | free
  | filled (most : Nat)
  | all (most : Nat)
  deriving DecidableEq, Repr

/-- An unfinished list, with its items so far (last first), or an unfinished map, with its entries
so far and the key whose value is awaited. -/
inductive Frame
  | list (items : List Value)
  | map (entries : Entries) (key : String)

/-- What the machine awaits: a value; a first item or the end of a list; a first key or the end of a
map; a further key; the colon after a key; or whatever may follow a value. -/
inductive Stage
  | value
  | firstItem
  | firstName
  | name (entries : Entries)
  | colon (entries : Entries) (key : String)
  | after (v : Value)

/-- What one token leads to: another stage, or the whole document. -/
inductive Move
  | next (stage : Stage) (stack : List Frame)
  | done (v : Value)

/-- The stage inside a list or map that has just been opened within the given stack. -/
def openContainer (bound : Bound) (stack : List Frame) (container : Container) :
    Except Refusal Move :=
  let next : Stage :=
    match container with
    | .list => .firstItem
    | .map => .firstName
  match bound with
  | .all most => if most ≤ stack.length then .error (.tooDeep container) else .ok (.next next stack)
  | _ => .ok (.next next stack)

/-- The move on the first token of a value. -/
def startValue (bound : Bound) (stack : List Frame) (x : Lexeme) : Except Refusal Move :=
  match x.token with
  | .openList => openContainer bound stack .list
  | .openMap => openContainer bound stack .map
  | .text s => .ok (.next (.after (.string s)) stack)
  | .atom s => .ok (.next (.after (.scalar s)) stack)
  | .badText fault position => .error (.malformed fault position)
  | .tooLong digits => .error (.integerTooLong digits)
  | _ => .error (.malformed .expectingValue x.position)

/-- The move on the key of a map. -/
def startName (entries : Entries) (stack : List Frame) (x : Lexeme) : Except Refusal Move :=
  match x.token with
  | .text s => .ok (.next (.colon entries s) stack)
  | .badText fault position => .error (.malformed fault position)
  | _ => .error (.malformed .expectingName x.position)

/-- The move on the token after a value. -/
def endValue (v : Value) (stack : List Frame) (x : Lexeme) : Except Refusal Move :=
  match stack with
  | [] =>
    match x.token with
    | .finish => .ok (.done v)
    | _ => .error (.malformed .extraData x.position)
  | .list items :: outer =>
    match x.token with
    | .comma => .ok (.next .value (.list (v :: items) :: outer))
    | .closeList => .ok (.next (.after (.list (v :: items).reverse)) outer)
    | _ => .error (.malformed .expectingComma x.position)
  | .map entries key :: outer =>
    let entries := Table.insert entries (.string key) v
    match x.token with
    | .comma => .ok (.next (.name entries) outer)
    | .closeMap => .ok (.next (.after (.map entries)) outer)
    | _ => .error (.malformed .expectingComma x.position)

/-- The move on the first part of a list or map within the given stack. -/
def startPart (bound : Bound) (stack : List Frame) (container : Container)
    (first : Except Refusal Move) : Except Refusal Move :=
  match bound with
  | .filled most => if most ≤ stack.length then .error (.tooDeep container) else first
  | _ => first

/-- The move on any token. -/
def move (bound : Bound) (stage : Stage) (stack : List Frame) (x : Lexeme) :
    Except Refusal Move :=
  match stage with
  | .value => startValue bound stack x
  | .firstItem =>
    match x.token with
    | .closeList => .ok (.next (.after (.list [])) stack)
    | _ => startPart bound stack .list (startValue bound (.list [] :: stack) x)
  | .firstName =>
    match x.token with
    | .closeMap => .ok (.next (.after (.map [])) stack)
    | _ => startPart bound stack .map (startName [] stack x)
  | .name entries => startName entries stack x
  | .colon entries key =>
    match x.token with
    | .colon => .ok (.next .value (.map entries key :: stack))
    | _ => .error (.malformed .expectingColon x.position)
  | .after v => endValue v stack x

/-- Runs the machine on a row of tokens. The row of a text always ends in a token that ends the
run. -/
def run (bound : Bound) (stage : Stage) (stack : List Frame) :
    List Lexeme → Except Refusal Value
  | [] => .error (.malformed .expectingValue 0)
  | x :: rest =>
    match move bound stage stack x with
    | .error refusal => .error refusal
    | .ok (.done v) => .ok v
    | .ok (.next stage stack) => run bound stage stack rest

/-- Reads a document whose lists and maps are nested within a bound. -/
def readWithin (bound : Bound) (t : List Char) : Except Refusal Value :=
  match t with
  | '\ufeff' :: _ => .error (.malformed .byteOrderMark 0)
  | _ => run bound .value [] (tokens t)

/-- Reads a document of any depth. -/
def read (t : List Char) : Except Refusal Value := readWithin .free t

/-- A fault in words. -/
def Fault.message : Fault → String
  | .byteOrderMark => "Unexpected UTF-8 BOM (decode using utf-8-sig)"
  | .expectingValue => "Expecting value"
  | .expectingName => "Expecting property name enclosed in double quotes"
  | .expectingColon => "Expecting ':' delimiter"
  | .expectingComma => "Expecting ',' delimiter"
  | .extraData => "Extra data"
  | .unterminatedText => "Unterminated string starting at"
  | .controlCharacter => "Invalid control character at"
  | .badEscape => "Invalid \\escape"
  | .badCodeEscape => "Invalid \\uXXXX escape"
  | .loneSurrogate => "Lone surrogate at"

/-- A place in a text as line and column, both counted from one. -/
def lineAndColumn (t : List Char) (position : Nat) : Nat × Nat :=
  let before := t.take position
  (before.count '\n' + 1, (before.reverse.takeWhile (· ≠ '\n')).length + 1)

/-- A fault and its place in words. -/
def faultAt (fault : Fault) (position line column : Nat) : String :=
  fault.message ++ ": line " ++ toString line ++ " column " ++ toString column
    ++ " (char " ++ toString position ++ ")"

end Scaffold.Document.Json
