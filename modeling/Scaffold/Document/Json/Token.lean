import Scaffold.Document.Value
import Scaffold.Text.Integer

/-!
# The tokens of JSON

A JSON text as a row of tokens, each with its place. The row ends with `finish`, or with a token
that no document can hold, because what follows such a token is never looked at. Beyond the
standard, the three words `NaN`, `Infinity` and `-Infinity` are numbers.
-/

namespace Scaffold.Document.Json

open Scaffold.Number

/-- What is wrong with a text that is not a document. -/
inductive Fault
  | byteOrderMark
  | expectingValue
  | expectingName
  | expectingColon
  | expectingComma
  | extraData
  | unterminatedText
  | controlCharacter
  | badEscape
  | badCodeEscape
  | loneSurrogate
  deriving DecidableEq, Repr

/-- What holds other values. -/
inductive Container
  | list
  | map
  deriving DecidableEq, Repr

/-- Why a text is refused: it is malformed at a place, or it holds an integer of too many digits, or
a list or map that is nested too deeply. -/
inductive Refusal
  | malformed (fault : Fault) (position : Nat)
  | integerTooLong (digits : Nat)
  | tooDeep (container : Container)
  deriving DecidableEq, Repr

/-- A token. `badText` is a quoted text that is malformed, `tooLong` an integer of too many digits,
and `unknown` a character that starts no token. -/
inductive Token
  | openList
  | closeList
  | openMap
  | closeMap
  | colon
  | comma
  | text (s : String)
  | atom (s : Scalar)
  | badText (fault : Fault) (position : Nat)
  | tooLong (digits : Nat)
  | unknown
  | finish

/-- A token and the place where it starts. -/
structure Lexeme where
  position : Nat
  token : Token

/-- Whether a character may stand between tokens. -/
def isSpace (c : Char) : Bool := c = ' ' || c = '\t' || c = '\n' || c = '\r'

/-- The character that a letter after a backslash stands for. -/
def escaped? : Char → Option Char
  | '"' => some '"'
  | '\\' => some '\\'
  | '/' => some '/'
  | 'b' => some '\x08'
  | 'f' => some '\x0c'
  | 'n' => some '\n'
  | 'r' => some '\r'
  | 't' => some '\t'
  | _ => none

/-- Whether a code unit is the first half of a character beyond the basic plane. -/
def isHighHalf (n : Nat) : Bool := 0xD800 ≤ n && n < 0xDC00

/-- Whether a code unit is the second half of a character beyond the basic plane. -/
def isLowHalf (n : Nat) : Bool := 0xDC00 ≤ n && n < 0xE000

/-- The character made of two halves. -/
def joinHalves (high low : Nat) : Char :=
  Char.ofNat (0x10000 + (high - 0xD800) * 0x400 + (low - 0xDC00))

/-- A malformed quoted text. -/
structure TextFault where
  fault : Fault
  position : Nat

/-- Reads a quoted text after its opening quote, which stands at `start`, up to and with the closing
one. `position` is the place of the next character, `before` the characters read so far, last first.
The answer is the text and the position after it. -/
def textFrom (start position : Nat) (before : List Char) :
    List Char → Except TextFault (String × Nat)
  | '"' :: _ => .ok (String.ofList before.reverse, position + 1)
  | '\\' :: 'u' :: a :: b :: c :: d :: '\\' :: 'u' :: e :: f :: g :: h :: rest =>
    match Text.valueIn? 16 [a, b, c, d] with
    | none => .error ⟨.badCodeEscape, position + 1⟩
    | some high =>
      if isHighHalf high ∧ rest ≠ [] then
        match Text.valueIn? 16 [e, f, g, h] with
        | none => .error ⟨.badCodeEscape, position + 7⟩
        | some low =>
          if isLowHalf low then
            textFrom start (position + 12) (joinHalves high low :: before) rest
          else .error ⟨.loneSurrogate, position⟩
      else if isHighHalf high ∨ isLowHalf high then .error ⟨.loneSurrogate, position⟩
      else
        textFrom start (position + 6) (Char.ofNat high :: before)
          ('\\' :: 'u' :: e :: f :: g :: h :: rest)
  | '\\' :: 'u' :: a :: b :: c :: d :: next :: rest =>
    match Text.valueIn? 16 [a, b, c, d] with
    | none => .error ⟨.badCodeEscape, position + 1⟩
    | some n =>
      if isHighHalf n ∨ isLowHalf n then .error ⟨.loneSurrogate, position⟩
      else textFrom start (position + 6) (Char.ofNat n :: before) (next :: rest)
  | '\\' :: 'u' :: _ => .error ⟨.badCodeEscape, position + 1⟩
  | '\\' :: c :: rest =>
    match escaped? c with
    | some e => textFrom start (position + 2) (e :: before) rest
    | none => .error ⟨.badEscape, position⟩
  | ['\\'] => .error ⟨.unterminatedText, start⟩
  | c :: rest =>
    if c.toNat < 32 then .error ⟨.controlCharacter, position⟩
    else textFrom start (position + 1) (c :: before) rest
  | [] => .error ⟨.unterminatedText, start⟩

/-- Whether a character is one of the digits of JSON. -/
def isDigit (c : Char) : Bool := (Text.plainDigit? c).isSome

/-- The number that a row of digits stands for. -/
def digitsValue (ds : List Char) : Nat :=
  ds.foldl (fun n c => n * 10 + (c.toNat - 48)) 0

/-- The digits in front of the point: a single zero, or any digits that do not start with one. -/
def wholeDigits : List Char → List Char
  | '0' :: _ => ['0']
  | t => t.takeWhile isDigit

/-- The digits after a point, if there is a point with a digit after it. -/
def fractionDigits : List Char → List Char
  | '.' :: t => t.takeWhile isDigit
  | _ => []

/-- The sign and digits of an exponent, if there is one with a digit. The first part is its length
as written. -/
def exponentPart? : List Char → Option (Nat × Int)
  | e :: t =>
    if e = 'e' ∨ e = 'E' then
      let (signLength, negative, t) :=
        match t with
        | '+' :: t => (1, false, t)
        | '-' :: t => (1, true, t)
        | t => (0, false, t)
      let ds := t.takeWhile isDigit
      if ds = [] then none
      else some (1 + signLength + ds.length, Binary64.withSign negative (digitsValue ds))
    else none
  | [] => none

/-- Reads the number after its sign: the token and its length. -/
def number? (negative : Bool) (t : List Char) : Option (Token × Nat) :=
  let whole := wholeDigits t
  if whole = [] then none
  else
    let t := t.drop whole.length
    let fraction := fractionDigits t
    let pointLength := if fraction = [] then 0 else 1 + fraction.length
    let exponent := exponentPart? (t.drop pointLength)
    if fraction = [] ∧ exponent.isNone then
      let token :=
        if Text.maxDigits < whole.length then Token.tooLong whole.length
        else .atom (.int (Binary64.withSign negative (digitsValue whole)))
      some (token, whole.length)
    else
      let (exponentLength, power) := exponent.getD (0, 0)
      let x := Binary64.ofDecimal negative (digitsValue (whole ++ fraction))
        (power - Int.ofNat fraction.length)
      some (.atom (.float x), whole.length + pointLength + exponentLength)

/-- The tokens that are written as words. -/
def words : List (String × Scalar) :=
  [("null", .null), ("true", .bool true), ("false", .bool false), ("NaN", .float .nan),
    ("Infinity", .float (.infinite false)), ("-Infinity", .float (.infinite true))]

/-- Reads a word: the token and its length. -/
def word? (t : List Char) : Option (Token × Nat) :=
  (words.find? fun word => word.1.toList.isPrefixOf t).map fun word =>
    (.atom word.2, word.1.length)

/-- Reads a word or a number: the token and its length. -/
def atom? (t : List Char) : Option (Token × Nat) :=
  match word? t with
  | some found => some found
  | none =>
    match t with
    | '-' :: t => (number? true t).map fun (token, length) => (token, length + 1)
    | t => number? false t

/-- The token that a character is by itself. -/
def mark? : Char → Option Token
  | '[' => some .openList
  | ']' => some .closeList
  | '{' => some .openMap
  | '}' => some .closeMap
  | ':' => some .colon
  | ',' => some .comma
  | _ => none

/-- The tokens of a text whose first character stands at `position`. -/
def tokensFrom (position : Nat) (t : List Char) : List Lexeme :=
  match t with
  | [] => [⟨position, .finish⟩]
  | c :: rest =>
    if isSpace c then tokensFrom (position + 1) rest
    else if c = '"' then
      match textFrom position (position + 1) [] rest with
      | .error f => [⟨position, .badText f.fault f.position⟩]
      | .ok (s, next) => ⟨position, .text s⟩ :: tokensFrom next (rest.drop (next - position - 1))
    else
      match mark? c with
      | some token => ⟨position, token⟩ :: tokensFrom (position + 1) rest
      | none =>
        match atom? (c :: rest) with
        | none => [⟨position, .unknown⟩]
        | some (token, length) =>
          ⟨position, token⟩ :: tokensFrom (position + length) (rest.drop (length - 1))
termination_by t.length
decreasing_by all_goals simp_wf; try omega

/-- The tokens of a text. -/
def tokens (t : List Char) : List Lexeme := tokensFrom 0 t

end Scaffold.Document.Json
