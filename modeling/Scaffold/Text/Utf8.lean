/-!
# UTF-8

The bytes of a text, and the text of a sequence of bytes. Reading is strict: it refuses overlong
forms, surrogates and code points beyond the last one, and it says which bytes it stopped at and
why.
-/

namespace Scaffold.Text.Utf8

/-- Why a sequence of bytes is not the form of a text. -/
inductive Cause
  | invalidStart
  | invalidContinuation
  | unexpectedEnd
  deriving DecidableEq, Repr

/-- Where reading stopped: the position and value of the first byte that belongs to no character,
and how many bytes were taken together with it. -/
structure Fault where
  position : Nat
  byte : UInt8
  count : Nat
  cause : Cause
  deriving DecidableEq, Repr

/-- The bytes of one character. -/
def encodeChar (c : Char) : List UInt8 :=
  let n := c.toNat
  if n < 0x80 then [n.toUInt8]
  else if n < 0x800 then [(0xC0 + n / 64).toUInt8, (0x80 + n % 64).toUInt8]
  else if n < 0x10000 then
    [(0xE0 + n / 4096).toUInt8, (0x80 + n / 64 % 64).toUInt8, (0x80 + n % 64).toUInt8]
  else
    [(0xF0 + n / 262144).toUInt8, (0x80 + n / 4096 % 64).toUInt8, (0x80 + n / 64 % 64).toUInt8,
      (0x80 + n % 64).toUInt8]

/-- The bytes of a text. -/
def encode (t : List Char) : List UInt8 := t.flatMap encodeChar

/-- Whether a byte continues a character. -/
def isContinuation (b : UInt8) : Bool := 0x80 ≤ b.toNat && b.toNat < 0xC0

/-- Whether a byte may stand second in a character of three or four bytes that starts with `first`:
it continues the character, and the two together are neither overlong, nor the start of a surrogate,
nor beyond the last code point. -/
def isSecond (first second : UInt8) : Bool :=
  isContinuation second
    && (first.toNat != 0xE0 || 0xA0 ≤ second.toNat)
    && (first.toNat != 0xED || second.toNat < 0xA0)
    && (first.toNat != 0xF0 || 0x90 ≤ second.toNat)
    && (first.toNat != 0xF4 || second.toNat < 0x90)

/-- The six bits that a continuing byte carries. -/
def payload (b : UInt8) : Nat := b.toNat % 64

/-- Reads the bytes that stand from `position` on. -/
def decodeFrom (position : Nat) : List UInt8 → Except Fault (List Char)
  | [] => .ok []
  | first :: rest =>
    let stop (count : Nat) (cause : Cause) : Except Fault (List Char) :=
      .error ⟨position, first, count, cause⟩
    let n := first.toNat
    if n < 0x80 then (decodeFrom (position + 1) rest).map (Char.ofNat n :: ·)
    else if n < 0xC2 then stop 1 .invalidStart
    else if n < 0xE0 then
      match rest with
      | [] => stop 1 .unexpectedEnd
      | b :: rest =>
        if isContinuation b then
          (decodeFrom (position + 2) rest).map (Char.ofNat (n % 32 * 64 + payload b) :: ·)
        else stop 1 .invalidContinuation
    else if n < 0xF0 then
      match rest with
      | [] => stop 1 .unexpectedEnd
      | b :: rest =>
        if isSecond first b then
          match rest with
          | [] => stop 2 .unexpectedEnd
          | c :: rest =>
            if isContinuation c then
              (decodeFrom (position + 3) rest).map
                (Char.ofNat (n % 16 * 4096 + payload b * 64 + payload c) :: ·)
            else stop 2 .invalidContinuation
        else stop 1 .invalidContinuation
    else if n < 0xF5 then
      match rest with
      | [] => stop 1 .unexpectedEnd
      | b :: rest =>
        if isSecond first b then
          match rest with
          | [] => stop 2 .unexpectedEnd
          | c :: rest =>
            if isContinuation c then
              match rest with
              | [] => stop 3 .unexpectedEnd
              | d :: rest =>
                if isContinuation d then
                  (decodeFrom (position + 4) rest).map
                    (Char.ofNat
                      (n % 8 * 262144 + payload b * 4096 + payload c * 64 + payload d) :: ·)
                else stop 3 .invalidContinuation
            else stop 2 .invalidContinuation
        else stop 1 .invalidContinuation
    else stop 1 .invalidStart

/-- The text of a sequence of bytes. -/
def decode (bytes : List UInt8) : Except Fault (List Char) := decodeFrom 0 bytes

/-- A byte as two lower-case hexadecimal digits. -/
def hexByte (b : UInt8) : String :=
  String.ofList [Nat.digitChar (b.toNat / 16), Nat.digitChar (b.toNat % 16)]

/-- The cause in words. -/
def Cause.message : Cause → String
  | .invalidStart => "invalid start byte"
  | .invalidContinuation => "invalid continuation byte"
  | .unexpectedEnd => "unexpected end of data"

/-- The fault in words: one byte is named by its value, several by the positions they take. -/
def Fault.message (f : Fault) : String :=
  let subject :=
    if f.count = 1 then "byte 0x" ++ hexByte f.byte ++ " in position " ++ toString f.position
    else "bytes in position " ++ toString f.position ++ "-" ++ toString (f.position + f.count - 1)
  "'utf-8' codec can't decode " ++ subject ++ ": " ++ f.cause.message

end Scaffold.Text.Utf8
