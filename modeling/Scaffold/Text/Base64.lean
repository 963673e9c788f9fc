/-!
# Bytes in base 64

The bytes that a text spells with four characters for every three of them. Characters outside of the
alphabet are passed over, and what follows the padding of an unfinished group is not looked at.
-/

namespace Scaffold.Text.Base64

/-- The six bits that a character stands for. -/
def sextet? (c : Char) : Option Nat :=
  let n := c.toNat
  if 65 ≤ n ∧ n ≤ 90 then some (n - 65)
  else if 97 ≤ n ∧ n ≤ 122 then some (n - 71)
  else if 48 ≤ n ∧ n ≤ 57 then some (n + 4)
  else if c = '+' then some 62
  else if c = '/' then some 63
  else none

/-- The group of four characters that is being read: how many of its characters there are, the bits
of the last one that belong to the next byte, and how many padding signs have followed it. -/
structure Group where
  count : Nat
  bits : Nat
  pads : Nat

/-- No group. -/
def Group.none : Group := ⟨0, 0, 0⟩

/-- A group with one more character, and the byte that the character completes. -/
def Group.push (g : Group) (sextet : Nat) : Group × Option UInt8 :=
  match g.count with
  | 0 => (⟨1, sextet, 0⟩, .none)
  | 1 => (⟨2, sextet % 16, 0⟩, some (UInt8.ofNat (g.bits * 4 + sextet / 16)))
  | 2 => (⟨3, sextet % 4, 0⟩, some (UInt8.ofNat (g.bits * 16 + sextet / 4)))
  | _ => (.none, some (UInt8.ofNat (g.bits * 64 + sextet)))

/-- The bytes of the rest of a text, unless it ends inside of a group. Padding ends the text once it
fills up a group of at least two characters. -/
def bytesFrom? (g : Group) : List Char → Option (List UInt8)
  | [] => if g.count = 0 then some [] else none
  | c :: rest =>
    if c = '=' then
      if g.count < 2 then bytesFrom? g rest
      else if 4 ≤ g.count + g.pads + 1 then some []
      else bytesFrom? { g with pads := g.pads + 1 } rest
    else
      match sextet? c with
      | none => bytesFrom? g rest
      | some sextet =>
        let (g, byte) := g.push sextet
        (bytesFrom? g rest).map (byte.toList ++ ·)

/-- The bytes of a text of plain characters. -/
def bytes? (t : List Char) : Option (List UInt8) :=
  if t.all fun c => c.toNat < 128 then bytesFrom? .none t else none

end Scaffold.Text.Base64
