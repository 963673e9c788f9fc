/-!
# Shortened text

Text cut to a limit, with three dots in the place of what is cut off. A limit that leaves no room
for the dots cuts without them, and one below zero counts from the end of the text.
-/

namespace Scaffold.Text

/-- The start of a text up to a limit; below zero, all of it but so many characters at its end. -/
def upTo (limit : Int) (t : List Char) : List Char :=
  if limit < 0 then t.take (t.length - limit.natAbs) else t.take limit.toNat

/-- The text cut to a limit. -/
def shorten (limit : Int) (t : List Char) : List Char :=
  if t.length ≤ limit then t
  else if limit ≤ 3 then upTo limit t
  else upTo (limit - 3) t ++ ['.', '.', '.']

end Scaffold.Text
