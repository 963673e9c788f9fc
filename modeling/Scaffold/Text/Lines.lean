/-!
# Lines

A text as a list of lines, and the one line end that a text in memory has. Splitting never gives an
empty list: a text without a line feed is one line, and a text that ends in a line feed has an empty
last line. Joining undoes splitting.
-/

namespace Scaffold.Text

/-- The lines of a text, split at every line feed. -/
def lines : List Char → List (List Char)
  | [] => [[]]
  | c :: rest =>
    if c = '\n' then [] :: lines rest
    else
      match lines rest with
      | [] => [[c]]
      | line :: more => (c :: line) :: more

/-- The text made of the given lines, with a line feed between any two of them. -/
def joinLines : List (List Char) → List Char
  | [] => []
  | [line] => line
  | line :: more => line ++ '\n' :: joinLines more

/-- The text with every line end turned into a line feed: a carriage return and the line feed after
it count as one line end, and so does a carriage return alone. -/
def unifyLineEnds : List Char → List Char
  | '\r' :: '\n' :: rest => '\n' :: unifyLineEnds rest
  | c :: rest => (if c = '\r' then '\n' else c) :: unifyLineEnds rest
  | [] => []

theorem lines_ne_nil (t : List Char) : lines t ≠ [] := by
  cases t with
  | nil => simp [lines]
  | cons c rest =>
    simp only [lines]
    split
    · simp
    · split <;> simp

@[simp] theorem joinLines_lines (t : List Char) : joinLines (lines t) = t := by
  induction t with
  | nil => rfl
  | cons c rest ih =>
    simp only [lines]
    cases h : lines rest with
    | nil => exact absurd h (lines_ne_nil rest)
    | cons line more =>
      rw [h] at ih
      by_cases hc : c = '\n'
      · subst hc
        simp [joinLines, ih]
      · simp only [hc, if_false]
        cases more with
        | nil => simpa [joinLines] using ih
        | cons next others => simpa [joinLines] using ih

end Scaffold.Text
