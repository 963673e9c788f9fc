/-!
# Searching for a pattern

Finding, counting and replacing a literal pattern in a text. All three rest on one operation, the
cut of a text at the first place where the pattern occurs; counting and replacing repeat it on what
follows, so occurrences are taken from the left and never overlap. Patterns are not empty.
-/

namespace Scaffold.Text

/-- What follows a pattern that stands at the start of a text. -/
def afterPrefix? : List Char → List Char → Option (List Char)
  | [], t => some t
  | _ :: _, [] => none
  | p :: pattern, c :: t => if p = c then afterPrefix? pattern t else none

/-- The text before the first occurrence of a pattern, and the text after it. -/
def cut? (pattern : List Char) : List Char → Option (List Char × List Char)
  | [] => (afterPrefix? pattern []).map ([], ·)
  | c :: t =>
    match afterPrefix? pattern (c :: t) with
    | some after => some ([], after)
    | none => (cut? pattern t).map fun (before, after) => (c :: before, after)

/-- Whether a pattern occurs in a text. -/
def contains (pattern t : List Char) : Bool := (cut? pattern t).isSome

theorem afterPrefix?_eq_some {pattern t after : List Char}
    (h : afterPrefix? pattern t = some after) : t = pattern ++ after := by
  induction pattern generalizing t with
  | nil => simpa [afterPrefix?] using h
  | cons p pattern ih =>
    cases t with
    | nil => simp [afterPrefix?] at h
    | cons c t =>
      simp only [afterPrefix?] at h
      split at h
      · next hc => simp [hc, ih h]
      · simp at h

theorem cut?_eq_some {pattern t before after : List Char}
    (h : cut? pattern t = some (before, after)) : t = before ++ pattern ++ after := by
  induction t generalizing before with
  | nil =>
    simp only [cut?, Option.map_eq_some_iff, Prod.mk.injEq] at h
    obtain ⟨rest, hrest, rfl, rfl⟩ := h
    simpa using afterPrefix?_eq_some hrest
  | cons c t ih =>
    simp only [cut?] at h
    split at h
    · next rest hrest =>
      simp only [Option.some.injEq, Prod.mk.injEq] at h
      obtain ⟨rfl, rfl⟩ := h
      simpa using afterPrefix?_eq_some hrest
    · simp only [Option.map_eq_some_iff, Prod.exists, Prod.mk.injEq] at h
      obtain ⟨b, a, hba, rfl, rfl⟩ := h
      simp [ih hba]

/-- The pieces of a text between the occurrences of a pattern; the text itself if there is none. An
empty pattern separates nothing. -/
def pieces (pattern t : List Char) : List (List Char) :=
  match _h : cut? pattern t with
  | none => [t]
  | some (before, after) =>
    if _hp : pattern = [] then [t]
    else before :: pieces pattern after
termination_by t.length
decreasing_by
  have ht := cut?_eq_some _h
  have hlen := List.length_pos_iff.2 _hp
  rw [ht, List.length_append, List.length_append]
  omega

/-- The pieces with a separator between any two of them. -/
def glue (separator : List Char) : List (List Char) → List Char
  | [] => []
  | [piece] => piece
  | piece :: more => piece ++ separator ++ glue separator more

/-- How often a pattern occurs in a text. -/
def occurrences (pattern t : List Char) : Nat := (pieces pattern t).length - 1

/-- The text with every occurrence of a pattern replaced. -/
def replaceAll (pattern replacement t : List Char) : List Char :=
  glue replacement (pieces pattern t)

end Scaffold.Text
