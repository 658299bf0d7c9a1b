/-!
# Splitting texts

The pieces of a text between occurrences of a separator. Joining the pieces with the separator
gives the text back, and no piece holds it.
-/
namespace PagedTables.Text

/-- The pieces of a text between separators; a text without one is a single piece. -/
def splitAt (separator : Char) : List Char → List (List Char)
  | [] => [[]]
  | c :: rest =>
    if c = separator then [] :: splitAt separator rest
    else match splitAt separator rest with
      | [] => [[c]]
      | piece :: pieces => (c :: piece) :: pieces

/-- The pieces of a string between separators. -/
def split (separator : Char) (s : String) : List String :=
  (splitAt separator s.toList).map String.ofList

/-- There is always a piece. -/
theorem splitAt_ne_nil (separator : Char) (cs : List Char) : splitAt separator cs ≠ [] := by
  cases cs with
  | nil => simp [splitAt]
  | cons c rest =>
    rw [splitAt]
    split
    · simp
    · split <;> simp

end PagedTables.Text
