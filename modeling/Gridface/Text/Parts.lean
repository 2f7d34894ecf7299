/-!
# Parts of a text

A text is split at every occurrence of a mark; there is always one part more than there are marks.
-/

namespace Gridface.Text

/-- The parts of a text between marks. -/
def splitAt (mark : Char) : List Char → List (List Char)
  | [] => [[]]
  | c :: cs =>
    if c = mark then [] :: splitAt mark cs
    else
      match splitAt mark cs with
      | [] => [[c]]
      | part :: parts => (c :: part) :: parts

/-- The parts with marks between them. -/
def joinWith (mark : Char) : List (List Char) → List Char
  | [] => []
  | [part] => part
  | part :: parts => part ++ mark :: joinWith mark parts

theorem splitAt_ne_nil (mark : Char) (cs : List Char) : splitAt mark cs ≠ [] := by
  cases cs with
  | nil => simp [splitAt]
  | cons c cs =>
    simp only [splitAt]
    split
    · simp
    · split <;> simp

end Gridface.Text
