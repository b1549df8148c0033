/-! # Cutting texts

A text cut at every occurrence of a character. It has one part more than occurrences,
and its parts with the character between them make the text again.
-/

namespace ContainerTasks.Text

/-- A text cut at every occurrence of a character. -/
def cutAt (mark : Char) : List Char → List (List Char)
  | [] => [[]]
  | c :: rest =>
    if c = mark then [] :: cutAt mark rest
    else
      match cutAt mark rest with
      | [] => [[c]]
      | part :: more => (c :: part) :: more

/-- The parts of a text cut at every occurrence of a character. -/
def cut (mark : Char) (text : String) : List String :=
  (cutAt mark text.toList).map String.ofList

end ContainerTasks.Text
