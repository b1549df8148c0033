import ContainerTasks.Text.Blank

/-! # Wrapping lines

Lines are broken between words so that they fit a width; a word that does not fit
stays whole. What follows a break begins with the spaces that the line begins with.
-/

namespace ContainerTasks.Text

/-- A line cut into words, each with the spaces behind it. Spaces at the beginning are a
word. -/
def wordsOf : List Char → List (List Char)
  | [] => []
  | c :: rest =>
    match wordsOf rest with
    | [] => [[c]]
    | [] :: more => [c] :: more
    | (next :: word) :: more =>
      if c = ' ' && next != ' ' then [c] :: (next :: word) :: more
      else (c :: next :: word) :: more

/-- Sets words behind one that stands at the end of a line of some width. `margin` is
what a line begins with after a break. -/
def wrapFrom (limit : Nat) (margin : List Char) (width : Nat) (last : List Char) :
    List (List Char) → List Char
  | [] => last
  | word :: rest =>
    if limit < width + (dropWhileEnd isBlank word).length then
      dropWhileEnd isBlank last ++ '\n' :: margin ++
        wrapFrom limit margin (margin.length + word.length) word rest
    else last ++ wrapFrom limit margin (width + word.length) word rest

/-- Wraps a line. -/
def wrapLine (limit : Nat) (line : List Char) : List Char :=
  match wordsOf line with
  | [] => []
  | first :: rest =>
    let margin := if first.all isBlank then first else []
    wrapFrom limit margin first.length first rest

end ContainerTasks.Text
