/-!
# Pieces of a text

The pieces between the marks in a text, such as the lines between newlines. There is one piece more than
there are marks; pieces may be empty.
-/

namespace EventLoop.Text

/-- The pieces of a text between the marks in it. -/
def piecesAt (mark : Char) : List Char → List (List Char)
  | [] => [[]]
  | c :: rest =>
    if c = mark then [] :: piecesAt mark rest
    else
      match piecesAt mark rest with
      | [] => [[c]]
      | piece :: pieces => (c :: piece) :: pieces

end EventLoop.Text
