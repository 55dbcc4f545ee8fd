/-!
# Pieces

A text is cut at every separator. There is one piece more than there are separators, and a piece
may be empty.
-/

namespace Remittance.Text

/-- The pieces of a text between its separators. -/
def pieces (separator : Char) : List Char → List (List Char)
  | [] => [[]]
  | c :: rest =>
      match pieces separator rest with
      | [] => [[c]]
      | piece :: others =>
          if c == separator then [] :: piece :: others else (c :: piece) :: others

end Remittance.Text
