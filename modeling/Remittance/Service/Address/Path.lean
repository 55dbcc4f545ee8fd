import Remittance.Service.Address.Host
import Remittance.Text.Piece

/-!
# Paths of addresses

A path is resolved before it is decoded: a segment of one dot stays where it is, and one of two
dots goes back. An escape is a percent sign and two hexadecimal digits.
-/

namespace Remittance.Service.Address

/-- Go on from the segments passed so far, the last one first. Two dots do not go back before a
slash in front. -/
def follow (passed : List (List Char)) (segment : List Char) : List (List Char) :=
  if segment = ['.'] then passed
  else if segment = ['.', '.'] then (if passed = [[]] then passed else passed.drop 1)
  else segment :: passed

/-- The path with its dot segments resolved. -/
def resolve (path : List Char) : List Char :=
  let passed := (Text.pieces '/' path).foldl follow []
  (List.intersperse ['/'] passed.reverse).flatten

/-- The path with one slash in front, whatever slashes there are. -/
def rooted (path : List Char) : List Char :=
  '/' :: path.dropWhile (· == '/')

/-- Decode escapes to the characters of their bytes. An escape outside ASCII is part of a longer
one, and no known path holds any. -/
def decode : List Char → List Char
  | [] => []
  | c :: rest =>
      match c, rest with
      | '%', high :: low :: behind =>
          match hexDigit? high, hexDigit? low with
          | some h, some l => Char.ofNat (16 * h + l) :: decode behind
          | _, _ => '%' :: decode (high :: low :: behind)
      | c, rest => c :: decode rest
termination_by text => text.length

end Remittance.Service.Address
