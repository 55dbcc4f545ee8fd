import Remittance.Text.Numeral
import Remittance.Text.Piece

/-!
# Numeric hosts

A dotted address is four numbers up to 255. A coloned address is eight groups of hexadecimal
digits, the last two of which may be written as a dotted address, and one run of zero groups may
be left out.
-/

namespace Remittance.Service.Address

/-- The text is a number up to 255 without zeros in front. -/
def isOctet (text : List Char) : Bool :=
  !text.isEmpty && text.length ≤ 3 && text.all (·.isDigit) &&
    (text.length == 1 || text.head? != some '0') && Text.number text ≤ 255

/-- The text is a dotted address. -/
def isDotted (text : List Char) : Bool :=
  let octets := Text.pieces '.' text
  octets.length == 4 && octets.all isOctet

/-- How far a text has come on the way to four runs of digits: the runs that are to follow the
current one, and whether the current one has a digit. -/
abbrev Progress := Nat × Bool

/-- Every progress that one more character leads to. Any character may separate two runs, also a
digit. -/
def Progress.next (c : Char) (progress : Progress) : List Progress :=
  let (runs, begun) := progress
  (if c.isDigit then [(runs, true)] else []) ++
    (if begun && 0 < runs then [(runs - 1, false)] else [])

/-- The text is four runs of digits with one character between any two. -/
def resemblesDotted (text : List Char) : Bool :=
  (text.foldl (fun reached c => (reached.flatMap (Progress.next c)).eraseDups) [(3, false)]).contains
    (0, true)

/-- The value of a hexadecimal digit. -/
def hexDigit? (c : Char) : Option Nat :=
  if c.isDigit then some (c.toNat - 0x30)
  else if 'a' ≤ c && c ≤ 'f' then some (c.toNat - 0x57)
  else if 'A' ≤ c && c ≤ 'F' then some (c.toNat - 0x37)
  else none

/-- The text is a group of a coloned address. -/
def isGroup (text : List Char) : Bool :=
  !text.isEmpty && text.length ≤ 4 && text.all fun c => (hexDigit? c).isSome

/-- The parts of a coloned address, with two groups in place of a dotted address at the end. -/
def groupsOf (parts : List (List Char)) : List (List Char) :=
  if parts.getLast?.any isDotted then parts.dropLast ++ [['0'], ['0']] else parts

/-- The groups are all there, or an empty one among them stands for a run that is left out. An
empty group at an end belongs to that run. -/
def isComplete (groups : List (List Char)) : Bool :=
  let inner := (groups.drop 1).dropLast
  let full := groups.filter (!·.isEmpty)
  full.all isGroup &&
    match inner.countP (·.isEmpty) with
    | 0 => groups.length == 8 && full.length == 8
    | 1 =>
        full.length ≤ 7 && (groups.head? != some [] || inner.head? == some []) &&
          (groups.getLast? != some [] || inner.getLast? == some [])
    | _ => false

/-- Nothing, or the percent sign and the name of a zone. -/
def isZone : List Char → Bool
  | [] => true
  | _ :: name => !name.isEmpty && !name.contains '%'

/-- The text is a coloned address, perhaps with a zone. -/
def isColoned (text : List Char) : Bool :=
  let parts := Text.pieces ':' (text.takeWhile (· != '%'))
  3 ≤ parts.length && isComplete (groupsOf parts) && isZone (text.dropWhile (· != '%'))

end Remittance.Service.Address
