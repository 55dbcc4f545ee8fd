import Remittance.Text.CaseTable

/-!
# Letter case

Upper case, lower case, and the relation `sameLetter` under which keywords are read. Upper-casing
may lengthen a text, so `upper` gives a list of characters. `sameLetter` compares one character
with one character: their folded forms agree, which is the lower case with the variants of a
letter identified.
-/

namespace Remittance.Text

/-- The character the rows map `c` to, or `c` itself when no row maps it. -/
def shiftBy (rows : List CaseRow) (c : Char) : Char :=
  match rows.find? (·.covers c.toNat) with
  | some row => Char.ofNat (c.toNat + row.shift).toNat
  | none => c

/-- The character is one of the first 128 code points. -/
def isAscii (c : Char) : Bool :=
  c.toNat < 128

/-- The simple lower case of a character. -/
def lower (c : Char) : Char :=
  if isAscii c then c.toLower else shiftBy lowerRows c

/-- The full upper case of a character. -/
def upper (c : Char) : List Char :=
  if isAscii c then [c.toUpper]
  else
    match expansions.lookup c.toNat with
    | some codes => codes.map Char.ofNat
    | none => [shiftBy upperRows c]

/-- The full upper case of a text. -/
def upperCase (text : String) : String :=
  String.ofList (text.toList.flatMap upper)

/-- The folded form of a character, which is its lower case with the variants of a letter
identified. -/
def fold (c : Char) : Char :=
  let small := lower c
  match variants.lookup small.toNat with
  | some code => Char.ofNat code
  | none => small

/-- The two characters are the same letter when letter case is ignored. -/
def sameLetter (first second : Char) : Bool :=
  fold first == fold second

end Remittance.Text
