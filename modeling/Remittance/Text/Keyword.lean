import Remittance.Text.LetterCase
import Remittance.Text.Word

/-!
# Keywords

A keyword stands at a position of a text when its letters match there whatever their case, and it
is a whole word, that is, bounded on each side by a space or an end of the text. `position?` is
the least such position from a start on, which `search` gives for every start that it takes, and
`after?` the text behind the first one.
-/

namespace Remittance.Text

/-- The text begins with the letters of the keyword, whatever their case. -/
def beginsWith : List Char → List Char → Bool
  | [], _ => true
  | _ :: _, [] => false
  | letter :: keyword, c :: rest => sameLetter letter c && beginsWith keyword rest

/-- A word that stands before this text ends there. -/
def endsWord : List Char → Bool
  | [] => true
  | c :: _ => isGap c

/-- The keyword is a whole word at the beginning of the text. -/
def leads (keyword text : List Char) : Bool :=
  beginsWith keyword text && endsWord (text.drop keyword.length)

/-- The positions at which the keyword is a whole word, when the text begins at this position.
`opens` says that a word may begin at the first character. -/
def positionsFrom (keyword : List Char) (opens : Bool) (position : Nat) : List Char → List Nat
  | [] => []
  | c :: rest =>
      let later := positionsFrom keyword (isGap c) (position + 1) rest
      if opens && leads keyword (c :: rest) then position :: later else later

/-- The first position in the text at which the keyword is a whole word. `opens` says that a word
may begin at the first character. -/
def firstFrom? (keyword : List Char) (opens : Bool) : List Char → Option Nat
  | [] => none
  | c :: rest =>
      if opens && leads keyword (c :: rest) then some 0
      else (firstFrom? keyword (isGap c) rest).map (· + 1)

/-- A word may begin after this many characters of the text. -/
def opensAt (text : List Char) : Nat → Bool
  | 0 => true
  | count + 1 => (text[count]?).any isGap

/-- The least position from `start` on at which the keyword is a whole word. A start before the
text stands for its beginning, where even an empty text is looked at. -/
def position? (text keyword : List Char) (start : Int) : Option Nat :=
  if start < 0 && text.isEmpty then
    if keyword.isEmpty then some 0 else none
  else
    let skipped := start.toNat
    (firstFrom? keyword (opensAt text skipped) (text.drop skipped)).map (· + skipped)

/-- Search for the keyword as a whole word. A negative start is a signed 64-bit integer. -/
def search (text keyword : List Char) (start : Int) : Except Fault (Option Nat) :=
  if start < -limit64 then .error .startBelow64 else .ok (position? text keyword start)

/-- Every position at which the keyword is a whole word, in order. -/
def positions (text keyword : List Char) : List Nat :=
  positionsFrom keyword true 0 text

/-- The text behind the first place where the keyword is a whole word. -/
def after? (keyword text : List Char) : Option (List Char) :=
  (firstFrom? keyword true text).map fun position => text.drop (position + keyword.length)

end Remittance.Text
