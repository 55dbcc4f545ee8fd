import Remittance.Fault
import Remittance.Number.Width

/-!
# Words

A word of a text is a run of characters other than the space. `nextWord` is the first word after
leading spaces, and `wordFrom` reads one from any position, where a negative position counts from
the end of the text.
-/

namespace Remittance.Text

/-- The character is the space, the only one that ends a word. -/
def isGap (c : Char) : Bool :=
  c == ' '

/-- The first word of the text after its leading spaces, empty when there is none. -/
def nextWord (text : List Char) : List Char :=
  (text.dropWhile isGap).takeWhile (!isGap ·)

/-- The number of characters before a position. A negative position counts from the end, and a
position outside the text is moved to its nearer end. -/
def place (length : Nat) (position : Int) : Nat :=
  if position < 0 then (position + length).toNat else min position.toNat length

/-- The characters from one position up to another, none when the first lies behind the
second. -/
def slice (text : List Char) (start stop : Int) : List Char :=
  (text.take (place text.length stop)).drop (place text.length start)

/-- The characters that a cursor meets from a position on. From a negative position it runs
through the end of the text and then through the whole text. No cursor stands before the text. -/
def ahead (text : List Char) (start : Int) : Except Fault (List Char) :=
  if 0 ≤ start then .ok (text.drop start.toNat)
  else if start < -limit64 then .error .positionBelow64
  else if start + text.length < 0 then .error .beforeText
  else .ok (text.drop (start + text.length).toNat ++ text)

/-- The word that a cursor finds from a position on, cut from the text between the positions
where the cursor enters and leaves it. -/
def wordFrom (text : List Char) (start : Int) : Except Fault (List Char) :=
  (ahead text start).map fun passed =>
    let enters := start + (passed.takeWhile isGap).length
    slice text enters (enters + (nextWord passed).length)

end Remittance.Text
