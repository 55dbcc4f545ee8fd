/-!
# Blank characters

Which characters count as empty at the ends of a text, and which separate words inside it. The
two sets differ: every separator is a blank, but most blanks separate nothing. `trim` removes
blanks at both ends, `collapse` writes each run of separators as one space, and `normalize` does
the one and then the other.
-/

namespace Remittance.Text

/-- A character of the Unicode property `White_Space`. -/
def isSpace (c : Char) : Bool :=
  let code := c.toNat
  (0x09 ≤ code && code ≤ 0x0D) || code == 0x20 || code == 0x85 || code == 0xA0 ||
    code == 0x1680 || (0x2000 ≤ code && code ≤ 0x200A) || code == 0x2028 || code == 0x2029 ||
    code == 0x202F || code == 0x205F || code == 0x3000

/-- A blank is white space or one of the four information separators U+001C to U+001F. -/
def isBlank (c : Char) : Bool :=
  isSpace c || (0x1C ≤ c.toNat && c.toNat ≤ 0x1F)

/-- The characters that separate the words of a raw text: space, tab, line feed, and carriage
return. -/
def isSeparator (c : Char) : Bool :=
  c == ' ' || c == '\t' || c == '\n' || c == '\r'

/-- Every separator is a blank, so a trimmed text neither begins nor ends with one. -/
theorem isBlank_of_isSeparator {c : Char} (h : isSeparator c = true) : isBlank c = true := by
  simp only [isSeparator, Bool.or_eq_true, beq_iff_eq] at h
  rcases h with ((rfl | rfl) | rfl) | rfl <;> decide

/-- Remove the characters that satisfy `drops` from both ends of the text. -/
def trimWith (drops : Char → Bool) (text : List Char) : List Char :=
  ((text.dropWhile drops).reverse.dropWhile drops).reverse

/-- Remove the blanks at both ends of the text. -/
def trim (text : List Char) : List Char :=
  trimWith isBlank text

/-- Write each run of separators as one space. `afterSpace` says that the space of the current
run is already written. -/
def collapseFrom (afterSpace : Bool) : List Char → List Char
  | [] => []
  | c :: rest =>
      if isSeparator c then
        if afterSpace then collapseFrom true rest else ' ' :: collapseFrom true rest
      else c :: collapseFrom false rest

/-- Write each run of separators as one space. -/
def collapse (text : List Char) : List Char :=
  collapseFrom false text

/-- The text without blanks at its ends and with one space for each run of separators. -/
def normalize (text : List Char) : List Char :=
  collapse (trim text)

end Remittance.Text
