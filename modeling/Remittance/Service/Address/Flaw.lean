import Remittance.Text.Quoted

/-!
# Flaws of addresses

Why the address of a request cannot be used, with the sentence that says so.
-/

namespace Remittance.Service.Address

/-- Why an address cannot be used. -/
inductive Flaw where
  /-- It has too many characters. -/
  | tooLong
  /-- It holds a control character. -/
  | control (character : Char) (position : Nat)
  /-- Its host has the shape of a dotted address and is none. -/
  | dotted (host : String)
  /-- Its host is bracketed and the brackets do not hold a coloned address. -/
  | bracketed (host : String)
  /-- Its port is no integer. -/
  | port (text : String)
  /-- It has neither scheme nor authority, and its path begins with two slashes. -/
  | slashes
  /-- It has neither scheme nor authority, and its path begins with a colon. -/
  | colon
deriving Repr, DecidableEq

/-- The sentence that reports a flaw. -/
def Flaw.message : Flaw → String
  | tooLong => "URL too long"
  | control character position =>
      "Invalid non-printable ASCII character in URL, " ++ Text.quote character.toString ++
        " at position " ++ position.repr ++ "."
  | dotted host => "Invalid IPv4 address: " ++ Text.quote host
  | bracketed host => "Invalid IPv6 address: " ++ Text.quote host
  | port text => "Invalid port: " ++ Text.quote text
  | slashes => "Relative URLs cannot have a path starting with '//'"
  | colon => "Relative URLs cannot have a path starting with ':'"

end Remittance.Service.Address
