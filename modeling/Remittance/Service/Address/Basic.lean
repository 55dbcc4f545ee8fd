import Remittance.Fault
import Remittance.Service.Address.Path

/-!
# Addresses

The address of a request: a scheme, an authority, and a path, of which only the path has to be
there. The query and the fragment behind the path do not count. `ofText` reads an address, and
`destination` is the path that a request is sent to, which holds its escapes decoded twice.
-/

namespace Remittance.Service

/-- An address without its query and its fragment. The host of a bracketed one keeps its
brackets. -/
structure Address where
  scheme : List Char
  user : List Char
  host : List Char
  port : Option Int
  path : List Char

namespace Address

/-- No address has more characters. -/
def lengthLimit : Nat := 65536

/-- The character is an ASCII control character. -/
def isControl (c : Char) : Bool :=
  c.toNat < 0x20 || c.toNat == 0x7F

/-- The flaw of a text that is no address as a whole. -/
def textFlaw? (text : List Char) : Option Flaw :=
  if lengthLimit < text.length then some .tooLong
  else (text.find? isControl).map fun c => .control c (text.takeWhile (!isControl ·)).length

/-- The text up to the query or the fragment. -/
def withoutQuery (text : List Char) : List Char :=
  text.takeWhile fun c => c != '?' && c != '#'

/-- The character may stand in the name of a scheme. -/
def isSchemeCharacter (c : Char) : Bool :=
  c.isAlphanum || c == '+' || c == '.' || c == '-'

/-- Take a scheme and its colon off the text. The name of a scheme begins with a letter, or is
empty. -/
def splitScheme (text : List Char) : List Char × List Char :=
  let scheme := text.takeWhile isSchemeCharacter
  match text.drop scheme.length with
  | ':' :: rest => if (scheme.take 1).all (·.isAlpha) then (scheme, rest) else ([], text)
  | _ => ([], text)

/-- Take an authority and the two slashes in front of it off the text. -/
def splitAuthority : List Char → List Char × List Char
  | '/' :: '/' :: rest => (rest.takeWhile (· != '/'), rest.dropWhile (· != '/'))
  | text => ([], text)

/-- Take a user and the at sign behind it off an authority. -/
def splitUser (authority : List Char) : List Char × List Char :=
  let host := (authority.reverse.takeWhile (· != '@')).reverse
  (authority.take (authority.length - host.length - 1), host)

/-- Take a host off the text, up to its port. A bracketed host ends at the last bracket. -/
def splitHost (text : List Char) : List Char × List Char :=
  let behind := (text.reverse.takeWhile (· != ']')).reverse
  if text.head? = some '[' && text.contains ']' then
    (text.take (text.length - behind.length), behind)
  else (text.takeWhile (· != ':'), text.dropWhile (· != ':'))

/-- The host is bracketed. -/
def isBracketed (host : List Char) : Bool :=
  host.head? == some '[' && host.getLast? == some ']'

/-- The flaw of a host. -/
def hostFlaw? (host : List Char) : Option Flaw :=
  if resemblesDotted host then
    if isDotted host then none else some (.dotted (String.ofList host))
  else if isBracketed host then
    if isColoned (host.drop 1).dropLast then none else some (.bracketed (String.ofList host))
  else none

/-- Read the port behind a host, which a colon may precede. -/
def readPort (text : List Char) : Except Flaw (Option Int) :=
  let digits := String.ofList (if text.head? = some ':' then text.drop 1 else text)
  if digits.isEmpty then .ok none
  else
    match Text.readInteger digits with
    | .ok port => .ok (some port)
    | .error _ => .error (.port digits)

/-- The flaw of a path that follows neither a scheme nor an authority. -/
def pathFlaw? : List Char → Option Flaw
  | '/' :: '/' :: _ => some .slashes
  | ':' :: _ => some .colon
  | _ => none

/-- The address has neither a scheme nor an authority. -/
def isBare (address : Address) : Bool :=
  address.scheme.isEmpty && address.user.isEmpty && address.host.isEmpty && address.port.isNone

/-- Read an address. -/
def ofText (text : List Char) : Except Flaw Address :=
  let (scheme, rest) := splitScheme (withoutQuery text)
  let (authority, path) := splitAuthority rest
  let (user, hostAndPort) := splitUser authority
  let (host, behind) := splitHost hostAndPort
  match textFlaw? text <|> hostFlaw? host with
  | some flaw => .error flaw
  | none =>
      match readPort behind with
      | .error flaw => .error flaw
      | .ok port =>
          let address : Address := ⟨scheme, user, host, port, path⟩
          if address.isBare then
            match pathFlaw? path with
            | some flaw => .error flaw
            | none => .ok address
          else .ok { address with path := resolve path }

/-- The address names both a scheme and a host. -/
def isAbsolute (address : Address) : Bool :=
  !address.scheme.isEmpty && !address.host.isEmpty

/-- The schemes of requests. -/
def schemes : List String := ["http", "https", "ws", "wss"]

/-- The path that a request is sent to. No request is sent to an absolute address of another
scheme. -/
def destination (address : Address) : Except Fault (List Char) :=
  if address.isAbsolute then
    let scheme := String.ofList (address.scheme.map (·.toLower))
    if schemes.contains scheme then .ok (decode (decode address.path))
    else .error (.unknownScheme scheme)
  else .ok (decode (decode (resolve (rooted address.path))))

end Address

end Remittance.Service
