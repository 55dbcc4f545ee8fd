import Remittance.Service.Address.Basic
import Remittance.Service.Platform
import Remittance.Text.LetterCase
import Remittance.Value.Written

/-!
# The service

One platform, `Platform.standard`, that the service runs on, and the requests of its clients. A body
is validated as a whole, and all that is wrong with it is reported at once. Slashes behind a path and
the case of the method do not count. Nothing that is declared in `Service.routes` depends on it.
-/

namespace Remittance.Service

/-- Validate a list of accounts and keep the issues of all. -/
def accountsField : Value → Checked (List Account)
  | .list items => Checked.every (Account.ofValue .notFields) items
  | _ => .refuse .notList

/-- Validate a value as a submission. -/
def Submission.ofValue : Value → Checked Submission
  | .object entries =>
      let accounts := Field.required entries "accounts" accountsField
      let instruction := Field.required entries "instruction" Field.text
      Checked.apply (accounts.map Submission.mk) instruction
  | _ => .refuse .notFields

/-- Validate the body of a request. A null body counts as absent. -/
def Submission.ofBody : Option Value → Checked Submission
  | none | some .null => .refuse .missing
  | some value => ofValue value

/-- The response to a submission that has been handled. -/
def Handled.response : Handled → Response
  | .raised status text => ⟨status, some (.detail text)⟩
  | .returned status outcome => ⟨status.getD 200, some (.outcome outcome)⟩

namespace Route

/-- The response of a route to a request with this body. -/
def respond (route : Route) (body : Option Value) : Response :=
  match route.endpoint with
  | .report reply => ⟨200, some reply⟩
  | .submit handle =>
      match (Submission.ofBody body).under (.key "body") with
      | .error issues => ⟨422, some (.issues issues)⟩
      | .ok submission => (handle submission).response

/-- The route has this path, which one line feed may follow. -/
def leadsTo (route : Route) (path : List Char) : Bool :=
  path = route.path.toList || path = route.path.toList ++ ['\n']

/-- The response at a path, if a route has it. A path is asked for by the methods of its routes. -/
def respondAt? (routes : List Route) (path : List Char) (method : String) (body : Option Value) :
    Option Response :=
  match routes.filter (·.leadsTo path) with
  | [] => none
  | here =>
      match here.find? (·.method = method) with
      | some route => some (route.respond body)
      | none => some ⟨405, some (.detail "Method Not Allowed")⟩

end Route

/-- The response to a call. A path that leads nowhere is tried again without the slashes behind it,
and a response to the method `HEAD` has no body. -/
def responseTo (routes : List Route) (call : Call) : Response :=
  let path := call.path.toList
  let shorter := (path.reverse.dropWhile (· == '/')).reverse
  let response :=
    (Route.respondAt? routes path call.method call.body <|>
      Route.respondAt? routes shorter call.method call.body).getD
        ⟨404, some (.detail "Not Found")⟩
  if call.method = "HEAD" then { response with reply := none } else response

/-- The platform that the service runs on. -/
def Platform.standard : Platform where
  account := Account.ofValue (.notRecord "Account")
  item := Account.ofValue .notFields
  submission := Submission.ofValue
  serve := responseTo

/-- A request of a client, with the body it is sent with. -/
structure Request where
  method : String
  address : String
  body : Option Value

/-- The path that a request is sent to. Its address is read first, and then its body is written. -/
def Request.path (request : Request) : Except Fault (List Char) :=
  match Address.ofText request.address.toList with
  | .error flaw => .error (.badAddress flaw)
  | .ok address =>
      match request.body.bind Value.bodyFault? with
      | some fault => .error fault
      | none => address.destination

/-- The response to a request that is made at an instant. -/
def respond (request : Request) (now : Calendar.Instant) : Except Fault Response :=
  request.path.map fun path =>
    Platform.standard.serve (routes Platform.standard.account now)
      ⟨Text.upperCase request.method, String.ofList path, request.body⟩

/-- What a client reads in the body of a response. A body cannot be read if it is empty or holds an
integer of too many digits. -/
def Response.content (response : Response) : Except Fault Reply :=
  match response.reply with
  | none => .error .emptyText
  | some reply =>
      match reply.integers.find? (!fitsText ·) with
      | some number => .error (.digitLimit (digitCount number))
      | none => .ok reply

end Remittance.Service
