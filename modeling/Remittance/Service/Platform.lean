import Remittance.Service.Routes

/-!
# Platforms

What the service rests on and does not define itself: the validation of supplied values, and the
serving of routes. Whatever is said of the service is said for any platform that does what is
documented of one (`Platform.IsDocumented`). The service runs on `Platform.standard`.
-/

namespace Remittance.Service

/-- A request as it arrives at the service. -/
structure Call where
  method : String
  path : String
  body : Option Value

/-- A response with its status number. A response may be without a body. -/
structure Response where
  status : Nat
  reply : Option Reply

/-- What is given from outside. -/
structure Platform where
  /-- Validate a value as an account. -/
  account : Value → Checked Account
  /-- Validate an item of a list as an account. -/
  item : Value → Checked Account
  /-- Validate a value as a submission. -/
  submission : Value → Checked Submission
  /-- Respond to a call when these routes are declared. -/
  serve : List Route → Call → Response

end Remittance.Service
