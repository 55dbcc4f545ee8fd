import Remittance.Calendar.Instant
import Remittance.Settlement.Report

/-!
# Routes of the service

What the service declares. A payment instruction is submitted with the accounts it may name, and
the handler settles it. Another route reports the health of the service. A platform validates what
is submitted and serves the routes.
-/

namespace Remittance.Service

/-- What a client posts: an instruction and the accounts it may name. -/
structure Submission where
  accounts : List Account
  instruction : String

/-- What a response says. -/
inductive Reply where
  /-- The service is in good health, in this version. -/
  | healthy (version : String)
  /-- A sentence on what is wrong. -/
  | detail (text : String)
  /-- The issues of an invalid request. -/
  | issues (issues : List Issue)
  /-- The outcome of an instruction. -/
  | outcome (outcome : Outcome)

/-- The integers that a reply holds, in order. -/
def Reply.integers : Reply → List Int
  | .outcome result =>
      result.fields.amount.toList ++
        result.snapshots.flatMap fun snapshot => [snapshot.balance, snapshot.balanceBefore]
  | _ => []

/-- How the handling of a submission ends. -/
inductive Handled where
  /-- It is broken off with a status number and a sentence. -/
  | raised (status : Nat) (text : String)
  /-- It gives an outcome, and may set the status number of the response. -/
  | returned (status : Option Nat) (outcome : Outcome)

/-- The answer to a submission at an instant. Its accounts are validated. -/
def answer (validate : Value → Checked Account) (now : Calendar.Instant)
    (submission : Submission) : Except Fault Outcome :=
  (Settlement.onDate now.utcDate
    (Settlement.processWith validate (submission.accounts.map .account)
      (.text submission.instruction))).answer

/-- Handle a submission at an instant. A failed outcome sets the status number. -/
def handle (validate : Value → Checked Account) (now : Calendar.Instant)
    (submission : Submission) : Handled :=
  match answer validate now submission with
  | .error fault => .raised 500 ("Failed to process instruction: " ++ fault.message)
  | .ok outcome => .returned (if outcome.status = .failed then some 400 else none) outcome

/-- What a route does with a request. -/
inductive Endpoint where
  /-- It gives a fixed reply. -/
  | report (reply : Reply)
  /-- It handles the submission that the request holds. -/
  | submit (handle : Submission → Handled)

/-- A path, the method by which it is asked for, and what is done with a request. -/
structure Route where
  method : String
  path : String
  endpoint : Endpoint

/-- The version of the service. -/
def version : String := "0.1.0"

/-- The routes of the service at an instant, in the order of their declaration. -/
def routes (validate : Value → Checked Account) (now : Calendar.Instant) : List Route :=
  [⟨"GET", "/health", .report (.healthy version)⟩,
    ⟨"POST", "/payment-instructions", .submit (handle validate now)⟩]

end Remittance.Service
