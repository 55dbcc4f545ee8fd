import Remittance.Proofs.Account.Reading
import Remittance.Service

/-!
# What is documented of a platform

The validation of values and the serving of routes are given from outside. What the service relies
on is `Platform.IsDocumented`: an item of a list is validated as the value on its own, a list is
refused with the issues of all its items, and a call to a declared route is answered as its handler
says. The platform that the service runs on does what is documented
(`Platform.standard_isDocumented`).
-/

namespace Remittance

namespace Value

/-- The value can be sent: its integers have few enough digits, and its doubles are finite. -/
structure IsSendable (value : Value) : Prop where
  integers : ∀ number, .int number ∈ value.scalars → fitsText number = true
  doubles : ∀ number, .double number ∈ value.scalars → number.isFinite = true

/-- A value can be sent unless a fault keeps it from being written as a body. -/
theorem bodyFault?_eq_none_iff {value : Value} : value.bodyFault? = none ↔ value.IsSendable := by
  rw [bodyFault?, List.findSome?_eq_none_iff]
  constructor
  · intro h
    constructor
    · intro number hmem
      simpa [messageFault?] using h _ hmem
    · intro number hmem
      simpa using h _ hmem
  · intro h scalar hmem
    cases scalar with
    | int number => simp [messageFault?, h.integers number hmem]
    | double number => simp [h.doubles number hmem]
    | _ => rfl

instance (value : Value) : Decidable value.IsSendable :=
  decidable_of_iff _ bodyFault?_eq_none_iff

end Value

namespace Service

/-- The balances and the amount that an outcome reports have few enough digits. -/
def Reportable (outcome : Outcome) : Prop :=
  ∀ number ∈ (Reply.outcome outcome).integers, fitsText number = true

instance (outcome : Outcome) : Decidable (Reportable outcome) :=
  inferInstanceAs (Decidable (∀ number ∈ (Reply.outcome outcome).integers, fitsText number = true))

/-- The body that holds accounts and an instruction. -/
def posted (items : List Value) (instruction : String) : Value :=
  .object [("accounts", .list items), ("instruction", .text instruction)]

/-- The character stands for itself in a path. -/
def isPathCharacter (c : Char) : Bool :=
  c.isAlphanum || c == '/' || c == '-'

/-- The path begins with a slash and stands for itself. -/
structure IsPlain (path : String) : Prop where
  slash : path.toList.head? = some '/'
  letters : path.toList.all isPathCharacter = true

/-- Among routes with plain paths, the first one at which submissions are posted to a path has this
handler. -/
structure Declares (routes : List Route) (path : String) (handle : Submission → Handled) :
    Prop where
  plain : ∀ route ∈ routes, IsPlain route.path
  first : routes.find? (fun route => route.path = path ∧ route.method = "POST") =
    some ⟨"POST", path, .submit handle⟩

/-- The status number is one of an error. -/
def IsErrorStatus (status : Nat) : Prop :=
  400 ≤ status ∧ status < 600

instance : DecidablePred IsErrorStatus := fun status =>
  inferInstanceAs (Decidable (400 ≤ status ∧ status < 600))

/-- What is documented of a platform, as far as the service relies on it. -/
structure Platform.IsDocumented (platform : Platform) : Prop where
  /-- An item of a list is an account when the value on its own is, and the same one. -/
  item_eq_ok_iff : ∀ value account,
    platform.item value = .ok account ↔ platform.account value = .ok account
  /-- An object is validated in a list as it is on its own. -/
  item_object : ∀ entries, platform.item (.object entries) = platform.account (.object entries)
  /-- Something is reported of an item that is no account. -/
  item_ne_error_nil : ∀ value, platform.item value ≠ .error []
  /-- A body is a submission when all its accounts are valid. -/
  submission_of_valid : ∀ items accounts instruction,
    List.Forall₂ (fun item account => platform.item item = .ok account) items accounts →
      platform.submission (posted items instruction) = .ok ⟨accounts, instruction⟩
  /-- Of a body with an invalid account, the issues of all accounts are reported. -/
  submission_of_invalid : ∀ items instruction,
    (∃ item ∈ items, ∀ account, platform.item item ≠ .ok account) →
      platform.submission (posted items instruction) =
        .error ((Checked.listed platform.item items).map (.under (.key "accounts")))
  /-- The issues of an invalid body are the details of the response. -/
  serve_invalid : ∀ routes path handle entries issues, Declares routes path handle →
    (Value.object entries).IsSendable → platform.submission (.object entries) = .error issues →
      platform.serve routes ⟨"POST", path, some (.object entries)⟩ =
        ⟨422, some (.issues (issues.map (.under (.key "body"))))⟩
  /-- A handler that is broken off determines the status number and the detail. -/
  serve_raised : ∀ routes path handle entries submission status text,
    Declares routes path handle → (Value.object entries).IsSendable →
      platform.submission (.object entries) = .ok submission →
      handle submission = .raised status text → IsErrorStatus status →
        platform.serve routes ⟨"POST", path, some (.object entries)⟩ =
          ⟨status, some (.detail text)⟩
  /-- The outcome that a handler gives is the response. The status number is 200 unless the handler
  sets another. -/
  serve_returned : ∀ routes path handle entries submission status outcome,
    Declares routes path handle → (Value.object entries).IsSendable →
      platform.submission (.object entries) = .ok submission →
      handle submission = .returned status outcome → (∀ code ∈ status, IsErrorStatus code) →
      Reportable outcome →
        platform.serve routes ⟨"POST", path, some (.object entries)⟩ =
          ⟨status.getD 200, some (.outcome outcome)⟩

/-- The service declares that submissions to this path are handled. -/
theorem declares_routes (validate : Value → Checked Account) (now : Calendar.Instant) :
    Declares (routes validate now) "/payment-instructions" (handle validate now) where
  plain := by
    have hslash : ∀ path ∈ ["/health", "/payment-instructions"],
        path.toList.head? = some '/' := by decide
    have hletters : ∀ path ∈ ["/health", "/payment-instructions"],
        path.toList.all isPathCharacter = true := by decide
    intro route hroute
    have hpath : route.path ∈ ["/health", "/payment-instructions"] :=
      List.mem_map_of_mem (f := Route.path) hroute
    exact ⟨hslash route.path hpath, hletters route.path hpath⟩
  first := rfl

/-! ## The platform that the service runs on -/

/-- No plain path ends in a line feed. -/
theorem Route.leadsTo_iff {path : String} (h : IsPlain path) (route : Route) :
    route.leadsTo path.toList = true ↔ route.path = path := by
  have hfeed : path.toList ≠ route.path.toList ++ ['\n'] := by
    intro hpath
    have hmem : '\n' ∈ path.toList := by
      rw [hpath]
      exact List.mem_append_right _ (List.mem_singleton.2 rfl)
    exact absurd (List.all_eq_true.1 h.letters _ hmem) (by decide)
  simp [leadsTo, hfeed, String.toList_inj, eq_comm]

/-- A call to a declared path is answered by its route. -/
theorem responseTo_of_declares {routes : List Route} {path : String} {handle : Submission → Handled}
    (h : Declares routes path handle) (body : Option Value) :
    responseTo routes ⟨"POST", path, body⟩ = Route.respond ⟨"POST", path, .submit handle⟩ body := by
  have hplain : IsPlain path := h.plain _ (List.mem_of_find?_eq_some h.first)
  have hhere : (routes.filter (·.leadsTo path.toList)).find? (·.method = "POST") =
      some ⟨"POST", path, .submit handle⟩ := by
    rw [List.find?_filter, ← h.first]
    simp only [Route.leadsTo_iff hplain, decide_eq_true_eq]
  have hrespond : Route.respondAt? routes path.toList "POST" body =
      some (Route.respond ⟨"POST", path, .submit handle⟩ body) := by
    unfold Route.respondAt?
    split
    · rename_i hnone
      rw [hnone] at hhere
      cases hhere
    · rw [hhere]
  simp [responseTo, hrespond]

/-- A call to a declared path is answered by validating its body and handling the submission. -/
theorem Platform.standard_serve {routes : List Route} {path : String}
    {handle : Submission → Handled} (h : Declares routes path handle)
    (entries : List (String × Value)) :
    Platform.standard.serve routes ⟨"POST", path, some (.object entries)⟩ =
      match (Platform.standard.submission (.object entries)).under (.key "body") with
      | .error issues => ⟨422, some (.issues issues)⟩
      | .ok submission => (handle submission).response :=
  responseTo_of_declares h (some (.object entries))

/-- The body of accounts and an instruction is validated account by account. -/
theorem Platform.standard_submission (items : List Value) (instruction : String) :
    Platform.standard.submission (posted items instruction) =
      Checked.apply (((Checked.every Platform.standard.item items).under (.key "accounts")).map
        Submission.mk) (.ok instruction) := rfl

/-- The platform that the service runs on does what is documented. -/
theorem Platform.standard_isDocumented : standard.IsDocumented where
  item_eq_ok_iff _ _ := Account.ofValue_eq_ok_iff_of_shape .notFields (.notRecord "Account")
  item_object _ := rfl
  item_ne_error_nil := Account.ofValue_ne_error_nil .notFields
  submission_of_valid items accounts instruction h := by
    have hevery : Checked.every standard.item items = .ok accounts :=
      Checked.everyFrom_eq_ok_iff.2 h
    rw [standard_submission, hevery]
    rfl
  submission_of_invalid items instruction h := by
    rw [standard_submission, Checked.every_eq_error h]
    simp [Checked.under, Except.map, Checked.apply, Checked.issues]
  serve_invalid routes path handle entries issues hdeclares _ hbody := by
    rw [standard_serve hdeclares, hbody]
    rfl
  serve_raised routes path handle entries submission status text hdeclares _ hbody hhandle _ := by
    rw [standard_serve hdeclares, hbody]
    show (handle submission).response = _
    rw [hhandle]
    rfl
  serve_returned routes path handle entries submission status outcome hdeclares _ hbody hhandle
      _ _ := by
    rw [standard_serve hdeclares, hbody]
    show (handle submission).response = _
    rw [hhandle]
    rfl

end Service

end Remittance
