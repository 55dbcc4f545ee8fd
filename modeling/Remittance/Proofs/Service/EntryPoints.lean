import Remittance.Proofs.Service.Platform
import Remittance.Proofs.Settlement.Supplied

/-!
# The ways to settle an instruction

An instruction is settled with supplied accounts directly, or by a call to the service. The service
validates all values where the direct way stops at the first invalid one, and still its response
`Mirrors` the direct answer (`entry_points_agree`). This holds on any platform that does what is
documented.
-/

namespace Remittance.Service

open Settlement (processWith StandsFor FirstInvalid)

/-- The call to settle an instruction. -/
def Call.posting (items : List Value) (instruction : String) : Call where
  method := "POST"
  path := "/payment-instructions"
  body := some (posted items instruction)

/-- A body can be sent when its accounts can. -/
theorem posted_isSendable {items : List Value} (h : (Value.list items).IsSendable)
    (instruction : String) : (posted items instruction).IsSendable := by
  have hscalars : (posted items instruction).scalars =
      (Value.list items).scalars ++ [.text instruction] := by
    simp [posted, Value.scalars, Value.entryScalars]
  constructor
  · intro number hmem
    rw [hscalars, List.mem_append, List.mem_singleton] at hmem
    exact h.integers number (hmem.resolve_right nofun)
  · intro number hmem
    rw [hscalars, List.mem_append, List.mem_singleton] at hmem
    exact h.doubles number (hmem.resolve_right nofun)

/-! ## What is reported of invalid accounts -/

/-- The issues of the accounts in a body, as they are seen from the request. -/
def inBody (found : List Issue) : List Issue :=
  (found.map (Issue.under (.key "accounts"))).map (Issue.under (.key "body"))

/-- The path from a request to one of the accounts in its body. -/
def accountPath (position : Nat) : List PathStep :=
  [.key "body", .key "accounts", .index position]

/-- The details are those of accounts of which the first invalid one is at this position. -/
structure Details (position : Nat) (details : List Issue) : Prop where
  here : ∃ issue ∈ details, (issue.behind? (accountPath position)).isSome
  behind : ∀ issue ∈ details,
    ∃ place, position ≤ place ∧ (issue.behind? (accountPath place)).isSome

/-- An issue of an account is found behind the path to it. -/
theorem behind?_accountPath (position : Nat) (inner : Issue) :
    ((((inner.under (.index position)).under (.key "accounts")).under (.key "body")).behind?
      (accountPath position)) = some inner := by
  simp only [accountPath, Issue.behind?_under, Issue.behind?_nil]

variable {platform : Platform} {items : List Value} {instruction : String}
  {now : Calendar.Instant} {today : Calendar.Date}

/-- The first invalid account is none as an item of a list either. -/
theorem item_ne_ok_of_firstInvalid (hdoc : platform.IsDocumented) {before : List Value}
    {item : Value} {issues : List Issue}
    (h : FirstInvalid platform.account items before item issues) (account : Account) :
    platform.item item ≠ .ok account := by
  intro haccount
  rw [hdoc.item_eq_ok_iff, h.refused] at haccount
  cases haccount

/-- What is reported of items that are not all accounts begins with the first that is none. If that
is an object, what is reported at its position are its issues. -/
theorem details_of_firstInvalid (hdoc : platform.IsDocumented) {before : List Value} {item : Value}
    {issues : List Issue} (h : FirstInvalid platform.account items before item issues) :
    Details before.length (inBody (Checked.listed platform.item items)) ∧
      ∀ entries, item = .object entries →
        (inBody (Checked.listed platform.item items)).filterMap
          (Issue.behind? (accountPath before.length)) = issues := by
  have hitem := item_ne_ok_of_firstInvalid hdoc h
  obtain ⟨⟨rest, rfl⟩, hvalid, hrefused⟩ := h
  have hbefore : ∀ earlier ∈ before, ∃ account, platform.item earlier = .ok account :=
    fun earlier hmem => (hvalid earlier hmem).imp fun _ => (hdoc.item_eq_ok_iff _ _).2
  refine ⟨⟨?_, ?_⟩, ?_⟩
  · obtain ⟨own, hown⟩ : ∃ own, platform.item item = .error own := by
      cases hown : platform.item item with
      | error own => exact ⟨own, rfl⟩
      | ok account => exact absurd hown (hitem account)
    have hne : own ≠ [] := by
      rintro rfl
      exact hdoc.item_ne_error_nil _ hown
    obtain ⟨inner, hinner⟩ := List.exists_mem_of_ne_nil own hne
    refine ⟨_, List.mem_map_of_mem (List.mem_map_of_mem ?_),
      Option.isSome_of_eq_some (behind?_accountPath before.length inner)⟩
    rw [Checked.listed_of_valid hbefore, Checked.entryIssues, hown]
    exact List.mem_append_left _ (List.mem_map_of_mem hinner)
  · simp only [inBody, List.forall_mem_map]
    intro issue hmem
    obtain ⟨place, inner, hplace, rfl⟩ := Checked.exists_of_mem_listed hbefore hmem
    exact ⟨place, hplace, Option.isSome_of_eq_some (behind?_accountPath place inner)⟩
  · rintro entries rfl
    rw [accountPath, inBody, Issue.filterMap_behind?_under, Issue.filterMap_behind?_under,
      Checked.filterMap_listed hbefore, hdoc.item_object, hrefused]
    rfl

/-! ## Responses to a posted instruction -/

/-- The response to an instruction with this answer. -/
def Response.ofAnswer : Except Fault Outcome → Response
  | .error fault => ⟨500, some (.detail ("Failed to process instruction: " ++ fault.message))⟩
  | .ok outcome => ⟨if outcome.status = .failed then 400 else 200, some (.outcome outcome)⟩

/-- The issues of all items are reported if one of them is no account. -/
theorem serve_of_invalid (hdoc : platform.IsDocumented) (hsendable : (Value.list items).IsSendable)
    {before : List Value} {item : Value} {issues : List Issue}
    (h : FirstInvalid platform.account items before item issues) :
    platform.serve (routes platform.account now) (.posting items instruction) =
      ⟨422, some (.issues (inBody (Checked.listed platform.item items)))⟩ := by
  have hitem := item_ne_ok_of_firstInvalid hdoc h
  obtain ⟨⟨rest, rfl⟩, -, -⟩ := h
  have hmem : item ∈ before ++ item :: rest :=
    List.mem_append_right before List.mem_cons_self
  have hbody := hdoc.submission_of_invalid _ instruction ⟨item, hmem, hitem⟩
  exact hdoc.serve_invalid _ _ _ _ _ (declares_routes platform.account now)
    (posted_isSendable hsendable instruction) hbody

/-- A submission of valid accounts is settled on the day of the call. -/
theorem answer_eq (hdate : now.utcDate = .ok today) (validate : Value → Checked Account)
    (accounts : List Account) (instruction : String) :
    answer validate now ⟨accounts, instruction⟩ =
      (Settlement.settle accounts instruction today).answer := by
  rw [answer, hdate]
  exact congrArg _ (Settlement.processWith_accounts accounts (.text instruction) today)

/-- Valid accounts are settled with the instruction on the day of the call. -/
theorem serve_of_valid (hdoc : platform.IsDocumented) (hsendable : (Value.list items).IsSendable)
    (hdate : now.utcDate = .ok today) {accounts : List Account}
    (hread : items.mapM platform.account = .ok accounts)
    (hreport : ∀ outcome, (Settlement.settle accounts instruction today).answer = .ok outcome →
      Reportable outcome) :
    platform.serve (routes platform.account now) (.posting items instruction) =
      .ofAnswer (Settlement.settle accounts instruction today).answer := by
  have hbody : platform.submission (posted items instruction) = .ok ⟨accounts, instruction⟩ := by
    refine hdoc.submission_of_valid _ _ _ ?_
    simpa only [hdoc.item_eq_ok_iff] using Checked.mapM_eq_ok_iff.1 hread
  have hanswer := answer_eq hdate platform.account accounts instruction
  have hposted := posted_isSendable hsendable instruction
  cases hsettle : (Settlement.settle accounts instruction today).answer with
  | error fault =>
      refine hdoc.serve_raised _ _ _ _ _ _ _ (declares_routes _ _) hposted hbody ?_ (by decide)
      simp only [handle, hanswer, hsettle]
  | ok outcome =>
      have hhandle : handle platform.account now ⟨accounts, instruction⟩ =
          .returned (if outcome.status = .failed then some 400 else none) outcome := by
        simp only [handle, hanswer, hsettle]
      have herror : ∀ code ∈ if outcome.status = .failed then some 400 else none,
          IsErrorStatus code := by
        split <;> simp [IsErrorStatus]
      refine (hdoc.serve_returned _ _ _ _ _ _ _ (declares_routes _ _) hposted hbody hhandle herror
        (hreport outcome hsettle)).trans ?_
      rw [Response.ofAnswer]
      split <;> rfl

/-- The response to an instruction that is posted with the items says what the answer says. Its
status number tells the kind of answer. Its reply is the outcome or the message of the fault, and
for invalid items it is the issues of all of them. -/
structure Mirrors (validate : Value → Checked Account) (items : List Value)
    (answer : Except Fault Outcome) (response : Response) : Prop where
  invalid : response.status = 422 ↔ ∃ issues, answer = .error (.invalid issues)
  details : ∀ before item issues, FirstInvalid validate items before item issues →
    ∃ details, response.reply = some (.issues details) ∧ Details before.length details ∧
      ∀ entries, item = .object entries →
        details.filterMap (Issue.behind? (accountPath before.length)) = issues
  fault : response.status = 500 ↔
    ∃ fault, answer = .error fault ∧ ∀ issues, fault ≠ .invalid issues
  message : ∀ fault, answer = .error fault → (∀ issues, fault ≠ .invalid issues) →
    response.reply = some (.detail ("Failed to process instruction: " ++ fault.message))
  failed : response.status = 400 ↔ ∃ outcome, answer = .ok outcome ∧ outcome.status = .failed
  passed : response.status = 200 ↔ ∃ outcome, answer = .ok outcome ∧ outcome.status ≠ .failed
  outcome : ∀ outcome, answer = .ok outcome → response.reply = some (.outcome outcome)

/-- The response to invalid accounts mirrors the refusal of the first of them. -/
theorem mirrors_of_invalid (hdoc : platform.IsDocumented) (issues : List Issue) :
    Mirrors platform.account items (.error (.invalid issues))
      ⟨422, some (.issues (inBody (Checked.listed platform.item items)))⟩ where
  invalid := iff_of_true rfl ⟨issues, rfl⟩
  details _ _ _ hfirst := ⟨_, rfl, details_of_firstInvalid hdoc hfirst⟩
  fault := by
    refine iff_of_false (by decide : 422 ≠ 500) ?_
    rintro ⟨fault, hfault, hnot⟩
    cases hfault
    exact hnot issues rfl
  message := by
    rintro fault hfault hnot
    cases hfault
    exact absurd rfl (hnot issues)
  failed := iff_of_false (by decide : 422 ≠ 400) fun ⟨_, hnot, _⟩ => nomatch hnot
  passed := iff_of_false (by decide : 422 ≠ 200) fun ⟨_, hnot, _⟩ => nomatch hnot
  outcome _ hnot := nomatch hnot

variable {validate : Value → Checked Account} {accounts : List Account}

/-- The response to valid accounts and an instruction without an answer mirrors the fault. -/
theorem mirrors_of_fault (h : items.mapM validate = .ok accounts) {fault : Fault}
    (hfault : ∀ issues, fault ≠ .invalid issues) :
    Mirrors validate items (.error fault) (.ofAnswer (.error fault)) where
  invalid := by
    refine iff_of_false (by decide : 500 ≠ 422) ?_
    rintro ⟨issues, hinvalid⟩
    cases hinvalid
    exact hfault issues rfl
  details _ _ _ hfirst := absurd hfirst (Settlement.not_firstInvalid h)
  fault := iff_of_true rfl ⟨fault, rfl, hfault⟩
  message := by
    rintro _ hsame -
    cases hsame
    rfl
  failed := iff_of_false (by decide : 500 ≠ 400) fun ⟨_, hnot, _⟩ => nomatch hnot
  passed := iff_of_false (by decide : 500 ≠ 200) fun ⟨_, hnot, _⟩ => nomatch hnot
  outcome _ hnot := nomatch hnot

/-- The response to valid accounts and an instruction with an answer mirrors the outcome. -/
theorem mirrors_of_outcome (h : items.mapM validate = .ok accounts) (outcome : Outcome) :
    Mirrors validate items (.ok outcome) (.ofAnswer (.ok outcome)) := by
  have hstatus : (Response.ofAnswer (.ok outcome)).status =
      if outcome.status = .failed then 400 else 200 := rfl
  have hother : ∀ status ∈ [422, 500], (Response.ofAnswer (.ok outcome)).status ≠ status := by
    rw [hstatus]
    split <;> decide
  exact
    { invalid := iff_of_false (hother 422 (by decide)) fun ⟨_, hnot⟩ => nomatch hnot
      details := fun _ _ _ hfirst => absurd hfirst (Settlement.not_firstInvalid h)
      fault := iff_of_false (hother 500 (by decide)) fun ⟨_, hnot, _⟩ => nomatch hnot
      message := fun _ hnot => nomatch hnot
      failed := by
        rw [hstatus]
        by_cases hfailed : outcome.status = .failed <;> simp [hfailed]
      passed := by
        rw [hstatus]
        by_cases hfailed : outcome.status = .failed <;> simp [hfailed]
      outcome := by
        rintro _ hsame
        cases hsame
        rfl }

/-- The response to posted accounts and an instruction mirrors the direct answer. -/
theorem serve_mirrors (hdoc : platform.IsDocumented) (hsendable : (Value.list items).IsSendable)
    (hdate : now.utcDate = .ok today)
    (hreport : ∀ outcome,
      (processWith platform.account (items.map .value) (.text instruction) today).answer =
        .ok outcome → Reportable outcome) :
    Mirrors platform.account items
      (processWith platform.account (items.map .value) (.text instruction) today).answer
      (platform.serve (routes platform.account now) (.posting items instruction)) := by
  cases hread : items.mapM platform.account with
  | error issues =>
      obtain ⟨before, item, hfirst⟩ := Settlement.mapM_validate_eq_error_iff.1 hread
      rw [Settlement.processWith_eq_of_invalid hread, serve_of_invalid hdoc hsendable hfirst]
      exact mirrors_of_invalid hdoc issues
  | ok accounts =>
      have hsettle : processWith platform.account (items.map .value) (.text instruction) today =
          Settlement.settle accounts instruction today :=
        Settlement.processWith_eq_of_valid hread (.text instruction) today
      rw [hsettle] at hreport ⊢
      rw [serve_of_valid hdoc hsendable hdate hread hreport]
      cases hanswer : (Settlement.settle accounts instruction today).answer with
      | error fault =>
          refine mirrors_of_fault hread fun issues hinvalid => ?_
          exact Settlement.settle_ne_invalid accounts instruction today issues (hinvalid ▸ hanswer)
      | ok outcome => exact mirrors_of_outcome hread outcome

end Remittance.Service
