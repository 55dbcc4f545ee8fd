import Remittance.Proofs.Service.EntryPoints

/-!
# What clients get

A client names the service by an address and reads a reply in the body of the response. Its request
to settle an instruction arrives as the call to settle it (`respond_posting`), and it can read the
response, which mirrors the direct answer (`respond_mirrors`).
-/

namespace Remittance.Service

variable {items : List Value} {instruction : String} {now : Calendar.Instant}
  {today : Calendar.Date}

/-- A text without a percent sign holds no escape. -/
theorem Address.decode_of_not_mem {text : List Char} (h : '%' ∉ text) : decode text = text := by
  induction text with
  | nil => simp [decode]
  | cons c rest ih =>
      rw [List.mem_cons, not_or] at h
      rw [decode]
      · rw [ih h.2]
      · rintro high low behind rfl -
        exact absurd rfl h.1

/-- The request to settle an instruction. -/
def Request.posting (items : List Value) (instruction : String) : Request where
  method := "POST"
  address := "/payment-instructions"
  body := some (posted items instruction)

/-- The request to settle an instruction arrives as the call to settle it. -/
theorem respond_posting (h : (Value.list items).IsSendable) :
    respond (.posting items instruction) now =
      .ok (Platform.standard.serve (routes Platform.standard.account now)
        (.posting items instruction)) := by
  have haddress : Address.ofText "/payment-instructions".toList =
      .ok ⟨[], [], [], none, "/payment-instructions".toList⟩ := by rfl
  have hdestination : Address.destination ⟨[], [], [], none, "/payment-instructions".toList⟩ =
      .ok "/payment-instructions".toList := by
    have hplain : '%' ∉ "/payment-instructions".toList := by decide
    show Except.ok (Address.decode (Address.decode "/payment-instructions".toList)) = _
    rw [Address.decode_of_not_mem hplain, Address.decode_of_not_mem hplain]
  have hbody := Value.bodyFault?_eq_none_iff.2 (posted_isSendable h instruction)
  have hpath : (Request.posting items instruction).path = .ok "/payment-instructions".toList := by
    simp only [Request.path, Request.posting, haddress, hdestination, Option.bind_some, hbody]
  have hmethod : Text.upperCase "POST" = "POST" := by rfl
  rw [respond, hpath, Except.map, String.ofList_toList]
  show Except.ok (Platform.standard.serve _ ⟨Text.upperCase "POST", _, _⟩) = _
  rw [hmethod]
  rfl

/-- A client reads the reply of a response if its integers have few enough digits. -/
theorem content_eq_reply {response : Response} {reply : Reply} (h : response.reply = some reply)
    (hfits : ∀ number ∈ reply.integers, fitsText number = true) : response.content = .ok reply := by
  have hnone : reply.integers.find? (!fitsText ·) = none := by
    rw [List.find?_eq_none]
    intro number hmem
    simp [hfits number hmem]
  simp only [Response.content, h, hnone]

/-- A client that asks to settle an instruction gets a response that it can read, and that mirrors
the direct answer. -/
theorem respond_mirrors (hsendable : (Value.list items).IsSendable)
    (hdate : now.utcDate = .ok today)
    (hreport : ∀ outcome,
      (Settlement.process (items.map .value) (.text instruction) today).answer = .ok outcome →
        Reportable outcome) :
    ∃ response reply, respond (.posting items instruction) now = .ok response ∧
      response.content = .ok reply ∧ response.reply = some reply ∧
      Mirrors Platform.standard.account items
        (Settlement.process (items.map .value) (.text instruction) today).answer response := by
  have hmirrors := serve_mirrors Platform.standard_isDocumented hsendable hdate hreport
  obtain ⟨reply, hreply, hfits⟩ : ∃ reply,
      (Platform.standard.serve (routes Platform.standard.account now)
        (.posting items instruction)).reply = some reply ∧
      ∀ number ∈ reply.integers, fitsText number = true := by
    cases hanswer : (Settlement.process (items.map .value) (.text instruction)
        today).answer with
    | ok outcome => exact ⟨_, hmirrors.outcome outcome hanswer, hreport outcome hanswer⟩
    | error fault =>
        by_cases hinvalid : ∃ issues, fault = .invalid issues
        · obtain ⟨issues, rfl⟩ := hinvalid
          obtain ⟨before, item, hfirst⟩ := (Settlement.answer_eq_invalid_iff _ _).1 hanswer
          obtain ⟨details, hdetails, -⟩ := hmirrors.details before item issues hfirst
          exact ⟨_, hdetails, nofun⟩
        · exact ⟨_, hmirrors.message fault hanswer (not_exists.1 hinvalid), nofun⟩
  exact ⟨_, reply, respond_posting hsendable, content_eq_reply hreply hfits, hreply, hmirrors⟩

end Remittance.Service
