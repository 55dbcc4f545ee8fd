import Remittance.Proofs.Account.Ids
import Remittance.Proofs.Settlement.Currencies
import Remittance.Proofs.Validation.Lists

/-!
# What the log holds of an instruction

Invalid accounts leave nothing in the log, a text that is no instruction leaves one record, and an
instruction leaves one record when it is recognized and one more when it is answered. The last one
`Closes` the outcome: it repeats no word of the text except the ids of an accepted instruction,
which are valid. So every record is printable ASCII, whatever was supplied (`process_journals`).
-/

namespace Remittance

namespace Text

/-- The text holds only the printable characters of ASCII, among them the space. -/
def IsPrintableAscii (text : String) : Prop :=
  ∀ c ∈ text.toList, 0x20 ≤ c.toNat ∧ c.toNat ≤ 0x7E

instance : DecidablePred IsPrintableAscii := fun text =>
  List.decidableBAll (fun c : Char => 0x20 ≤ c.toNat ∧ c.toNat ≤ 0x7E) text.toList

theorem isPrintableAscii_append {first rest : String} :
    IsPrintableAscii (first ++ rest) ↔ IsPrintableAscii first ∧ IsPrintableAscii rest := by
  simp only [IsPrintableAscii, String.toList_append, List.forall_mem_append]

end Text

open Text

theorem Directive.isPrintableAscii_name (directive : Directive) :
    IsPrintableAscii directive.name := by
  cases directive <;> decide

theorem Status.isPrintableAscii_name (status : Status) : IsPrintableAscii status.name := by
  cases status <;> decide

theorem Code.isPrintableAscii_name (code : Code) : IsPrintableAscii code.name := by
  cases code <;> decide

theorem Code.isPrintableAscii_reason (code : Code) : IsPrintableAscii code.reason := by
  cases code <;> decide

/-- An id is printable when it is valid. -/
theorem Account.isPrintableAscii_of_isId {id : String} (h : isId id = true) :
    IsPrintableAscii id := by
  intro c hc
  have hne : id ≠ "" := by
    rintro rfl
    cases hc
  obtain ⟨hfirst, hlast⟩ := ((isId_iff hne).1 h).visible c hc
  exact ⟨Nat.le_trans (by decide) hfirst, hlast⟩

namespace Journal.Record

/-- The record of an instruction that is recognized is printable. -/
theorem isPrintableAscii_recognized (directive : Directive) :
    IsPrintableAscii (recognized directive).text := by
  show IsPrintableAscii ("Instruction matched " ++ directive.name ++ " grammar")
  simp only [isPrintableAscii_append, directive.isPrintableAscii_name, and_true]
  decide

/-- The record of a refusal for the fixed reason of a code is printable. -/
theorem isPrintableAscii_rejected (directive : Directive) (code : Code) :
    IsPrintableAscii (rejected directive code code.reason).text := by
  show IsPrintableAscii (directive.name ++ " instruction rejected: " ++ code.name ++ " (" ++
    code.reason ++ ")")
  simp only [isPrintableAscii_append, directive.isPrintableAscii_name,
    code.isPrintableAscii_name, code.isPrintableAscii_reason, true_and, and_true]
  decide

/-- The record of an accepted instruction is printable when its ids are. -/
theorem isPrintableAscii_accepted (directive : Directive) (status : Status) (code : Code)
    {debit credit : String} (hdebit : IsPrintableAscii debit) (hcredit : IsPrintableAscii credit) :
    IsPrintableAscii (accepted directive status code debit credit).text := by
  show IsPrintableAscii (directive.name ++ " instruction " ++ status.name ++ ": " ++ code.name ++
    " (" ++ debit ++ " -> " ++ credit ++ ")")
  simp only [isPrintableAscii_append, directive.isPrintableAscii_name,
    status.isPrintableAscii_name, code.isPrintableAscii_name, hdebit, hcredit, true_and, and_true]
  decide

/-- The record of an outcome is one of information. -/
theorem level_ofOutcome (order : Instruction) (outcome : Outcome) :
    (ofOutcome order outcome).level = "INFO" := by
  unfold ofOutcome
  split <;> rfl

end Journal.Record

namespace Settlement

open Journal (Record)

variable {accounts : List Account} {text : String} {today : Calendar.Date} {outcome : Outcome}

/-- `Closes outcome record` says that the record reports the outcome. Its text is made of the
directive and the code if the instruction is refused, and of these, the status, and the two ids if
it is accepted. -/
inductive Closes (outcome : Outcome) : Record → Prop where
  | rejected (directive) :
      outcome.status = .failed → outcome.fields.directive = some directive →
      Closes outcome (.rejected directive outcome.code outcome.code.reason)
  | accepted (directive debit credit) :
      outcome.code ∈ acceptedCodes → outcome.fields.directive = some directive →
      outcome.fields.debitId = some debit → outcome.fields.creditId = some credit →
      Closes outcome (.accepted directive outcome.status outcome.code debit credit)

/-- The outcome of an instruction repeats the instruction. -/
theorem Settles.fields_of_some {order : Instruction} (h : Settles accounts text today outcome)
    (horder : Instruction.parse? text = some order) :
    ∃ amount, outcome.fields = Fields.ofInstruction order amount none := by
  rcases h.fields with ⟨hnone, -⟩ | ⟨order', amount, horder', hfields⟩
  · exact nomatch hnone.symm.trans horder
  · obtain rfl : order' = order := Option.some.inj (horder'.symm.trans horder)
    exact ⟨amount, hfields⟩

/-- The record of an instruction that is answered closes its outcome. -/
theorem Settles.closes {order : Instruction} (h : Settles accounts text today outcome)
    (horder : Instruction.parse? text = some order) :
    Closes outcome (.ofOutcome order outcome) := by
  obtain ⟨hstatus, hreason⟩ := h.status_reason
  obtain ⟨amount, hfields⟩ := h.fields_of_some horder
  unfold Record.ofOutcome
  split
  · rename_i hfailed
    rw [hreason]
    exact .rejected _ hfailed (by rw [hfields]; rfl)
  · rename_i hfailed
    have haccepted : ∀ code : Code, code.status ≠ .failed → code ∈ acceptedCodes := by
      intro code hcode
      cases code <;> first | exact absurd rfl hcode | decide
    exact .accepted _ _ _ (haccepted _ (hstatus ▸ hfailed)) (by rw [hfields]; rfl)
      (by rw [hfields]; rfl) (by rw [hfields]; rfl)

/-- The record that closes an outcome is printable: the ids of an accepted instruction have passed
the check on ids. -/
theorem Closes.isPrintableAscii {record : Record} (h : Closes outcome record)
    (hsettles : Settles accounts text today outcome) : IsPrintableAscii record.text := by
  cases h with
  | rejected directive => exact Record.isPrintableAscii_rejected directive outcome.code
  | accepted directive debit credit hcode hdirective hdebit hcredit =>
      obtain ⟨order, _, _, horder, hadmissible⟩ := hsettles.accepted hcode
      obtain ⟨amount, hfields⟩ := hsettles.fields_of_some horder
      rw [hfields] at hdebit hcredit
      obtain rfl : order.debitId = debit := Option.some.inj hdebit
      obtain rfl : order.creditId = credit := Option.some.inj hcredit
      exact Record.isPrintableAscii_accepted _ _ _
        (Account.isPrintableAscii_of_isId hadmissible.debit_valid)
        (Account.isPrintableAscii_of_isId hadmissible.credit_valid)

/-- The records of a report are complete and printable. Here `valid` says that the supplied accounts
are valid, and `text` is the one that is settled. -/
structure Journals (valid : Prop) (text : String) (report : Report) : Prop where
  refused : ¬valid → report.records = [] ∧ ∃ fault, report.answer = .error fault
  unreadable : valid → Instruction.parse? text = none → report.answer = .ok .unreadable
  malformed : ∀ outcome, report.answer = .ok outcome → outcome.code = .malformed →
    ∃ record, report.records = [record] ∧ record.level = "INFO" ∧
      record.text = "Instruction rejected: SY03"
  recognized : valid → ∀ order, Instruction.parse? text = some order →
    ∃ first later, report.records = first :: later ∧ first.level = "DEBUG" ∧
      first.text = "Instruction matched " ++ order.directive.name ++ " grammar" ∧
      (∀ fault, report.answer = .error fault → later = []) ∧
      ∀ outcome, report.answer = .ok outcome →
        ∃ record, later = [record] ∧ record.level = "INFO" ∧ Closes outcome record
  printable : ∀ record ∈ report.records, IsPrintableAscii record.text

/-- A refusal of the accounts leaves nothing in the log. -/
theorem Journals.of_refusal {valid : Prop} (hvalid : ¬valid) (text : String) (fault : Fault) :
    Journals valid text ⟨[], .error fault⟩ where
  refused _ := ⟨rfl, fault, rfl⟩
  unreadable h := absurd h hvalid
  malformed _ hanswer := nomatch hanswer
  recognized h := absurd h hvalid
  printable _ hmem := nomatch hmem

/-- A text that is no instruction leaves one record. -/
theorem Journals.of_unreadable {valid : Prop} (hvalid : valid)
    (horder : Instruction.parse? text = none) :
    Journals valid text ⟨[.unreadable], .ok .unreadable⟩ where
  refused h := absurd hvalid h
  unreadable _ _ := rfl
  malformed _ _ _ := ⟨.unreadable, rfl, rfl, rfl⟩
  recognized _ order hsome := nomatch horder.symm.trans hsome
  printable := List.forall_mem_singleton.2 (by decide)

/-- An instruction without an answer leaves the record that it is recognized. -/
theorem Journals.of_fault {valid : Prop} (hvalid : valid) {order : Instruction}
    (horder : Instruction.parse? text = some order) (fault : Fault) :
    Journals valid text ⟨[.recognized order.directive], .error fault⟩ where
  refused h := absurd hvalid h
  unreadable _ hnone := nomatch horder.symm.trans hnone
  malformed _ hanswer := nomatch hanswer
  recognized := by
    rintro - _ hsome
    cases horder.symm.trans hsome
    exact ⟨_, _, rfl, rfl, rfl, fun _ _ => rfl, fun _ hanswer => nomatch hanswer⟩
  printable := List.forall_mem_singleton.2 (Record.isPrintableAscii_recognized _)

/-- An instruction with an answer leaves one more record, which closes the outcome. -/
theorem Journals.of_outcome {valid : Prop} (hvalid : valid) {order : Instruction}
    (horder : Instruction.parse? text = some order)
    (hsettles : Settles accounts text today outcome) :
    Journals valid text
      ⟨[.recognized order.directive, .ofOutcome order outcome], .ok outcome⟩ where
  refused h := absurd hvalid h
  unreadable _ hnone := nomatch horder.symm.trans hnone
  malformed := by
    rintro _ hanswer hcode
    cases hanswer
    exact nomatch horder.symm.trans (hsettles.parse?_eq_none hcode)
  recognized := by
    rintro - _ hsome
    cases horder.symm.trans hsome
    refine ⟨_, _, rfl, rfl, rfl, (fun _ hanswer => nomatch hanswer), ?_⟩
    rintro _ hanswer
    cases hanswer
    exact ⟨_, rfl, Record.level_ofOutcome order outcome, hsettles.closes horder⟩
  printable := List.forall_mem_cons.2 ⟨Record.isPrintableAscii_recognized _,
    List.forall_mem_singleton.2 ((hsettles.closes horder).isPrintableAscii hsettles)⟩

/-- Settling a text against valid accounts leaves complete and printable records. -/
theorem Journals.of_settle {valid : Prop} (hvalid : valid) (accounts : List Account)
    (text : String) (today : Calendar.Date) : Journals valid text (settle accounts text today) := by
  cases horder : Instruction.parse? text with
  | none =>
      simp only [settle, horder]
      exact .of_unreadable hvalid horder
  | some order =>
      cases hjudge : judge order accounts today with
      | error fault =>
          simp only [settle, horder, hjudge]
          exact .of_fault hvalid horder fault
      | ok outcome =>
          have hsettles : Settles accounts text today outcome :=
            settles_iff.1 (by rw [settle_answer, horder]; exact hjudge)
          simp only [settle, horder, hjudge]
          exact .of_outcome hvalid horder hsettles

/-- Supplied accounts are valid when each of them is. -/
theorem Journals.of_process {validate : Value → Checked Account} {valid : Prop}
    {entries : List Entry}
    (hvalid : valid ↔ ∀ entry ∈ entries, ∃ account, entry.read validate = .ok account)
    (instruction : Value) (today : Calendar.Date) :
    Journals valid instruction.asText (processWith validate entries instruction today) := by
  rw [← Checked.exists_mapM_eq_ok_iff] at hvalid
  unfold processWith
  cases hread : entries.mapM (Entry.read validate) with
  | error issues =>
      refine .of_refusal (fun h => ?_) _ _
      obtain ⟨accounts, haccounts⟩ := hvalid.1 h
      exact nomatch hread.symm.trans haccounts
  | ok accounts => exact .of_settle (hvalid.2 ⟨accounts, hread⟩) _ _ _

/-- Whatever is supplied as accounts and as an instruction, however a value is validated as an
account, and whatever the day is, the records of settling the instruction are complete and
printable. The accounts may be entries or one value, which is to stand for valid accounts. -/
theorem process_journals (validate : Value → Checked Account) (instruction : Value)
    (today : Calendar.Date) :
    (∀ entries, Journals (∀ entry ∈ entries, ∃ account, entry.read validate = .ok account)
      instruction.asText (processWith validate entries instruction today)) ∧
    ∀ accounts, Journals
      (∃ items, Field.items accounts = .ok items ∧
        ∀ item ∈ items, ∃ account, validate item = .ok account)
      instruction.asText (processValueWith validate accounts instruction today) := by
  refine ⟨fun entries => .of_process Iff.rfl instruction today, fun accounts => ?_⟩
  unfold processValueWith
  cases hitems : Field.items accounts with
  | error fault => exact .of_refusal (fun ⟨items, hnot, _⟩ => nomatch hnot) _ _
  | ok items =>
      refine .of_process ?_ instruction today
      simp only [Except.ok.injEq, exists_eq_left', List.forall_mem_map, Entry.read]

/-- A line separator in an id does not come into the log. -/
theorem process_journals_line_separator :
    let entries : List Entry :=
      [.value (.object [("id", .text "a"), ("balance", .text "7"), ("currency", .text "USD")]),
        .account ⟨"b", 0, "USD"⟩]
    let instruction : Value :=
      .text "DEBIT 5 USD FROM ACCOUNT a\u2028INFO FOR CREDIT TO ACCOUNT b"
    let report := process entries instruction ⟨2026, 1, 15, by decide⟩
    report.records.map Record.text =
        ["Instruction matched DEBIT grammar",
          "DEBIT instruction rejected: AC04 (Invalid account ID format)"] ∧
      Journals (∀ entry ∈ entries,
        ∃ account, entry.read (Account.ofValue (.notRecord "Account")) = .ok account)
        instruction.asText report := by
  have htexts : (process
      [.value (.object [("id", .text "a"), ("balance", .text "7"), ("currency", .text "USD")]),
        .account ⟨"b", 0, "USD"⟩]
      (.text "DEBIT 5 USD FROM ACCOUNT a\u2028INFO FOR CREDIT TO ACCOUNT b")
      ⟨2026, 1, 15, by decide⟩).records.map Record.text =
        ["Instruction matched DEBIT grammar",
          "DEBIT instruction rejected: AC04 (Invalid account ID format)"] := by rfl
  intro entries instruction report
  exact ⟨htexts, (process_journals (Account.ofValue (.notRecord "Account")) instruction _).1 entries⟩

end Settlement

end Remittance
