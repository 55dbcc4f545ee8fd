import Remittance.Proofs.Ledger.Runs
import Remittance.Proofs.Settlement.Footprint

/-!
# Independent steps

Two steps are independent when neither debits an account that the other one names. Each then comes
to its verdict whether the other has been taken or not, since what the other posts can only change
the account to be credited, whose balance no verdict reads. `independent_commute` says that such
steps may be taken in either order.
-/

namespace Remittance.Ledger

/-- Where both steps hold an instruction, neither debits an id that the other one names. -/
def Independent (first second : Step) : Prop :=
  ∀ order other, Instruction.parse? first.instruction = some order →
    Instruction.parse? second.instruction = some other →
    order.debitId ∉ [other.debitId, other.creditId] ∧
      other.debitId ∉ [order.debitId, order.creditId]

/-- Where both steps hold an instruction, they credit different ids. -/
def CreditApart (first second : Step) : Prop :=
  ∀ order other, Instruction.parse? first.instruction = some order →
    Instruction.parse? second.instruction = some other → order.creditId ≠ other.creditId

theorem Independent.symm {first second : Step} (h : Independent first second) :
    Independent second first :=
  fun order other horder hother => (h other order hother horder).symm

theorem CreditApart.symm {first second : Step} (h : CreditApart first second) :
    CreditApart second first :=
  fun order other horder hother => (h other order hother horder).symm

/-- The change of the balance of an id that an answer posts. -/
def posted (answer : Except Fault Outcome) (id : String) : Int :=
  moved Fields.creditId id answer - moved Fields.debitId id answer

section Post

variable {accounts : List Account} {change : String → Int} {id : String}

/-- A posting leaves the accounts in their places. -/
theorem place_post (change : String → Int) (accounts : List Account) (id : String) :
    Account.place (post change accounts) id = Account.place accounts id := by
  have hids : ∀ accounts : List Account,
      Account.place accounts id = (accounts.map (·.id)).findIdx (· == id) := by
    intro accounts
    rw [List.findIdx_map]
    rfl
  rw [hids, hids, map_id_post]

/-- The snapshot of an account that nothing is posted to stays the same. -/
theorem of?_post (h : change id = 0) :
    Snapshot.of? (post change accounts) id = Snapshot.of? accounts id := by
  simp [Snapshot.of?, find?_post, h]

/-- A posting changes no currency. -/
theorem of?_post_currency (change : String → Int) (accounts : List Account) (id : String) :
    (Snapshot.of? (post change accounts) id).map (·.currency) =
      (Snapshot.of? accounts id).map (·.currency) := by
  simp [Snapshot.of?, find?_post, Snapshot.ofAccount, Function.comp_def]

end Post

variable {accounts : List Account} {change : String → Int} {first second step : Step}

/-- A posting that does not change the debit account of a step changes its answer in the snapshots
at most. -/
theorem answer_post_withoutSnapshots
    (h : ∀ order, Instruction.parse? step.instruction = some order → change order.debitId = 0) :
    (answer (post change accounts) step).map Outcome.withoutSnapshots =
      (answer accounts step).map Outcome.withoutSnapshots := by
  unfold answer
  rw [Settlement.settle_answer, Settlement.settle_answer]
  cases horder : Instruction.parse? step.instruction with
  | none => rfl
  | some order =>
      exact Settlement.judge_withoutSnapshots (of?_post (h order horder))
        (of?_post_currency change accounts order.creditId) step.today

/-- A posting that changes neither account of a step keeps its answer. -/
theorem answer_post
    (h : ∀ order, Instruction.parse? step.instruction = some order →
      change order.debitId = 0 ∧ change order.creditId = 0) :
    answer (post change accounts) step = answer accounts step := by
  unfold answer
  rw [Settlement.settle_answer, Settlement.settle_answer]
  cases horder : Instruction.parse? step.instruction with
  | none => rfl
  | some order =>
      obtain ⟨hdebit, hcredit⟩ := h order horder
      refine Settlement.judge_congr ⟨of?_post hdebit, of?_post hcredit, ?_⟩ step.today
      rw [place_post, place_post]

/-- What an answer moves is told by it without its snapshots. -/
theorem moved_map_withoutSnapshots (side : Fields → Option String) (id : String)
    (answer : Except Fault Outcome) :
    moved side id (answer.map Outcome.withoutSnapshots) = moved side id answer := by
  cases answer <;> rfl

/-- Answers that differ in their snapshots at most post the same. -/
theorem posted_congr {answer other : Except Fault Outcome}
    (h : answer.map Outcome.withoutSnapshots = other.map Outcome.withoutSnapshots) :
    posted answer = posted other := by
  funext id
  simp only [posted]
  rw [← moved_map_withoutSnapshots, h, moved_map_withoutSnapshots,
    ← moved_map_withoutSnapshots Fields.debitId, h, moved_map_withoutSnapshots]

/-- A step posts nothing to an id that its instruction does not name. -/
theorem posted_eq_zero {id : String}
    (h : ∀ order, Instruction.parse? step.instruction = some order →
      id ≠ order.debitId ∧ id ≠ order.creditId) : posted (answer accounts step) id = 0 := by
  cases hanswer : answer accounts step with
  | error fault => rfl
  | ok outcome =>
      rcases (Settlement.settles_iff.1 hanswer).fields with
        ⟨-, rfl⟩ | ⟨order, amount, horder, hfields⟩
      · rfl
      · obtain ⟨hdebit, hcredit⟩ := h order horder
        simp [posted, moved, hfields, Fields.ofInstruction, hdebit.symm, hcredit.symm]

/-- A step posts what its answer does. -/
theorem next_eq_post_posted (accounts : List Account) (step : Step) :
    next accounts step = post (posted (answer accounts step)) accounts :=
  next_eq_post accounts step

/-- A step comes to the same answer, apart from the snapshots, behind a step that it is
independent of. -/
theorem answer_next_withoutSnapshots (h : Independent first second) (accounts : List Account) :
    (answer (next accounts first) second).map Outcome.withoutSnapshots =
      (answer accounts second).map Outcome.withoutSnapshots := by
  rw [next_eq_post_posted]
  refine answer_post_withoutSnapshots fun other hother => posted_eq_zero fun order horder => ?_
  have hnamed := (h order other horder hother).2
  simpa using hnamed

/-- A step comes to the same answer behind a step that it is independent of, if they credit
different ids. -/
theorem answer_next (h : Independent first second) (hcredit : CreditApart first second)
    (accounts : List Account) : answer (next accounts first) second = answer accounts second := by
  rw [next_eq_post_posted]
  refine answer_post fun other hother => ⟨?_, ?_⟩
  · refine posted_eq_zero fun order horder => ?_
    have hnamed := (h order other horder hother).2
    simpa using hnamed
  · refine posted_eq_zero fun order horder => ⟨?_, (hcredit order other horder hother).symm⟩
    have hnamed := (h order other horder hother).1
    simp only [List.mem_cons, List.not_mem_nil, or_false, not_or] at hnamed
    exact Ne.symm hnamed.2

/-- Two independent steps post the sum of what they post alone. -/
theorem final_pair (h : Independent first second) (accounts : List Account) :
    final accounts [first, second] =
      post (fun id => posted (answer accounts first) id + posted (answer accounts second) id)
        accounts := by
  calc final accounts [first, second]
      = next (next accounts first) second := rfl
    _ = post (posted (answer (next accounts first) second)) (next accounts first) :=
        next_eq_post_posted (next accounts first) second
    _ = post (posted (answer accounts second))
          (post (posted (answer accounts first)) accounts) := by
        rw [posted_congr (answer_next_withoutSnapshots h accounts), next_eq_post_posted]
    _ = post (fun id => posted (answer accounts first) id + posted (answer accounts second) id)
          accounts := post_post _ _ accounts

/-- The code of an answer is told by it without its snapshots. -/
theorem map_code_withoutSnapshots (answer : Except Fault Outcome) :
    (answer.map Outcome.withoutSnapshots).map Outcome.code = answer.map Outcome.code := by
  cases answer <;> rfl

/-- Independent steps may be taken in either order. The accounts are the same afterwards, and each
step comes to the same code or the same fault; if the steps credit different ids, or one of them
holds no instruction, each comes to the same answer. -/
theorem independent_commute (h : Independent first second) (accounts : List Account) :
    final accounts [first, second] = final accounts [second, first] ∧
      (answer (next accounts second) first).map Outcome.code =
        (answer accounts first).map Outcome.code ∧
      (answer (next accounts first) second).map Outcome.code =
        (answer accounts second).map Outcome.code ∧
      (CreditApart first second →
        answer (next accounts second) first = answer accounts first ∧
          answer (next accounts first) second = answer accounts second) := by
  refine ⟨?_, ?_, ?_, fun hcredit => ⟨?_, answer_next h hcredit accounts⟩⟩
  · rw [final_pair h, final_pair h.symm]
    congr 1
    funext id
    exact Int.add_comm _ _
  · rw [← map_code_withoutSnapshots, answer_next_withoutSnapshots h.symm,
      map_code_withoutSnapshots]
  · rw [← map_code_withoutSnapshots, answer_next_withoutSnapshots h, map_code_withoutSnapshots]
  · exact answer_next h.symm hcredit.symm accounts

/-- Two payments to one account, in either form, may be taken in either order. Both are carried
out. -/
theorem independent_commute_shared_credit :
    let accounts : List Account := [⟨"c", 0, "Usd"⟩, ⟨"a", 10, "USD"⟩, ⟨"b", 5, "usd"⟩]
    let first : Step := ⟨"DEBIT 7 USD FROM ACCOUNT a FOR CREDIT TO ACCOUNT c",
      ⟨2026, 1, 15, by decide⟩⟩
    let second : Step := ⟨"CREDIT 5 usd TO ACCOUNT c FOR DEBIT FROM ACCOUNT b",
      ⟨2026, 1, 16, by decide⟩⟩
    let settled : List Account := [⟨"c", 12, "Usd"⟩, ⟨"a", 3, "USD"⟩, ⟨"b", 0, "usd"⟩]
    Independent first second ∧
      final accounts [first, second] = final accounts [second, first] ∧
      final accounts [first, second] = settled ∧ final accounts [second, first] = settled := by
  have hsettled : final [⟨"c", 0, "Usd"⟩, ⟨"a", 10, "USD"⟩, ⟨"b", 5, "usd"⟩]
      [⟨"DEBIT 7 USD FROM ACCOUNT a FOR CREDIT TO ACCOUNT c", ⟨2026, 1, 15, by decide⟩⟩,
        ⟨"CREDIT 5 usd TO ACCOUNT c FOR DEBIT FROM ACCOUNT b", ⟨2026, 1, 16, by decide⟩⟩] =
      [⟨"c", 12, "Usd"⟩, ⟨"a", 3, "USD"⟩, ⟨"b", 0, "usd"⟩] := by rfl
  have hfirst : Instruction.parse? "DEBIT 7 USD FROM ACCOUNT a FOR CREDIT TO ACCOUNT c" =
      some ⟨.debit, "7", "USD", "a", "c", none⟩ := by rfl
  have hsecond : Instruction.parse? "CREDIT 5 usd TO ACCOUNT c FOR DEBIT FROM ACCOUNT b" =
      some ⟨.credit, "5", "usd", "b", "c", none⟩ := by rfl
  intro accounts first second settled
  have h : Independent first second := by
    intro order other horder hother
    obtain rfl := Option.some.inj (hfirst.symm.trans horder)
    obtain rfl := Option.some.inj (hsecond.symm.trans hother)
    decide
  have hcommute := (independent_commute h accounts).1
  exact ⟨h, hcommute, hsettled, hcommute.symm.trans hsettled⟩

end Remittance.Ledger
