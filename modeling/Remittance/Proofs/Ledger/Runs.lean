import Remittance.Proofs.Ledger.Posting
import Remittance.Proofs.Settlement.Answers

/-!
# What steps and runs post

A step posts the amount of an executed instruction to its two accounts and nothing else, whatever
its answer is (`next_eq_post`). A run posts what its answers credit to an id less what they debit
(`final_eq_post`), so every question about the accounts after a run is one about its answers.
-/

namespace Remittance.Ledger

/-- The amount that an answer moves on one side of an executed instruction, when `side` names this
id. -/
def moved (side : Fields → Option String) (id : String) : Except Fault Outcome → Int
  | .ok outcome =>
      if outcome.code = .executed ∧ side outcome.fields = some id then
        outcome.fields.amount.getD 0
      else 0
  | .error _ => 0

/-- The answers to the steps of a run. -/
def answers (accounts : List Account) (steps : List Step) : List (Except Fault Outcome) :=
  (run accounts steps).map (·.1)

theorem answers_nil (accounts : List Account) : answers accounts [] = [] := rfl

theorem answers_cons (accounts : List Account) (step : Step) (rest : List Step) :
    answers accounts (step :: rest) =
      answer accounts step :: answers (next accounts step) rest := rfl

theorem final_nil (accounts : List Account) : final accounts [] = accounts := rfl

theorem final_cons (accounts : List Account) (step : Step) (rest : List Step) :
    final accounts (step :: rest) = final (next accounts step) rest := rfl

/-- The sum of the amounts that answers credit to an id. -/
def credited (answers : List (Except Fault Outcome)) (id : String) : Int :=
  (answers.map (moved Fields.creditId id)).sum

/-- The sum of the amounts that answers debit from an id. -/
def debited (answers : List (Except Fault Outcome)) (id : String) : Int :=
  (answers.map (moved Fields.debitId id)).sum

section Reported

variable {accounts : List Account} {debit credit : Account} {amount : Int}

/-- Snapshots of accounts as they are report no change. -/
theorem reported_unchanged {snapshots : List Snapshot}
    (h : ∀ snapshot ∈ snapshots, snapshot.balance = snapshot.balanceBefore) :
    reported snapshots = fun _ => 0 := by
  funext id
  induction snapshots with
  | nil => rfl
  | cons snapshot rest ih =>
      have hrest := ih fun later hmem => h later (by simp [hmem])
      simp [h snapshot, hrest]

/-- The snapshots after a transfer report the shift of the balance of either account. -/
theorem reported_transfer_side {account : Account}
    (hside : account.id = debit.id ∨ account.id = credit.id)
    (hfound : Account.find? accounts account.id = some account) :
    reported (Snapshot.transfer (Snapshot.ofAccounts accounts debit.id credit.id)
        debit.id credit.id amount) account.id =
      ((Snapshot.ofAccount account).shift (account.id == debit.id) (account.id == credit.id)
        amount).balance - account.balance := by
  have hdistinct := Snapshot.nodup_ofAccounts accounts debit.id credit.id
  rw [← Snapshot.map_id_transfer _ debit.id credit.id amount] at hdistinct
  have hmem := List.mem_map_of_mem (f := fun snapshot : Snapshot =>
    snapshot.shift (snapshot.id == debit.id) (snapshot.id == credit.id) amount)
    (Snapshot.ofAccount_mem_ofAccounts hside hfound)
  simpa [Snapshot.ofAccount] using reported_of_mem hdistinct hmem

/-- The snapshots after a transfer report that the amount left one account and came to the
other. -/
theorem reported_transfer (h : Settlement.Transferable accounts debit credit amount) :
    reported (Snapshot.transfer (Snapshot.ofAccounts accounts debit.id credit.id)
        debit.id credit.id amount) =
      transferred debit.id credit.id amount := by
  funext id
  unfold transferred
  by_cases hdebit : debit.id = id
  · subst hdebit
    rw [reported_transfer_side (.inl rfl) h.debit_found, if_neg h.distinct.symm, if_pos rfl]
    simp only [Snapshot.shift, Snapshot.ofAccount, beq_self_eq_true, if_true]
    omega
  · by_cases hcredit : credit.id = id
    · subst hcredit
      rw [reported_transfer_side (.inr rfl) h.credit_found, if_pos rfl, if_neg hdebit]
      simp only [Snapshot.shift, Snapshot.ofAccount, beq_eq_false_iff_ne.2 h.distinct.symm,
        beq_self_eq_true, Bool.false_eq_true, if_false, if_true]
      omega
    · rw [if_neg hdebit, if_neg hcredit, reported_eq_zero]
      · rfl
      · rw [Snapshot.map_id_transfer]
        intro hid
        obtain ⟨snapshot, hsnapshot, heq⟩ := List.mem_map.1 hid
        rcases (Snapshot.mem_ofAccounts.1 hsnapshot).1 with hside | hside
        · exact hdebit (hside.symm.trans heq)
        · exact hcredit (hside.symm.trans heq)

end Reported

/-- A step posts what its answer moves to an id less what it moves from it. -/
theorem next_eq_post (accounts : List Account) (step : Step) :
    next accounts step =
      post (fun id => moved Fields.creditId id (answer accounts step) -
        moved Fields.debitId id (answer accounts step)) accounts := by
  rw [next]
  cases hanswer : answer accounts step with
  | error fault => exact (post_zero accounts).symm
  | ok outcome =>
      have hsettles := Settlement.settles_iff.1 hanswer
      rw [after]
      by_cases hcode : outcome.code = .executed
      · obtain ⟨debit, credit, amount, htransferable, hdebit, hcredit, hamount, hsnapshots⟩ :=
          hsettles.executed hcode
        rw [hsnapshots, writeBack_eq_post]
        · congr 1
          funext id
          rw [reported_transfer htransferable, transferred]
          simp [moved, hcode, hdebit, hcredit, hamount]
        · rw [Snapshot.map_id_transfer]
          exact Snapshot.nodup_ofAccounts _ _ _
        · intro snapshot hmem
          obtain ⟨before, hbefore, rfl⟩ := List.mem_map.1 hmem
          simpa using (Snapshot.balanceBefore_ofAccounts hbefore).2
      · obtain ⟨debit, credit, hsublist⟩ := hsettles.not_executed hcode
        have hunchanged := fun snapshot hmem =>
          Snapshot.balanceBefore_ofAccounts (hsublist.subset (a := snapshot) hmem)
        rw [writeBack_eq_post]
        · rw [reported_unchanged fun snapshot hmem => (hunchanged snapshot hmem).1]
          simp [moved, hcode]
        · exact (Snapshot.nodup_ofAccounts _ _ _).sublist (hsublist.map _)
        · exact fun snapshot hmem => (hunchanged snapshot hmem).2

/-- A step whose instruction is executed posts that its amount moves from the debit id to the
credit id. -/
theorem next_of_executed {accounts : List Account} {step : Step} {outcome : Outcome}
    {debit credit : String} {amount : Int} (h : answer accounts step = .ok outcome)
    (hcode : outcome.code = .executed) (hdebit : outcome.fields.debitId = some debit)
    (hcredit : outcome.fields.creditId = some credit)
    (hamount : outcome.fields.amount = some amount) :
    next accounts step = post (transferred debit credit amount) accounts := by
  rw [next_eq_post, h]
  congr 1
  funext id
  simp [transferred, moved, hcode, hdebit, hcredit, hamount]

/-- A run of some steps and then more goes on from the accounts after the first. -/
theorem run_append (accounts : List Account) (steps more : List Step) :
    run accounts (steps ++ more) = run accounts steps ++ run (final accounts steps) more := by
  induction steps generalizing accounts with
  | nil => rfl
  | cons step rest ih => simp [run, ih, final]

/-- The accounts after a run are those after its last step. -/
theorem getLastD_run (accounts : List Account) (steps : List Step) :
    ((run accounts steps).map (·.2)).getLastD accounts = final accounts steps := by
  induction steps generalizing accounts with
  | nil => rfl
  | cons step rest ih =>
      rw [run, List.map_cons, List.getLastD_cons]
      exact ih (next accounts step)

/-- A run posts what its answers credit to an id less what they debit from it. -/
theorem final_eq_post (accounts : List Account) (steps : List Step) :
    final accounts steps =
      post (fun id => credited (answers accounts steps) id -
        debited (answers accounts steps) id) accounts := by
  induction steps generalizing accounts with
  | nil => exact (post_zero accounts).symm
  | cons step rest ih =>
      let later := answers (next accounts step) rest
      calc final accounts (step :: rest)
          = final (next accounts step) rest := rfl
        _ = post (fun id => credited later id - debited later id) (next accounts step) := ih _
        _ = post (fun id => credited later id - debited later id)
              (post (fun id => moved Fields.creditId id (answer accounts step) -
                moved Fields.debitId id (answer accounts step)) accounts) :=
            congrArg (post _) (next_eq_post accounts step)
        _ = post (fun id => credited (answers accounts (step :: rest)) id -
              debited (answers accounts (step :: rest)) id) accounts := by
            rw [post_post]
            congr 1
            funext id
            simp only [later, credited, debited, answers, run, List.map_cons, List.sum_cons]
            omega

end Remittance.Ledger
