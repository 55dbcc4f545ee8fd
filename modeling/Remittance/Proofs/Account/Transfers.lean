import Remittance.Proofs.Ledger.Posting

/-!
# Transfers between snapshots

A transfer between different ids adds a change of balance for each id to every snapshot with it.
Such adjustments add up in any order, and so transfers do: they join, are taken back, and commute,
and they change the sum of all balances by the amount times the difference of how often the two ids
occur (`transfer_additive`).
-/

namespace Remittance.Snapshot

open Ledger (transferred transferred_add transferred_add_back)

/-- The snapshots with a change of balance for each id, which every snapshot with that id takes. -/
def adjust (change : String → Int) (snapshots : List Snapshot) : List Snapshot :=
  snapshots.map fun snapshot => { snapshot with balance := snapshot.balance + change snapshot.id }

/-- The sum of the balances of all snapshots. -/
def totalBalance (snapshots : List Snapshot) : Int :=
  (snapshots.map (·.balance)).sum

variable {debit credit : String}

/-- An adjustment without a change leaves the snapshots as they are. -/
@[simp] theorem adjust_zero (snapshots : List Snapshot) :
    adjust (fun _ => 0) snapshots = snapshots := by
  simp [adjust]

/-- Two adjustments are one of the sums of their changes. -/
theorem adjust_adjust (first second : String → Int) (snapshots : List Snapshot) :
    adjust second (adjust first snapshots) =
      adjust (fun id => first id + second id) snapshots := by
  simp [adjust, Int.add_assoc]

/-- An adjustment keeps what the snapshots say of the accounts before. -/
@[simp] theorem map_account_adjust (change : String → Int) (snapshots : List Snapshot) :
    (adjust change snapshots).map account = snapshots.map account := by
  simp [adjust, account]

/-- An adjustment changes the sum of all balances by its changes at the ids that occur. -/
theorem totalBalance_adjust (change : String → Int) (snapshots : List Snapshot) :
    totalBalance (adjust change snapshots) =
      totalBalance snapshots + ((snapshots.map (·.id)).map change).sum := by
  induction snapshots with
  | nil => rfl
  | cons snapshot rest ih =>
      simp only [totalBalance, adjust, List.map_cons, List.sum_cons] at ih ⊢
      rw [ih]
      omega

/-- A transfer gives its amount to each credited id that occurs, and takes it from each debited
one. -/
theorem sum_map_transferred (debit credit : String) (amount : Int) (ids : List String) :
    (ids.map (transferred debit credit amount)).sum =
      amount * (ids.count credit - ids.count debit) := by
  induction ids with
  | nil => simp
  | cons id rest ih =>
      have hside : ∀ side : String, (if side = id then amount else 0) =
          amount * ((if id == side then 1 else 0 : Nat) : Int) := by
        intro side
        by_cases hid : side = id
        · simp [hid]
        · simp [hid, Ne.symm hid]
      rw [List.map_cons, List.sum_cons, ih, transferred, hside, hside, List.count_cons,
        List.count_cons]
      simp only [Int.natCast_add, Int.mul_add, Int.mul_sub]
      omega

/-- A transfer between different ids is an adjustment. -/
theorem transfer_eq_adjust (h : debit ≠ credit) (snapshots : List Snapshot) (amount : Int) :
    transfer snapshots debit credit amount =
      adjust (transferred debit credit amount) snapshots := by
  refine List.map_congr_left fun snapshot _ => ?_
  by_cases hdebit : snapshot.id = debit
  · subst hdebit
    simp [shift, Ledger.transferred_debit h, Int.sub_eq_add_neg]
  · by_cases hcredit : snapshot.id = credit
    · subst hcredit
      simp [shift, hdebit, Ledger.transferred_credit h]
    · simp [shift, hdebit, hcredit, transferred, Ne.symm hdebit, Ne.symm hcredit]

/-- A transfer changes the sum of all balances by the amount for each credited snapshot, less the
amount for each debited one. -/
theorem totalBalance_transfer (h : debit ≠ credit) (snapshots : List Snapshot) (amount : Int) :
    totalBalance (transfer snapshots debit credit amount) = totalBalance snapshots +
      amount * ((snapshots.map (·.id)).count credit - (snapshots.map (·.id)).count debit) := by
  rw [transfer_eq_adjust h, totalBalance_adjust, sum_map_transferred]

/-- A transfer between different ids changes balances only, and in the list only where they stand.
Transfers of several amounts between the same ids are one of their sum, a transfer back takes one
back, and transfers between any two pairs of ids commute. The sum of all balances changes by the
amount times the difference of how often the ids occur, so it stays the same where each occurs
once. -/
theorem transfer_additive (h : debit ≠ credit) (snapshots : List Snapshot) (first second : Int) :
    (transfer snapshots debit credit first).map account = snapshots.map account ∧
      transfer (transfer snapshots debit credit first) debit credit second =
        transfer snapshots debit credit (first + second) ∧
      transfer (transfer snapshots debit credit first) credit debit first = snapshots ∧
      (∀ otherDebit otherCredit, otherDebit ≠ otherCredit →
        transfer (transfer snapshots debit credit first) otherDebit otherCredit second =
          transfer (transfer snapshots otherDebit otherCredit second) debit credit first) ∧
      totalBalance (transfer snapshots debit credit first) = totalBalance snapshots +
        first * ((snapshots.map (·.id)).count credit - (snapshots.map (·.id)).count debit) ∧
      ((snapshots.map (·.id)).count debit = 1 → (snapshots.map (·.id)).count credit = 1 →
        totalBalance (transfer snapshots debit credit first) = totalBalance snapshots) := by
  have htotal := totalBalance_transfer h snapshots first
  refine ⟨?_, ?_, ?_, ?_, htotal, ?_⟩
  · rw [transfer_eq_adjust h, map_account_adjust]
  · rw [transfer_eq_adjust h, transfer_eq_adjust h, transfer_eq_adjust h, adjust_adjust]
    exact congrArg (adjust · snapshots) (funext (transferred_add debit credit first second))
  · have hnothing : (fun id => transferred debit credit first id +
        transferred credit debit first id) = fun _ => 0 :=
      funext (transferred_add_back debit credit first)
    rw [transfer_eq_adjust h.symm, transfer_eq_adjust h, adjust_adjust, hnothing, adjust_zero]
  · intro otherDebit otherCredit hother
    simp only [transfer_eq_adjust h, transfer_eq_adjust hother, adjust_adjust, Int.add_comm]
  · intro hdebit hcredit
    rw [htotal, hdebit, hcredit, Int.sub_self, Int.mul_zero, Int.add_zero]

/-- The credit of one transfer is the debit of the other, and the ids occur more than once. -/
theorem transfer_additive_repeated :
    let snapshots : List Snapshot :=
      [⟨"a", 5, 5, "USD"⟩, ⟨"b", -1, 0, "USD"⟩, ⟨"a", 0, 2, "NGN"⟩, ⟨"c", 7, 7, ""⟩]
    "a" ≠ "b" ∧ "b" ≠ "c" ∧
      transfer (transfer snapshots "a" "b" 4) "b" "c" (-3) =
        transfer (transfer snapshots "b" "c" (-3)) "a" "b" 4 ∧
      totalBalance (transfer snapshots "a" "b" 4) = totalBalance snapshots - 4 ∧
      (snapshots.map (·.id)).count "b" = 1 ∧ (snapshots.map (·.id)).count "c" = 1 ∧
      totalBalance (transfer snapshots "b" "c" (-3)) = totalBalance snapshots := by
  intro snapshots
  have hfirst : "a" ≠ "b" := by decide
  have hsecond : "b" ≠ "c" := by decide
  obtain ⟨-, -, -, hcommute, htotal, -⟩ := transfer_additive hfirst snapshots 4 (-3)
  obtain ⟨-, -, -, -, -, hkept⟩ := transfer_additive hsecond snapshots (-3) 4
  have hb : (snapshots.map (·.id)).count "b" = 1 := by decide
  have hc : (snapshots.map (·.id)).count "c" = 1 := by decide
  exact ⟨hfirst, hsecond, hcommute "b" "c" hsecond, htotal, hb, hc, hkept hb hc⟩

end Remittance.Snapshot
