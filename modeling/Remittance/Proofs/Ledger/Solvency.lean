import Remittance.Proofs.Account.Ids
import Remittance.Proofs.Ledger.Runs

/-!
# Solvency

No step takes an account below zero, or further below it. `run_never_overdraws` states this for
every step of every run: an account covers what is debited from it, so one that has nothing is
never debited, and one that is not negative at the beginning is not negative afterwards.
-/

namespace Remittance.Ledger

/-- Every account stands in a relation to what is at its place later. -/
def Everywhere (relates : Account → Account → Prop) (before later : List Account) : Prop :=
  ∀ (position : Nat) (account : Account), before[position]? = some account →
    ∃ changed, later[position]? = some changed ∧ relates account changed

variable {relates : Account → Account → Prop}

/-- A posting relates every account to what becomes of it when it does so for the accounts that
their ids resolve to. -/
theorem everywhere_post {change : String → Int} {accounts : List Account}
    (hkept : ∀ account, relates account account)
    (hfirst : ∀ account, Account.find? accounts account.id = some account →
      relates account { account with balance := account.balance + change account.id }) :
    Everywhere relates accounts (post change accounts) := by
  intro position account haccount
  rw [getElem?_post, haccount, Option.map_some]
  refine ⟨_, rfl, ?_⟩
  split
  · exact hkept account
  · rename_i hnew
    exact hfirst account (Account.find?_eq_some_iff.2 (.of_getElem? haccount hnew))

/-- A relation that every step establishes and that carries over is established by every run. -/
theorem everywhere_final (hkept : ∀ account, relates account account)
    (htrans : ∀ {first second third}, relates first second → relates second third →
      relates first third)
    (hnext : ∀ accounts step, Everywhere relates accounts (next accounts step))
    (accounts : List Account) (steps : List Step) :
    Everywhere relates accounts (final accounts steps) := by
  induction steps generalizing accounts with
  | nil => exact fun position account haccount => ⟨account, haccount, hkept account⟩
  | cons step rest ih =>
      intro position account haccount
      obtain ⟨changed, hchanged, hfirst⟩ := hnext accounts step position account haccount
      obtain ⟨last, hlast, hrest⟩ := ih (next accounts step) position changed hchanged
      exact ⟨last, hlast, htrans hfirst hrest⟩

variable {accounts : List Account} {step : Step}

/-- No answer moves a negative amount. -/
theorem moved_nonneg (side : Fields → Option String) (id : String) :
    0 ≤ moved side id (answer accounts step) := by
  cases hanswer : answer accounts step with
  | error fault => exact Int.le_refl 0
  | ok outcome =>
      rw [moved]
      split
      · rename_i hexecuted
        obtain ⟨debit, credit, amount, htransferable, -, -, hamount, -⟩ :=
          (Settlement.settles_iff.1 hanswer).executed hexecuted.1
        simpa [hamount] using Int.le_of_lt htransferable.positive
      · exact Int.le_refl 0

/-- An account covers what an answer debits from it. -/
theorem moved_debitId_le {account : Account}
    (h : Account.find? accounts account.id = some account) :
    moved Fields.debitId account.id (answer accounts step) ≤ max 0 account.balance := by
  cases hanswer : answer accounts step with
  | error fault => exact Int.le_max_left 0 _
  | ok outcome =>
      rw [moved]
      split
      · rename_i hexecuted
        obtain ⟨debit, credit, amount, htransferable, hdebit, -, hamount, -⟩ :=
          (Settlement.settles_iff.1 hanswer).executed hexecuted.1
        have hid : debit.id = account.id := by simpa [hdebit] using hexecuted.2
        -- One id resolves to one account, so the account that covers the amount is this one.
        have hsame : debit = account := by
          have hfound := htransferable.debit_found
          rw [hid, h] at hfound
          exact (Option.some.inj hfound).symm
        have hcovered := htransferable.covered
        rw [hsame] at hcovered
        simpa [hamount] using Int.le_trans hcovered (Int.le_max_right 0 _)
      · exact Int.le_max_left 0 _

/-- A step relates every account to what becomes of it when the relation allows any gain and any
loss that the account covers. -/
theorem everywhere_next (hkept : ∀ account, relates account account)
    (hchange : ∀ (account : Account) (gain loss : Int), 0 ≤ gain → loss ≤ max 0 account.balance →
      relates account { account with balance := account.balance + (gain - loss) })
    (accounts : List Account) (step : Step) :
    Everywhere relates accounts (next accounts step) := by
  rw [next_eq_post]
  exact everywhere_post hkept fun account haccount =>
    hchange account _ _ (moved_nonneg _ _) (moved_debitId_le haccount)

/-- Wherever a run has a step, the step leaves each balance at or above zero or what it was,
whichever is less. So an account with nothing is not debited, and one that has never been negative
is not negative after it. -/
theorem run_never_overdraws (initial : List Account) (past future : List Step) (step : Step) :
    let before := final initial past
    let later := next before step
    run initial (past ++ step :: future) =
        run initial past ++ (answer before step, later) :: run later future ∧
      Everywhere (fun account changed => min 0 account.balance ≤ changed.balance) before later ∧
      Everywhere (fun account changed => 0 ≤ account.balance → 0 ≤ changed.balance)
        initial later ∧
      Everywhere (fun account changed => account.balance ≤ 0 → account.balance ≤ changed.balance)
        before later ∧
      ∀ outcome, answer before step = .ok outcome → outcome.code = .executed →
        ∃ account, outcome.fields.debitId = some account.id ∧
          Account.find? before account.id = some account ∧ 0 < account.balance := by
  intro before later
  have hnonneg : ∀ accounts step, Everywhere
      (fun account changed => 0 ≤ account.balance → 0 ≤ changed.balance) accounts
      (next accounts step) := by
    refine everywhere_next (fun account h => h) ?_
    intro account gain loss hgain hloss hbalance
    show 0 ≤ account.balance + (gain - loss)
    omega
  refine ⟨run_append initial past (step :: future), ?_, ?_, ?_, ?_⟩
  · refine everywhere_next (fun account => Int.min_le_right 0 _) ?_ before step
    intro account gain loss hgain hloss
    show min 0 account.balance ≤ account.balance + (gain - loss)
    omega
  · have hlater : later = final initial (past ++ [step]) := by
      simp [later, before, final]
    rw [hlater]
    exact everywhere_final (fun account h => h) (fun hfirst hrest h => hrest (hfirst h)) hnonneg
      initial (past ++ [step])
  · refine everywhere_next (fun account h => Int.le_refl _) ?_ before step
    intro account gain loss hgain hloss hbalance
    show account.balance ≤ account.balance + (gain - loss)
    omega
  · intro outcome hanswer hcode
    obtain ⟨debit, credit, amount, htransferable, hdebit, -⟩ :=
      (Settlement.settles_iff.1 hanswer).executed hcode
    exact ⟨debit, hdebit, htransferable.debit_found,
      Int.lt_of_lt_of_le htransferable.positive htransferable.covered⟩

end Remittance.Ledger
