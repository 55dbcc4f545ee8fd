import Remittance.Proofs.Account.Ids
import Remittance.Proofs.Currency
import Remittance.Proofs.Instruction.Sentences
import Remittance.Proofs.Ledger.Runs

/-!
# Undoing a transfer

What an executed instruction has moved can be moved back. The instruction for that names what the
answer repeats, with the two accounts exchanged. It breaks no rule, since the first instruction
broke none, and the credit account covers it unless it was overdrawn before. Then the accounts are
what they were (`next_undoes`).
-/

namespace Remittance

open Settlement (Admissible)

variable {accounts : List Account} {order : Instruction} {debit credit : Account}

namespace Settlement

/-- A posting keeps an instruction admissible and changes the balances of its accounts. -/
theorem Admissible.post (h : Admissible accounts order debit credit) (change : String → Int) :
    Admissible (Ledger.post change accounts) order
      { debit with balance := debit.balance + change order.debitId }
      { credit with balance := credit.balance + change order.creditId } := by
  have hdebit := Ledger.find?_post change accounts order.debitId
  have hcredit := Ledger.find?_post change accounts order.creditId
  rw [h.debit_found] at hdebit
  rw [h.credit_found] at hcredit
  exact
    { debit_valid := h.debit_valid
      credit_valid := h.credit_valid
      distinct := h.distinct
      debit_found := hdebit
      credit_found := hcredit
      supported := h.supported
      agree := h.agree }

/-- Where an instruction is admissible, so is one in the other direction. -/
theorem Admissible.back (h : Admissible accounts order debit credit) (amount : Nat) :
    Admissible accounts (.transfer amount (Currency.normalize order.currency) order.creditId
      order.debitId) credit debit := by
  have hagree := h.agree
  simp only [currenciesAgree, Bool.and_eq_true, beq_iff_eq] at hagree
  obtain ⟨hsame, horder⟩ := hagree
  have hback : Currency.normalize credit.currency =
      Currency.normalize (Currency.normalize order.currency) := by
    rw [Currency.normalize_normalize, ← hsame, horder]
  exact
    { debit_valid := h.credit_valid
      credit_valid := h.debit_valid
      distinct := h.distinct.symm
      debit_found := h.credit_found
      credit_found := h.debit_found
      supported := Currency.isSupported_normalize h.supported
      agree := by
        unfold currenciesAgree
        rw [Bool.and_eq_true, beq_iff_eq, beq_iff_eq]
        exact ⟨hsame.symm, hback⟩ }

/-- The instruction in the other direction is read back from its sentence. -/
theorem Admissible.parse?_back (h : Admissible accounts order debit credit) {amount : Nat}
    (hpos : 0 < amount) :
    let back : Instruction := .transfer amount (Currency.normalize order.currency) order.creditId
      order.debitId
    Instruction.parse? back.sentence = some back :=
  Instruction.parse?_sentence (Instruction.hasPlainWords_transfer hpos
    (Currency.isPlain_normalize h.supported) (Account.isPlain_of_isId h.credit_valid)
    (Account.isPlain_of_isId h.debit_valid))

end Settlement

namespace Ledger

/-- Moving an amount back takes back that it was moved. -/
theorem post_transferred_back (debit credit : String) (amount : Int) (accounts : List Account) :
    post (transferred credit debit amount) (post (transferred debit credit amount) accounts) =
      accounts := by
  have hnothing : (fun id => transferred debit credit amount id +
      transferred credit debit amount id) = fun _ => 0 :=
    funext (transferred_add_back debit credit amount)
  rw [post_post, hnothing, post_zero]

variable {step : Step} {outcome : Outcome}

/-- An executed instruction repeats its amount, its currency, and its two ids in the answer. The
sentence that moves the amount back, settled on any date behind it, is executed if the credit
account was not overdrawn before, and otherwise refused for insufficient funds. If it is executed,
all accounts are what they were before both. -/
theorem next_undoes (h : answer accounts step = .ok outcome) (hcode : outcome.code = .executed) :
    ∃ (amount : Nat) (currency debitId creditId : String) (credit : Account),
      outcome.fields.amount = some (amount : Int) ∧ outcome.fields.currency = some currency ∧
      outcome.fields.debitId = some debitId ∧ outcome.fields.creditId = some creditId ∧
      Account.IsFirst accounts creditId credit ∧
      ∀ today,
        let back : Step := ⟨(Instruction.transfer amount currency creditId debitId).sentence, today⟩
        ∃ undone, answer (next accounts step) back = .ok undone ∧
          undone.code = (if 0 ≤ credit.balance then .executed else .insufficientFunds) ∧
          (undone.code = .executed → next (next accounts step) back = accounts) := by
  obtain ⟨order, amount, debit, credit, horder, hamount, hadmissible, -, -, rfl⟩ :=
    (Settlement.settles_iff.1 h).admissible hcode
  refine ⟨amount, Currency.normalize order.currency, order.debitId, order.creditId, credit,
    rfl, rfl, rfl, rfl, Account.find?_eq_some_iff.1 hadmissible.credit_found, ?_⟩
  intro today back
  have hpos := (Amount.writes_of_read hamount).2.2.2
  have hnext : next accounts step =
      post (transferred order.debitId order.creditId amount) accounts :=
    next_of_executed h hcode rfl rfl rfl
  have hcredited : transferred order.debitId order.creditId amount order.creditId = amount := by
    rw [transferred, if_pos rfl, if_neg hadmissible.distinct, Int.sub_zero]
  have hback := (hadmissible.back amount).post (transferred order.debitId order.creditId amount)
  have hanswer : answer (post (transferred order.debitId order.creditId amount) accounts) back =
      .ok _ := hback.answer (hadmissible.parse?_back hpos) (Amount.read_repr hamount) rfl
  rw [← hnext] at hanswer
  refine ⟨_, hanswer, ?_, ?_⟩
  · rw [Settlement.outcomeOf_code]
    show (if credit.balance + transferred order.debitId order.creditId amount order.creditId <
      amount then Code.insufficientFunds else .executed) = _
    rw [hcredited]
    by_cases hbalance : 0 ≤ credit.balance
    · rw [if_pos hbalance, if_neg (by omega)]
    · rw [if_neg hbalance, if_pos (by omega)]
  · intro hexecuted
    have hfields := Settlement.outcomeOf_fields
    rw [next_of_executed hanswer hexecuted (by rw [hfields]; rfl) (by rw [hfields]; rfl)
      (by rw [hfields]; rfl), hnext]
    exact post_transferred_back order.debitId order.creditId amount accounts

/-- An amount with zeros in front comes back from an account that had nothing, whose id is a
keyword and occurs again, on any later date. -/
theorem next_undoes_keywords :
    let accounts : List Account := [⟨"FOR", 0, "usd"⟩, ⟨"TO", 50, "Usd"⟩, ⟨"FOR", -9, "NGN"⟩]
    let step : Step := ⟨"debit 007 usd from account TO for credit to account FOR",
      ⟨2026, 1, 15, by decide⟩⟩
    next accounts step = [⟨"FOR", 7, "usd"⟩, ⟨"TO", 43, "Usd"⟩, ⟨"FOR", -9, "NGN"⟩] ∧
      ∀ today, next (next accounts step)
        ⟨"DEBIT 7 USD FROM ACCOUNT FOR FOR CREDIT TO ACCOUNT TO", today⟩ = accounts := by
  have hanswer : answer [⟨"FOR", 0, "usd"⟩, ⟨"TO", 50, "Usd"⟩, ⟨"FOR", -9, "NGN"⟩]
      ⟨"debit 007 usd from account TO for credit to account FOR", ⟨2026, 1, 15, by decide⟩⟩ =
      .ok (.executed ⟨some .debit, some 7, some "USD", some "TO", some "FOR", none⟩
        [⟨"FOR", 7, 0, "USD"⟩, ⟨"TO", 43, 50, "USD"⟩]) := by rfl
  have hfirst : Account.IsFirst [⟨"FOR", 0, "usd"⟩, ⟨"TO", 50, "Usd"⟩, ⟨"FOR", -9, "NGN"⟩] "FOR"
      ⟨"FOR", 0, "usd"⟩ := Account.find?_eq_some_iff.1 (by rfl)
  intro accounts step
  obtain ⟨amount, currency, debitId, creditId, credit, hamount, hcurrency, hdebit, hcredit, hfound,
    hback⟩ := next_undoes hanswer rfl
  obtain rfl : amount = 7 := Int.ofNat.inj (Option.some.inj hamount).symm
  obtain rfl := Option.some.inj hcurrency
  obtain rfl := Option.some.inj hdebit
  obtain rfl := Option.some.inj hcredit
  obtain rfl := hfirst.unique hfound
  refine ⟨?_, ?_⟩
  · rw [next, hanswer]
    rfl
  · intro today
    obtain ⟨undone, -, hcode, hundone⟩ := hback today
    exact hundone hcode

end Ledger

end Remittance
