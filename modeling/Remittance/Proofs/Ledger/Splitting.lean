import Mathlib.Algebra.Ring.Nat
import Remittance.Proofs.Ledger.Reversal
import Remittance.Proofs.Settlement.Waiting

/-!
# Splitting a transfer

Moving an amount and then another one is the same as moving their sum. Both steps are executed
exactly when the step for the sum is (`hasCode_add_iff`), and then the accounts come out the same
(`next_add`). By induction this holds of an amount in any number of parts (`transfers_join`), and so
in two (`transfer_splits`).
-/

namespace Remittance

open Calendar (Date)
open Settlement (Admissible HasCode)
open Text (IsPlain)

variable {accounts : List Account} {currency debitId creditId : String} {debit credit : Account}

namespace Settlement

/-- Whether an instruction to move an amount is admissible does not depend on the amount. -/
theorem Admissible.of_amount {amount : Nat}
    (h : Admissible accounts (.transfer amount currency debitId creditId) debit credit)
    (other : Nat) : Admissible accounts (.transfer other currency debitId creditId) debit credit :=
  ⟨⟨h.debit_valid, h.credit_valid, h.distinct, h.debit_found, h.credit_found⟩, h.supported,
    h.agree⟩

/-- After an amount has moved, the same transfers are admissible between the two accounts. -/
theorem Admissible.transferred {amount : Nat}
    (h : Admissible accounts (.transfer amount currency debitId creditId) debit credit)
    (moved : Int) :
    Admissible (Ledger.post (Ledger.transferred debitId creditId moved) accounts)
      (.transfer amount currency debitId creditId)
      { debit with balance := debit.balance - moved }
      { credit with balance := credit.balance + moved } := by
  have hdistinct : debitId ≠ creditId := h.distinct
  have hdebit := Ledger.transferred_debit hdistinct moved
  have hcredit := Ledger.transferred_credit hdistinct moved
  simpa only [Instruction.transfer, hdebit, hcredit, Int.sub_eq_add_neg] using
    h.post (Ledger.transferred debitId creditId moved)

end Settlement

namespace Ledger

/-- The step that moves an amount from one account to another at once. -/
def Step.transfer (currency debitId creditId : String) (amount : Nat) (today : Date) : Step :=
  ⟨(Instruction.transfer amount currency debitId creditId).sentence, today⟩

/-- Amounts that are moved one after the other add up. -/
theorem post_transferred_transferred (debitId creditId : String) (first second : Int)
    (accounts : List Account) :
    post (transferred debitId creditId second)
        (post (transferred debitId creditId first) accounts) =
      post (transferred debitId creditId (first + second)) accounts := by
  rw [post_post]
  exact congrArg (post · accounts) (funext (transferred_add debitId creditId first second))

section Plain

variable (hplain : ∀ word ∈ [currency, debitId, creditId], IsPlain word.toList)
include hplain

/-- The instruction of a transfer is read back from its sentence. -/
theorem parse?_transfer {amount : Nat} (hpos : 0 < amount) :
    Instruction.parse? (Instruction.transfer amount currency debitId creditId).sentence =
      some (.transfer amount currency debitId creditId) :=
  Instruction.parse?_sentence (Instruction.hasPlainWords_transfer hpos
    (hplain currency (by simp)) (hplain debitId (by simp)) (hplain creditId (by simp)))

/-- A transfer is executed exactly when an amount can move between the two accounts at all and the
debit account covers this one. -/
theorem hasCode_transfer_iff {amount : Nat} (hpos : 0 < amount)
    (hlimit : amount.repr.toList.length ≤ digitLimit) (accounts : List Account) (today : Date) :
    HasCode (answer accounts (.transfer currency debitId creditId amount today)) .executed ↔
      ∃ debit credit,
        Admissible accounts (.transfer amount currency debitId creditId) debit credit ∧
          (amount : Int) ≤ debit.balance := by
  have horder := parse?_transfer hplain hpos
  have hamount : Amount.read amount.repr = .ok (some amount) :=
    Amount.read_eq_some_iff.2 ⟨Amount.writes_repr hpos, hlimit⟩
  rw [Settlement.hasCode_iff]
  constructor
  · rintro ⟨outcome, hanswer, hcode⟩
    obtain ⟨order, found, debit, credit, hparsed, hfound, hadmissible, -, hcovered, -⟩ :=
      (Settlement.settles_iff.1 hanswer).admissible hcode
    obtain rfl := Option.some.inj (hparsed.symm.trans horder)
    obtain rfl := Option.some.inj (Except.ok.inj (hfound.symm.trans hamount))
    exact ⟨debit, credit, hadmissible, hcovered⟩
  · rintro ⟨debit, credit, hadmissible, hcovered⟩
    refine ⟨_, hadmissible.answer horder hamount rfl, ?_⟩
    rw [Settlement.outcomeOf_code, if_neg (Int.not_lt.2 hcovered)]

/-- A transfer that is executed posts its amount. -/
theorem next_transfer {amount : Nat} (hpos : 0 < amount) {today : Date}
    (h : HasCode (answer accounts (.transfer currency debitId creditId amount today)) .executed) :
    next accounts (.transfer currency debitId creditId amount today) =
      post (transferred debitId creditId amount) accounts := by
  obtain ⟨outcome, hanswer, hcode⟩ := Settlement.hasCode_iff.1 h
  obtain ⟨order, found, debit, credit, hparsed, hfound, -, -, -, rfl⟩ :=
    (Settlement.settles_iff.1 hanswer).admissible hcode
  obtain rfl := Option.some.inj (hparsed.symm.trans (parse?_transfer hplain hpos))
  obtain rfl := (Amount.writes_of_read hfound).unique (Amount.writes_repr hpos)
  exact next_of_executed hanswer hcode rfl rfl rfl

/-- A transfer that is executed is executed on any other date too, and leaves the same accounts. -/
theorem transfer_on {amount : Nat} (hpos : 0 < amount) {today : Date}
    (hlimit : amount.repr.toList.length ≤ digitLimit)
    (h : HasCode (answer accounts (.transfer currency debitId creditId amount today)) .executed)
    (once : Date) :
    HasCode (answer accounts (.transfer currency debitId creditId amount once)) .executed ∧
      next accounts (.transfer currency debitId creditId amount once) =
        next accounts (.transfer currency debitId creditId amount today) := by
  have honce := (hasCode_transfer_iff hplain hpos hlimit accounts once).2
    ((hasCode_transfer_iff hplain hpos hlimit accounts today).1 h)
  exact ⟨honce, (next_transfer hplain hpos honce).trans (next_transfer hplain hpos h).symm⟩

section Sum

variable {first second : Nat} (hfirst : 0 < first) (hsecond : 0 < second)
  (hlimit : (first + second).repr.toList.length ≤ digitLimit)
include hfirst hsecond hlimit

/-- Two transfers are executed one after the other exactly when the transfer of their sum is. -/
theorem hasCode_add_iff (accounts : List Account) (today later once : Date) :
    HasCode (answer accounts (.transfer currency debitId creditId first today)) .executed ∧
        HasCode (answer (next accounts (.transfer currency debitId creditId first today))
          (.transfer currency debitId creditId second later)) .executed ↔
      HasCode (answer accounts (.transfer currency debitId creditId (first + second) once))
        .executed := by
  have hfirstLimit := (Amount.length_repr_le_of_le (Nat.le_add_right first second)).trans hlimit
  have hsecondLimit := (Amount.length_repr_le_of_le (Nat.le_add_left second first)).trans hlimit
  have hfirstIff := hasCode_transfer_iff hplain hfirst hfirstLimit accounts today
  rw [hasCode_transfer_iff hplain (Nat.add_pos_left hfirst second) hlimit]
  constructor
  · rintro ⟨hexecuted, hthen⟩
    obtain ⟨debit, credit, hadmissible, -⟩ := hfirstIff.1 hexecuted
    rw [next_transfer hplain hfirst hexecuted,
      hasCode_transfer_iff hplain hsecond hsecondLimit] at hthen
    obtain ⟨debited, credited, hthen, hcovered⟩ := hthen
    -- The debit account that the second transfer finds is the one that the first one left.
    have hleft := (hadmissible.transferred first).debit_found
    obtain rfl := Option.some.inj (hleft.symm.trans hthen.debit_found)
    have hrest : (second : Int) ≤ debit.balance - first := hcovered
    exact ⟨debit, credit, hadmissible.of_amount (first + second), by omega⟩
  · rintro ⟨debit, credit, hadmissible, hcovered⟩
    have hexecuted := hfirstIff.2 ⟨debit, credit, hadmissible.of_amount first, by omega⟩
    have hrest : (second : Int) ≤ debit.balance - first := by omega
    refine ⟨hexecuted, ?_⟩
    rw [next_transfer hplain hfirst hexecuted, hasCode_transfer_iff hplain hsecond hsecondLimit]
    exact ⟨_, _, (hadmissible.of_amount second).transferred first, hrest⟩

/-- Where the transfer of the sum is executed, the two transfers leave the same accounts. -/
theorem next_add {today later once : Date}
    (h : HasCode (answer accounts (.transfer currency debitId creditId (first + second) once))
      .executed) :
    next (next accounts (.transfer currency debitId creditId first today))
        (.transfer currency debitId creditId second later) =
      next accounts (.transfer currency debitId creditId (first + second) once) := by
  obtain ⟨hexecuted, hthen⟩ :=
    (hasCode_add_iff hplain hfirst hsecond hlimit accounts today later once).2 h
  rw [next_transfer hplain hsecond hthen, next_transfer hplain hfirst hexecuted,
    next_transfer hplain (Nat.add_pos_left hfirst second) h, post_transferred_transferred]
  rfl

end Sum

/-- The parts of an amount are transferred one after the other exactly when the amount is at once,
and then they leave the same accounts. -/
theorem transfers_join {parts : List (Nat × Date)} (hparts : parts ≠ [])
    (hpos : ∀ part ∈ parts, 0 < part.1) {amount : Nat}
    (hamount : (parts.map Prod.fst).sum = amount) (hlimit : amount.repr.toList.length ≤ digitLimit)
    (accounts : List Account) (once : Date) :
    let steps := parts.map fun part => Step.transfer currency debitId creditId part.1 part.2
    let whole := Step.transfer currency debitId creditId amount once
    ((∀ answer ∈ answers accounts steps, HasCode answer .executed) ↔
      HasCode (answer accounts whole) .executed) ∧
      (HasCode (answer accounts whole) .executed →
        final accounts steps = final accounts [whole]) := by
  induction parts generalizing accounts amount with
  | nil => exact absurd rfl hparts
  | cons part rest ih =>
      have hpart := hpos part List.mem_cons_self
      have hlater : ∀ part ∈ rest, 0 < part.1 := fun later hmem =>
        hpos later (List.mem_cons_of_mem part hmem)
      simp only [List.map_cons, List.sum_cons, answers_cons, final_cons, final_nil,
        List.forall_mem_cons] at hamount ih ⊢
      rcases eq_or_ne rest [] with rfl | hrest
      · obtain rfl : part.1 = amount := hamount
        have hanswer := hasCode_transfer_iff hplain hpart hlimit accounts
        simp only [List.map_nil, answers_nil, final_nil, List.not_mem_nil, false_implies,
          implies_true, and_true]
        exact ⟨(hanswer part.2).trans (hanswer once).symm,
          fun h => (transfer_on hplain hpart hlimit h part.2).2⟩
      · obtain ⟨later, hmem⟩ := List.exists_mem_of_ne_nil rest hrest
        have hsum : 0 < (rest.map Prod.fst).sum :=
          List.sum_pos_iff_exists_pos_nat.2 ⟨_, List.mem_map_of_mem hmem, hlater later hmem⟩
        subst hamount
        have hrestLimit := (Amount.length_repr_le_of_le (Nat.le_add_left _ _)).trans hlimit
        obtain ⟨hanswers, hfinal⟩ := ih hrest hlater rfl hrestLimit
          (next accounts (.transfer currency debitId creditId part.1 part.2))
        have hjoin := hasCode_add_iff hplain hpart hsum hlimit accounts part.2 once once
        rw [hanswers]
        refine ⟨hjoin, fun h => ?_⟩
        rw [hfinal (hjoin.2 h).2]
        exact next_add hplain hpart hsum hlimit h

/-- Splitting a transfer in two changes nothing. The two steps are both executed exactly when the
one step for the sum of their amounts is, and then all accounts are the same after both as after
the one. -/
theorem transfer_splits {first second : Nat} (hfirst : 0 < first) (hsecond : 0 < second)
    (hlimit : (first + second).repr.toList.length ≤ digitLimit) (accounts : List Account)
    (today later once : Date) :
    let transfer := Step.transfer currency debitId creditId
    ((∀ answer ∈ answers accounts [transfer first today, transfer second later],
        HasCode answer .executed) ↔
      HasCode (answer accounts (transfer (first + second) once)) .executed) ∧
      (HasCode (answer accounts (transfer (first + second) once)) .executed →
        final accounts [transfer first today, transfer second later] =
          final accounts [transfer (first + second) once]) := by
  have hpos : ∀ part ∈ [(first, today), (second, later)], 0 < part.1 := by simp [hfirst, hsecond]
  exact transfers_join hplain (List.cons_ne_nil _ _) hpos (by simp) hlimit accounts once

end Plain

/-- Two parts use up the balance of an account whose id is a keyword, but not with one unit more.
The id of the credit account occurs again. -/
theorem transfer_splits_keywords :
    let accounts : List Account := [⟨"FOR", -3, "usd"⟩, ⟨"TO", 50, "Usd"⟩, ⟨"FOR", 9, "NGN"⟩]
    let today : Date := ⟨2026, 1, 15, by decide⟩
    let transfer := Step.transfer "usd" "TO" "FOR"
    (transfer 50 today).instruction = "DEBIT 50 usd FROM ACCOUNT TO FOR CREDIT TO ACCOUNT FOR" ∧
      (∀ answer ∈ answers accounts [transfer 9 today, transfer 41 today],
        HasCode answer .executed) ∧
      final accounts [transfer 9 today, transfer 41 today] =
        [⟨"FOR", 47, "usd"⟩, ⟨"TO", 0, "Usd"⟩, ⟨"FOR", 9, "NGN"⟩] ∧
      ¬ ∀ answer ∈ answers accounts [transfer 9 today, transfer 42 today],
        HasCode answer .executed := by
  have hanswer : answer [⟨"FOR", -3, "usd"⟩, ⟨"TO", 50, "Usd"⟩, ⟨"FOR", 9, "NGN"⟩]
      (.transfer "usd" "TO" "FOR" 50 ⟨2026, 1, 15, by decide⟩) =
      .ok (.executed ⟨some .debit, some 50, some "USD", some "TO", some "FOR", none⟩
        [⟨"FOR", 47, -3, "USD"⟩, ⟨"TO", 0, 50, "USD"⟩]) := by rfl
  have hrefused : (answer [⟨"FOR", -3, "usd"⟩, ⟨"TO", 50, "Usd"⟩, ⟨"FOR", 9, "NGN"⟩]
      (.transfer "usd" "TO" "FOR" 51 ⟨2026, 1, 15, by decide⟩)).map Outcome.code =
      .ok .insufficientFunds := by rfl
  intro accounts today transfer
  have hplain : ∀ word ∈ ["usd", "TO", "FOR"], IsPlain word.toList := by decide
  have hexecuted : HasCode (answer accounts (transfer 50 today)) .executed :=
    Settlement.hasCode_iff.2 ⟨_, hanswer, rfl⟩
  obtain ⟨hcovered, hfinal⟩ := transfer_splits hplain (show 0 < 9 by decide)
    (show 0 < 41 by decide) (by decide) accounts today today today
  obtain ⟨hmore, -⟩ := transfer_splits hplain (show 0 < 9 by decide) (show 0 < 42 by decide)
    (by decide) accounts today today today
  refine ⟨rfl, hcovered.2 hexecuted, ?_, fun hboth => ?_⟩
  · rw [hfinal hexecuted, final_cons, final_nil, next, hanswer]
    rfl
  · exact absurd (HasCode.unique hrefused (hmore.1 hboth)) (by decide)

end Ledger

end Remittance
