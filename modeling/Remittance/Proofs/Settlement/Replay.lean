import Remittance.Proofs.Currency
import Remittance.Proofs.Settlement.Locality
import Remittance.Proofs.Settlement.Reports

/-!
# Answers from their own snapshots

The snapshots of an answer hold all that it was made from. `collect_replayed` says that they are
those of the accounts which they themselves describe, since a currency in normal form stays as it
is and no id among them repeats. So an answer comes again, with its log, from the accounts that it
reports (`settle_replays`).
-/

namespace Remittance

namespace Snapshot

/-- The account before that a snapshot describes has the same snapshot. -/
@[simp] theorem ofAccount_account_ofAccount (account : Account) :
    ofAccount (ofAccount account).account = ofAccount account := by
  simp only [ofAccount, Snapshot.account, Currency.normalize_normalize]

/-- The snapshots that are collected are collected again of the accounts that they describe. -/
theorem collect_replayed (debit credit : String) (seen : List String) (accounts : List Account) :
    collect debit credit seen ((collect debit credit seen accounts).map account) =
      collect debit credit seen accounts := by
  induction accounts generalizing seen with
  | nil => rfl
  | cons account rest ih =>
      rw [collect_cons]
      split
      · rename_i hwanted
        have hid : (ofAccount account).account.id = account.id := rfl
        rw [List.map_cons, collect_cons, hid, if_pos hwanted, ofAccount_account_ofAccount, ih]
      · exact ih seen

/-- The snapshots that are reported are those of the accounts that they describe. -/
theorem ofAccounts_replayed (accounts : List Account) (debit credit : String) :
    ofAccounts ((ofAccounts accounts debit credit).map account) debit credit =
      ofAccounts accounts debit credit :=
  collect_replayed debit credit [] accounts

end Snapshot

namespace Settlement

variable {accounts : List Account} {order : Instruction} {text : String} {today : Calendar.Date}
  {outcome : Outcome}

/-- Under a code of the rules on the accounts, the snapshots describe the accounts that the ids of
the instruction resolve to. -/
theorem map_account_snapshots {code : Code} (hcode : code ∈ accountCodes) (order : Instruction)
    (amount : Nat) (accounts : List Account) :
    (outcomeOf order amount accounts code).snapshots.map Snapshot.account =
      (Snapshot.ofAccounts accounts order.debitId order.creditId).map Snapshot.account := by
  rw [outcomeOf_snapshots_eq_map hcode, List.map_map]
  exact List.map_congr_left fun snapshot _ => account_settled order amount code snapshot

/-- A rule on the ids that decides the verdict decides it also where there are no accounts. -/
theorem orderVerdict_nil {amount : Nat} {code : Code} (hcode : code ∈ idCodes)
    (h : orderVerdict order amount accounts today = .ok code) :
    orderVerdict order amount [] today = .ok code := by
  unfold orderVerdict at h ⊢
  split
  · rename_i hinvalid
    rwa [if_pos hinvalid] at h
  rename_i hvalid
  rw [if_neg hvalid] at h
  split
  · rename_i hsame
    rwa [if_pos hsame] at h
  rename_i hdistinct
  rw [if_neg hdistinct] at h
  split at h
  · rename_i debit credit _ _
    obtain ⟨accountCode, hmem, htotal⟩ := accountVerdict_total order amount debit credit today
    obtain rfl : accountCode = code := Except.ok.inj (htotal.symm.trans h)
    have hapart : ∀ code ∈ accountCodes, code ∉ idCodes := by decide
    exact absurd hcode (hapart _ hmem)
  · exact h

/-- A judgement comes again from the accounts that its outcome describes. -/
theorem judge_replays (h : judge order accounts today = .ok outcome) :
    judge order (outcome.snapshots.map Snapshot.account) today = .ok outcome := by
  unfold judge at h
  split at h
  · exact nomatch h
  · rename_i hamount
    obtain rfl := Except.ok.inj h
    rw [judge, hamount]
  · rename_i amount hamount
    obtain ⟨code, hverdict⟩ := orderVerdict_total order amount accounts today
    rw [hverdict] at h
    obtain rfl := Except.ok.inj h
    rcases List.mem_append.1 (orderVerdict_mem hverdict) with hid | haccount
    · rw [outcomeOf_snapshots_of_mem_idCodes hid, List.map_nil, judge, hamount]
      show (orderVerdict order amount [] today).map _ = _
      rw [orderVerdict_nil hid hverdict]
      exact congrArg Except.ok (outcomeOf_of_mem_idCodes hid order amount [] accounts)
    · rw [map_account_snapshots haccount,
        judge_congr_of_ofAccounts_eq (Snapshot.ofAccounts_replayed ..), judge, hamount]
      exact congrArg (Except.map _) hverdict

/-- The report on a text comes again, with its log, from the accounts that its outcome describes. -/
theorem settle_eq_of_replay (h : (settle accounts text today).answer = .ok outcome) :
    settle (outcome.snapshots.map Snapshot.account) text today = settle accounts text today := by
  rw [settle_answer] at h
  cases horder : Instruction.parse? text with
  | none => simp only [settle, horder]
  | some order =>
      simp only [horder] at h
      simp only [settle, horder, h, judge_replays h]

/-- An outcome reports accounts exactly under the codes of the rules on the accounts. Settled on the
same date over the accounts that the snapshots describe, in their order and with the balances
before, the text gets the same answer and leaves the same log. -/
theorem settle_replays (h : (settle accounts text today).answer = .ok outcome) :
    (outcome.snapshots ≠ [] ↔ outcome.code ∈ accountCodes) ∧
      (settle (outcome.snapshots.map Snapshot.account) text today).answer = .ok outcome ∧
      (settle (outcome.snapshots.map Snapshot.account) text today).records =
        (settle accounts text today).records := by
  rw [settle_eq_of_replay h]
  refine ⟨?_, h, rfl⟩
  rcases (settles_iff.1 h).reports with ⟨hbare, hnone⟩ | ⟨hcode, _, _, _, _, _, hreports, _⟩
  · have hapart : ∀ code ∈ bareCodes, code ∉ accountCodes := by decide
    exact iff_of_false (not_not_intro hnone) (hapart _ hbare)
  · refine iff_of_true (fun hnone => ?_) hcode
    simpa [hnone] using hreports.pair

/-- The upper case of the currency is longer than the currency, and the ids occur again in other
currencies. -/
theorem settle_replays_expanded :
    let accounts : List Account :=
      [⟨"b", 5, "ß"⟩, ⟨"b", 70, "NGN"⟩, ⟨"c", 1, "ß"⟩, ⟨"a", 500, "ss"⟩, ⟨"a", 9, "USD"⟩]
    let replayed : List Account := [⟨"b", 5, "SS"⟩, ⟨"a", 500, "SS"⟩]
    let text := "DEBIT 500 ß FROM ACCOUNT a FOR CREDIT TO ACCOUNT b"
    let outcome : Outcome := .failed .unsupportedCurrency
      ⟨some .debit, some 500, some "SS", some "a", some "b", none⟩
      [⟨"b", 5, 5, "SS"⟩, ⟨"a", 500, 500, "SS"⟩]
    (settle accounts text ⟨2026, 1, 15, by decide⟩).answer = .ok outcome ∧
      outcome.snapshots.map Snapshot.account = replayed ∧
      (settle replayed text ⟨2026, 1, 15, by decide⟩).answer = .ok outcome := by
  have hanswer : (settle
      [⟨"b", 5, "ß"⟩, ⟨"b", 70, "NGN"⟩, ⟨"c", 1, "ß"⟩, ⟨"a", 500, "ss"⟩, ⟨"a", 9, "USD"⟩]
      "DEBIT 500 ß FROM ACCOUNT a FOR CREDIT TO ACCOUNT b" ⟨2026, 1, 15, by decide⟩).answer =
      .ok (.failed .unsupportedCurrency
        ⟨some .debit, some 500, some "SS", some "a", some "b", none⟩
        [⟨"b", 5, 5, "SS"⟩, ⟨"a", 500, 500, "SS"⟩]) := by rfl
  intro accounts replayed text outcome
  exact ⟨hanswer, rfl, (settle_replays hanswer).2.1⟩

end Settlement

end Remittance
