import Mathlib.Logic.Relation
import Remittance.Proofs.Account.Ids
import Remittance.Proofs.Settlement.Answers
import Remittance.Proofs.Settlement.Footprint

/-!
# Answers and the accounts they name

An answer depends on the two accounts that its instruction names and on nothing else. `Alike` says
that an id stands for the same in two lists, and `Edit` lists the changes of a list that concern no
account that is named. `settle_names_only` says that alike accounts get the same answer, with the
snapshots in the order in which the accounts stand, and that no sequence of edits changes an answer.
-/

namespace Remittance

namespace Snapshot

variable {debit credit : String}

/-- Snapshots of a longer list are those of its beginning and, of the ids that it leaves, those of
the rest. -/
theorem collect_append (debit credit : String) (seen : List String)
    (before rest : List Account) :
    collect debit credit seen (before ++ rest) =
      collect debit credit seen before ++
        collect debit credit (((collect debit credit seen before).map (·.id)).reverse ++ seen)
          rest := by
  induction before generalizing seen with
  | nil => rfl
  | cons account before ih =>
      rw [List.cons_append, collect_cons, collect_cons]
      split
      · rw [ih]
        simp
      · exact ih seen

/-- The wanted ids of a list are seen behind it. -/
theorem mem_seen_behind {seen : List String} {before : List Account} {id : String}
    (hwanted : id = debit ∨ id = credit) (hmem : id ∈ before.map (·.id)) :
    id ∈ ((collect debit credit seen before).map (·.id)).reverse ++ seen := by
  by_cases hseen : id ∈ seen
  · exact List.mem_append_right _ hseen
  · refine List.mem_append_left _ (List.mem_reverse.2 ?_)
    cases hfound : Account.find? before id with
    | none =>
        obtain ⟨account, haccount, hid⟩ := List.mem_map.1 hmem
        exact absurd ⟨account, haccount, hid⟩ (Account.find?_eq_none_iff.1 hfound)
    | some account =>
        have hid : (ofAccount account).id = id := Account.find?_id hfound
        have hcollected : ofAccount account ∈ collect debit credit seen before :=
          mem_collect.2 ⟨hid.symm ▸ hwanted, hid.symm ▸ hseen, account, hid.symm ▸ hfound, rfl⟩
        exact hid ▸ List.mem_map_of_mem hcollected

/-- Accounts with other ids are not collected. -/
theorem collect_others {others : List Account}
    (h : ∀ account ∈ others, account.id ≠ debit ∧ account.id ≠ credit) (seen : List String) :
    collect debit credit seen others = [] := by
  rw [List.eq_nil_iff_forall_not_mem]
  intro snapshot hmem
  obtain ⟨hwanted, -, account, hfound, -⟩ := mem_collect.1 hmem
  obtain ⟨hdebit, hcredit⟩ := h account (List.mem_of_find?_eq_some hfound)
  rw [Account.find?_id hfound] at hdebit hcredit
  exact hwanted.elim hdebit hcredit

/-- The snapshot of an id is found among those reported. -/
theorem find?_ofAccounts {id : String} (hwanted : id = debit ∨ id = credit)
    (accounts : List Account) :
    (ofAccounts accounts debit credit).find? (·.id == id) = of? accounts id := by
  -- An id that is not seen is still to be collected where it resolves.
  have hcollect : ∀ seen : List String, id ∉ seen →
      (collect debit credit seen accounts).find? (·.id == id) = of? accounts id := by
    induction accounts with
    | nil => exact fun _ _ => rfl
    | cons account rest ih =>
        intro seen hseen
        rw [collect_cons, of?, Account.find?_cons]
        by_cases hid : account.id = id
        · rw [if_pos ⟨hid.symm ▸ hwanted, hid.symm ▸ hseen⟩, if_pos hid,
            List.find?_cons_of_pos (by simpa using hid)]
          rfl
        · rw [if_neg hid]
          split
          · rw [List.find?_cons_of_neg (by simpa using hid)]
            exact ih _ (by simp [hseen, Ne.symm hid])
          · exact ih seen hseen
  exact hcollect [] List.not_mem_nil

end Snapshot

namespace Account

/-- The id resolves in both lists or in neither, and where it does, to accounts with the same
balance and with currencies of the same upper case. -/
structure Alike (id : String) (accounts other : List Account) : Prop where
  resolves : (∃ account, IsFirst accounts id account) ↔ ∃ account, IsFirst other id account
  same : ∀ {account counterpart}, IsFirst accounts id account → IsFirst other id counterpart →
    account.balance = counterpart.balance ∧
      Text.upperCase account.currency = Text.upperCase counterpart.currency

/-- The first account with one id stands before the first with another in both lists or in
neither. -/
def SameOrder (first second : String) (accounts other : List Account) : Prop :=
  place accounts first < place accounts second ↔ place other first < place other second

/-- `Edit debit credit accounts other` is a change of a list that concerns neither id: accounts
with other ids are replaced by any number of such accounts, an id that occurs is repeated further
on, or the letters of a currency change their case. An account with another id is moved by two of
these changes. -/
inductive Edit (debit credit : String) : List Account → List Account → Prop where
  | others (before removed added after) :
      (∀ account ∈ removed, account.id ≠ debit ∧ account.id ≠ credit) →
      (∀ account ∈ added, account.id ≠ debit ∧ account.id ≠ credit) →
      Edit debit credit (before ++ (removed ++ after)) (before ++ (added ++ after))
  | again (before account after) :
      account.id ∈ before.map (·.id) →
      Edit debit credit (before ++ after) (before ++ account :: after)
  | recased (before account currency after) :
      Text.upperCase account.currency = Text.upperCase currency →
      Edit debit credit (before ++ account :: after)
        (before ++ { account with currency := currency } :: after)

variable {id debit credit : String} {accounts other : List Account}

/-- The two lists have the same part in being alike. -/
theorem Alike.symm (h : Alike id accounts other) : Alike id other accounts where
  resolves := h.resolves.symm
  same hother hfirst := ⟨(h.same hfirst hother).1.symm, (h.same hfirst hother).2.symm⟩

/-- The snapshot of an account is that of an alike one. -/
theorem Alike.of?_eq_some {snapshot : Snapshot} (h : Alike id accounts other)
    (hsnapshot : Snapshot.of? accounts id = some snapshot) :
    Snapshot.of? other id = some snapshot := by
  obtain ⟨account, hfound, rfl⟩ := Snapshot.of?_eq_some_iff.1 hsnapshot
  have hfirst := find?_eq_some_iff.1 hfound
  obtain ⟨counterpart, hother⟩ := h.resolves.1 ⟨account, hfirst⟩
  obtain ⟨hbalance, hcurrency⟩ := h.same hfirst hother
  have hotherFound := find?_eq_some_iff.2 hother
  refine Snapshot.of?_eq_some_iff.2 ⟨counterpart, hotherFound, ?_⟩
  simp only [Snapshot.ofAccount, Currency.normalize, hbalance, hcurrency, find?_id hfound,
    find?_id hotherFound]

/-- Where an id has the same snapshot in two lists, it resolves in the second if in the first. -/
theorem exists_isFirst_of_of?_eq (h : Snapshot.of? accounts id = Snapshot.of? other id) :
    (∃ account, IsFirst accounts id account) → ∃ account, IsFirst other id account := by
  rintro ⟨account, hfirst⟩
  obtain ⟨counterpart, hother, -⟩ := Snapshot.exists_of_of?_eq h (find?_eq_some_iff.2 hfirst)
  exact ⟨counterpart, find?_eq_some_iff.1 hother⟩

/-- Alike accounts are those with the same snapshot. -/
theorem alike_iff : Alike id accounts other ↔ Snapshot.of? accounts id = Snapshot.of? other id := by
  constructor
  · intro h
    exact Option.ext fun snapshot => ⟨h.of?_eq_some, h.symm.of?_eq_some⟩
  · intro h
    refine ⟨⟨exists_isFirst_of_of?_eq h, exists_isFirst_of_of?_eq h.symm⟩, ?_⟩
    intro account counterpart hfirst hother
    obtain ⟨found, hfound, hsame⟩ := Snapshot.exists_of_of?_eq h (find?_eq_some_iff.2 hfirst)
    rw [← hother.unique (find?_eq_some_iff.1 hfound)] at hsame
    exact ⟨congrArg Snapshot.balance hsame.symm, congrArg Snapshot.currency hsame.symm⟩

/-- An edit leaves the snapshots that are reported for the two ids as they are. -/
theorem Edit.ofAccounts_eq (h : Edit debit credit accounts other) :
    Snapshot.ofAccounts accounts debit credit = Snapshot.ofAccounts other debit credit := by
  unfold Snapshot.ofAccounts
  cases h with
  | others before removed added after hremoved hadded =>
      have hskip : ∀ others : List Account,
          (∀ account ∈ others, account.id ≠ debit ∧ account.id ≠ credit) →
          ∀ seen, Snapshot.collect debit credit seen (others ++ after) =
            Snapshot.collect debit credit seen after := by
        intro others hothers seen
        rw [Snapshot.collect_append, Snapshot.collect_others hothers]
        rfl
      rw [Snapshot.collect_append, Snapshot.collect_append _ _ _ before, hskip _ hremoved,
        hskip _ hadded]
  | again before account after hmem =>
      rw [Snapshot.collect_append, Snapshot.collect_append _ _ _ before, Snapshot.collect_cons,
        if_neg]
      intro hwanted
      exact hwanted.2 (Snapshot.mem_seen_behind hwanted.1 hmem)
  | recased before account currency after hcase =>
      have hsame : Snapshot.ofAccount { account with currency := currency } =
          Snapshot.ofAccount account := by
        simp only [Snapshot.ofAccount, Currency.normalize, hcase]
      rw [Snapshot.collect_append, Snapshot.collect_append _ _ _ before, Snapshot.collect_cons,
        Snapshot.collect_cons, hsame]

end Account

namespace Settlement

open Account (Alike Edit SameOrder)

variable {accounts other : List Account} {order : Instruction} {text : String}

/-- An instruction is judged in the same way wherever the same snapshots are reported for it. -/
theorem judge_congr_of_ofAccounts_eq
    (h : Snapshot.ofAccounts accounts order.debitId order.creditId =
      Snapshot.ofAccounts other order.debitId order.creditId) (today : Calendar.Date) :
    judge order accounts today = judge order other today := by
  have hlooks : ∀ id, id = order.debitId ∨ id = order.creditId →
      Snapshot.of? accounts id = Snapshot.of? other id := by
    intro id hwanted
    rw [← Snapshot.find?_ofAccounts hwanted, h, Snapshot.find?_ofAccounts hwanted]
  exact judge_congr_of_reports (hlooks order.debitId (.inl rfl)) (hlooks order.creditId (.inr rfl))
    (fun _ _ _ => h) today

/-- Alike accounts are reported in the opposite order where they do not stand in the same one. -/
theorem Resolves.ofAccounts_eq_reverse {debit credit : Account}
    (h : Resolves accounts order debit credit)
    (hdebit : Snapshot.of? accounts order.debitId = Snapshot.of? other order.debitId)
    (hcredit : Snapshot.of? accounts order.creditId = Snapshot.of? other order.creditId)
    (hplaces : ¬ SameOrder order.debitId order.creditId accounts other) :
    Snapshot.ofAccounts accounts order.debitId order.creditId =
      (Snapshot.ofAccounts other order.debitId order.creditId).reverse := by
  unfold SameOrder at hplaces
  rw [h.ofAccounts_other rfl rfl, h.ofAccounts_other hdebit hcredit]
  by_cases hbefore : Account.place accounts order.debitId < Account.place accounts order.creditId
  · have hother : ¬ Account.place other order.debitId < Account.place other order.creditId :=
      fun hlt => hplaces (iff_of_true hbefore hlt)
    rw [if_pos hbefore, if_neg hother]
    rfl
  · have hother : Account.place other order.debitId < Account.place other order.creditId :=
      Decidable.byContradiction fun hnot => hplaces (iff_of_false hbefore hnot)
    rw [if_neg hbefore, if_pos hother]
    rfl

/-- The answer to an instruction depends on the two accounts that it names. In two lists in which
these are alike it gets the same answer if they stand in the same order, and the answer with its
snapshots reversed if they do not. No edit that concerns neither id, and no sequence of edits made
or taken back, changes the answer. -/
theorem settle_names_only (horder : Instruction.parse? text = some order)
    (accounts other : List Account) (today : Calendar.Date) :
    (Alike order.debitId accounts other → Alike order.creditId accounts other →
      (SameOrder order.debitId order.creditId accounts other →
        (settle accounts text today).answer = (settle other text today).answer) ∧
      (¬ SameOrder order.debitId order.creditId accounts other →
        (settle accounts text today).answer =
          (settle other text today).answer.map (Outcome.arranged List.reverse))) ∧
      (Relation.EqvGen (Edit order.debitId order.creditId) accounts other →
        (settle accounts text today).answer = (settle other text today).answer) := by
  have hanswer : ∀ accounts, (settle accounts text today).answer = judge order accounts today := by
    intro accounts
    rw [settle_answer, horder]
  simp only [hanswer]
  refine ⟨fun hdebit hcredit => ?_, fun hedited => ?_⟩
  · rw [Account.alike_iff] at hdebit hcredit
    refine ⟨fun hplaces => judge_congr ⟨hdebit, hcredit, hplaces⟩ today, fun hplaces => ?_⟩
    exact judge_arranged rfl (fun _ _ => List.map_reverse.symm) hdebit hcredit
      (fun _ _ hresolves => hresolves.ofAccounts_eq_reverse hdebit hcredit hplaces) today
  · induction hedited with
    | rel accounts other hedit => exact judge_congr_of_ofAccounts_eq hedit.ofAccounts_eq today
    | refl accounts => rfl
    | symm accounts other _ ih => exact ih.symm
    | trans accounts between other _ _ ihFirst ihSecond => exact ihFirst.trans ihSecond

/-- The debit account stands first in one list and last in the other, where both accounts have
changed the case of their currencies, an account of no concern has come and gone, and the credit
account is repeated. -/
theorem settle_names_only_reversed :
    let accounts : List Account := [⟨"a", 9, "usd"⟩, ⟨"b", 0, "USD"⟩, ⟨"a", 70, "NGN"⟩]
    let other : List Account := [⟨"c", 1, "GBP"⟩, ⟨"b", 0, "Usd"⟩, ⟨"b", 3, "USD"⟩, ⟨"a", 9, "USD"⟩]
    let text := "CREDIT 5 USD TO ACCOUNT b FOR DEBIT FROM ACCOUNT a"
    let order : Instruction := ⟨.credit, "5", "USD", "a", "b", none⟩
    let today : Calendar.Date := ⟨2026, 1, 15, by decide⟩
    Instruction.parse? text = some order ∧ Alike order.debitId accounts other ∧
      Alike order.creditId accounts other ∧
      ¬ SameOrder order.debitId order.creditId accounts other ∧
      (settle accounts text today).answer =
        (settle other text today).answer.map (Outcome.arranged List.reverse) ∧
      Relation.EqvGen (Edit order.debitId order.creditId) accounts
        (accounts ++ [⟨"b", 3, "USD"⟩]) ∧
      (settle accounts text today).answer =
        (settle (accounts ++ [⟨"b", 3, "USD"⟩]) text today).answer := by
  have horder : Instruction.parse? "CREDIT 5 USD TO ACCOUNT b FOR DEBIT FROM ACCOUNT a" =
      some ⟨.credit, "5", "USD", "a", "b", none⟩ := by rfl
  intro accounts other text order today
  have hdebitLooks : ∀ list ∈ [accounts, other],
      Snapshot.of? list "a" = some ⟨"a", 9, 9, "USD"⟩ := by decide
  have hcreditLooks : ∀ list ∈ [accounts, other],
      Snapshot.of? list "b" = some ⟨"b", 0, 0, "USD"⟩ := by decide
  have hdebit : Alike order.debitId accounts other :=
    Account.alike_iff.2
      ((hdebitLooks accounts (by simp)).trans (hdebitLooks other (by simp)).symm)
  have hcredit : Alike order.creditId accounts other :=
    Account.alike_iff.2
      ((hcreditLooks accounts (by simp)).trans (hcreditLooks other (by simp)).symm)
  have hplaces : ¬ SameOrder order.debitId order.creditId accounts other := by
    unfold SameOrder
    decide
  have hedited : Relation.EqvGen (Edit order.debitId order.creditId) accounts
      (accounts ++ [⟨"b", 3, "USD"⟩]) :=
    .rel _ _ (.again accounts ⟨"b", 3, "USD"⟩ [] (by decide))
  exact ⟨horder, hdebit, hcredit, hplaces,
    ((settle_names_only horder accounts other today).1 hdebit hcredit).2 hplaces, hedited,
    (settle_names_only horder accounts _ today).2 hedited⟩

end Settlement

end Remittance
