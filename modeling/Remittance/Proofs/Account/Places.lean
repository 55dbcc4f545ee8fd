import Mathlib.Data.List.Nodup
import Remittance.Proofs.Account.Snapshots

/-!
# Places of accounts and the order of snapshots

`place` is where the first account with an id stands. Snapshots are reported in the order of these
places, however the accounts with the two ids are interleaved (`pairwise_place_ofAccounts`), so two
ids that resolve are reported as an ordered pair (`ofAccounts_eq`). For any two ids,
`ofAccounts_resolve` says that what is reported is what the ids resolve to.
-/

namespace Remittance

namespace Account

/-- The number of accounts before the first one with this id. -/
def place (accounts : List Account) (id : String) : Nat :=
  accounts.findIdx (·.id == id)

/-- The first account of a list has the first place. -/
theorem place_cons (account : Account) (rest : List Account) (id : String) :
    place (account :: rest) id = if account.id = id then 0 else place rest id + 1 := by
  rw [place, List.findIdx_cons]
  by_cases hid : account.id = id
  · simp [hid]
  · rw [beq_eq_false_iff_ne.2 hid, if_neg hid]
    rfl

/-- An id resolves to the account at its place. -/
theorem find?_eq_getElem?_place (accounts : List Account) (id : String) :
    find? accounts id = accounts[place accounts id]? :=
  List.find?_eq_getElem?_findIdx

/-- Different ids that resolve have different places. -/
theorem place_ne {accounts : List Account} {debit credit : Account} {debitId creditId : String}
    (hdistinct : debitId ≠ creditId) (hdebit : find? accounts debitId = some debit)
    (hcredit : find? accounts creditId = some credit) :
    place accounts debitId ≠ place accounts creditId := by
  intro hplace
  have hsame : debit = credit := by
    rw [find?_eq_getElem?_place, hplace, ← find?_eq_getElem?_place, hcredit] at hdebit
    exact (Option.some.inj hdebit).symm
  exact hdistinct ((find?_id hdebit).symm.trans (hsame ▸ find?_id hcredit))

end Account

namespace Snapshot

open Account (place)

variable {accounts : List Account} {debit credit : Account}

/-- Snapshots are collected in the order of the places of their accounts. -/
theorem pairwise_place_collect (debit credit : String) (seen : List String)
    (accounts : List Account) :
    (collect debit credit seen accounts).Pairwise fun first second =>
      place accounts first.id < place accounts second.id := by
  induction accounts generalizing seen with
  | nil => exact List.Pairwise.nil
  | cons account rest ih =>
      -- What is collected behind the head has another id, so its place moves on by one.
      have hlater : ∀ seen : List String,
          (∀ snapshot ∈ collect debit credit seen rest, account.id ≠ snapshot.id) →
          (collect debit credit seen rest).Pairwise fun first second =>
            place (account :: rest) first.id < place (account :: rest) second.id := by
        intro seen hother
        refine (ih seen).imp_of_mem fun {first second} hfirst hsecond hlt => ?_
        rw [Account.place_cons, Account.place_cons, if_neg (hother first hfirst),
          if_neg (hother second hsecond)]
        exact Nat.succ_lt_succ hlt
      rw [collect_cons]
      split
      · have hother : ∀ snapshot ∈ collect debit credit (account.id :: seen) rest,
            account.id ≠ snapshot.id := by
          intro snapshot hmem hid
          exact (mem_collect.1 hmem).2.1 (by simp [hid])
        refine List.pairwise_cons.2 ⟨?_, hlater _ hother⟩
        intro snapshot hmem
        rw [Account.place_cons, Account.place_cons, if_neg (hother snapshot hmem), ofAccount_id,
          if_pos rfl]
        exact Nat.succ_pos _
      · rename_i hwanted
        refine hlater seen fun snapshot hmem hid => ?_
        obtain ⟨hmine, hunseen, -⟩ := mem_collect.1 hmem
        exact hwanted (hid ▸ ⟨hmine, hunseen⟩)

/-- Snapshots are reported in the order of the places of their accounts. -/
theorem pairwise_place_ofAccounts (accounts : List Account) (debit credit : String) :
    (ofAccounts accounts debit credit).Pairwise fun first second =>
      place accounts first.id < place accounts second.id :=
  pairwise_place_collect debit credit [] accounts

/-- Two different ids that resolve are reported once each, and no other id is. -/
theorem ofAccounts_perm {debitId creditId : String} (hdistinct : debitId ≠ creditId)
    (hdebit : Account.find? accounts debitId = some debit)
    (hcredit : Account.find? accounts creditId = some credit) :
    (ofAccounts accounts debitId creditId).Perm [ofAccount debit, ofAccount credit] := by
  have hdebitId := Account.find?_id hdebit
  have hcreditId := Account.find?_id hcredit
  have hne : ofAccount debit ≠ ofAccount credit := by
    intro h
    exact hdistinct (by rw [← hdebitId, ← hcreditId]; exact congrArg Snapshot.id h)
  have hnodup := List.Nodup.of_map _ (nodup_ofAccounts accounts debitId creditId)
  refine (List.perm_ext_iff_of_nodup hnodup (by simp [hne])).2 fun snapshot => ?_
  rw [mem_ofAccounts, List.mem_pair]
  constructor
  · rintro ⟨hid | hid, account, hfound, rfl⟩
    · rw [hid, hdebit] at hfound
      exact .inl (congrArg ofAccount (Option.some.inj hfound).symm)
    · rw [hid, hcredit] at hfound
      exact .inr (congrArg ofAccount (Option.some.inj hfound).symm)
  · rintro (rfl | rfl)
    · exact ⟨.inl hdebitId, debit, by rwa [ofAccount_id, hdebitId], rfl⟩
    · exact ⟨.inr hcreditId, credit, by rwa [ofAccount_id, hcreditId], rfl⟩

/-- Two different ids that resolve are reported in the order of their places. -/
theorem ofAccounts_eq {debitId creditId : String} (hdistinct : debitId ≠ creditId)
    (hdebit : Account.find? accounts debitId = some debit)
    (hcredit : Account.find? accounts creditId = some credit) :
    ofAccounts accounts debitId creditId =
      if place accounts debitId < place accounts creditId then
        [ofAccount debit, ofAccount credit]
      else [ofAccount credit, ofAccount debit] := by
  have hperm := ofAccounts_perm hdistinct hdebit hcredit
  have hplaces := pairwise_place_ofAccounts accounts debitId creditId
  have hne := Account.place_ne hdistinct hdebit hcredit
  have hdebitId := Account.find?_id hdebit
  have hcreditId := Account.find?_id hcredit
  -- A list is determined by its members when it is ordered by place.
  split
  · rename_i hlt
    refine hperm.eq_of_pairwise (fun _ _ _ _ hlt hgt => absurd hlt (Nat.lt_asymm hgt)) hplaces ?_
    simpa only [List.pairwise_pair, ofAccount_id, hdebitId, hcreditId] using hlt
  · rename_i hge
    refine (hperm.trans (List.Perm.swap _ _ _)).eq_of_pairwise
      (fun _ _ _ _ hlt hgt => absurd hlt (Nat.lt_asymm hgt)) hplaces ?_
    have hlt : place accounts creditId < place accounts debitId := by omega
    simpa only [List.pairwise_pair, ofAccount_id, hdebitId, hcreditId] using hlt

/-- The snapshots of two ids, whether they are equal or resolve or not, have no id twice. There is
one with an id exactly when it is one of the two and resolves, with the balance and the currency in
upper case of the account that it resolves to. They stand in the order of the places of these
accounts. -/
theorem ofAccounts_resolve (accounts : List Account) (debit credit : String) :
    ((ofAccounts accounts debit credit).map (·.id)).Nodup ∧
      (∀ id, id ∈ (ofAccounts accounts debit credit).map (·.id) ↔
        (id = debit ∨ id = credit) ∧ Account.find? accounts id ≠ none) ∧
      (∀ snapshot ∈ ofAccounts accounts debit credit, ∃ account,
        Account.find? accounts snapshot.id = some account ∧
          snapshot.balance = account.balance ∧ snapshot.balanceBefore = account.balance ∧
          snapshot.currency = Text.upperCase account.currency) ∧
      (ofAccounts accounts debit credit).Pairwise fun first second =>
        place accounts first.id < place accounts second.id := by
  refine ⟨nodup_ofAccounts accounts debit credit, fun id => ?_, fun snapshot hmem => ?_,
    pairwise_place_ofAccounts accounts debit credit⟩
  · constructor
    · intro hmem
      obtain ⟨snapshot, hsnapshot, rfl⟩ := List.mem_map.1 hmem
      obtain ⟨hwanted, account, hfound, -⟩ := mem_ofAccounts.1 hsnapshot
      exact ⟨hwanted, by simp [hfound]⟩
    · intro ⟨hwanted, hresolves⟩
      obtain ⟨account, hfound⟩ := Option.ne_none_iff_exists'.1 hresolves
      exact List.mem_map.2 ⟨ofAccount account, ofAccount_mem_ofAccounts hwanted hfound,
        Account.find?_id hfound⟩
  · obtain ⟨-, account, hfound, rfl⟩ := mem_ofAccounts.1 hmem
    exact ⟨account, hfound, rfl, rfl, rfl⟩

/-- The two ids occur again in turn, with other balances and currencies. -/
theorem ofAccounts_resolve_repeated :
    let accounts : List Account :=
      [⟨"b", 5, "ß"⟩, ⟨"c", 7, "USD"⟩, ⟨"b", 70, "NGN"⟩, ⟨"a", 500, "usd"⟩, ⟨"b", 1, "usd"⟩,
        ⟨"a", 9, "NGN"⟩]
    let snapshot : Snapshot := ⟨"b", 5, 5, "SS"⟩
    ofAccounts accounts "a" "b" = [snapshot, ⟨"a", 500, 500, "USD"⟩] ∧
      snapshot ∈ ofAccounts accounts "a" "b" ∧
      (∃ account, Account.find? accounts snapshot.id = some account ∧
        snapshot.balance = account.balance ∧ snapshot.balanceBefore = account.balance ∧
        snapshot.currency = Text.upperCase account.currency) ∧
      (ofAccounts accounts "a" "b").Pairwise fun first second =>
        place accounts first.id < place accounts second.id := by
  intro accounts snapshot
  have hreported : ofAccounts accounts "a" "b" = [snapshot, ⟨"a", 500, 500, "USD"⟩] := by decide
  have hmem : snapshot ∈ ofAccounts accounts "a" "b" := by simp [hreported]
  obtain ⟨-, -, hresolves, hplaces⟩ := ofAccounts_resolve accounts "a" "b"
  exact ⟨hreported, hmem, hresolves snapshot hmem, hplaces⟩

end Snapshot

end Remittance
