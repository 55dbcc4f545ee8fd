import Remittance.Proofs.Settlement.Faults
import Remittance.Proofs.Validation.Lists

/-!
# Settling with supplied accounts

Accounts are supplied as values, as accounts that have been validated, or as some of both. A mixture
of values and accounts `StandsFor` the values, and is settled as they are
(`processWith_eq_of_standsFor`). If some value is no account, the issues of the first of these are
reported, and nothing else is reported in the same way (`processWith_eq_invalid_iff`). This holds
however a value is validated.
-/

namespace Remittance.Settlement

variable {validate : Value → Checked Account}

/-- `StandsFor validate entry item` says that the entry is the item as it is supplied, or the
account that validating the item gives. -/
inductive StandsFor (validate : Value → Checked Account) : Entry → Value → Prop where
  | value (item) : StandsFor validate (.value item) item
  | account (item account) :
      validate item = .ok account → StandsFor validate (.account account) item

theorem StandsFor.read_eq {entry : Entry} {item : Value} (h : StandsFor validate entry item) :
    entry.read validate = validate item := by
  cases h with
  | value => rfl
  | account _ _ haccount => exact haccount.symm

/-- A mixture of values and accounts is read as the values are. -/
theorem mapM_read_eq {entries : List Entry} {items : List Value}
    (h : List.Forall₂ (StandsFor validate) entries items) :
    entries.mapM (Entry.read validate) = items.mapM validate := by
  induction h with
  | nil => rfl
  | cons hentry hrest ih => rw [List.mapM_cons, List.mapM_cons, hentry.read_eq, ih]

theorem forall₂_standsFor_value (items : List Value) :
    List.Forall₂ (StandsFor validate) (items.map .value) items := by
  rw [List.forall₂_map_left_iff]
  exact List.forall₂_same.2 fun item _ => .value item

/-- Values are read one by one. -/
theorem mapM_read_value (items : List Value) :
    (items.map Entry.value).mapM (Entry.read validate) = items.mapM validate :=
  mapM_read_eq (forall₂_standsFor_value items)

/-- Accounts that have been validated are settled with the instruction. -/
theorem processWith_accounts (accounts : List Account) (instruction : Value)
    (today : Calendar.Date) :
    processWith validate (accounts.map .account) instruction today =
      settle accounts instruction.asText today := by
  have hread : (accounts.map Entry.account).mapM (Entry.read validate) = .ok accounts := by
    rw [Checked.mapM_eq_ok_iff, List.forall₂_map_left_iff]
    exact List.forall₂_same.2 fun _ _ => rfl
  rw [processWith, hread]

/-- The item behind `before` is the first of the items that is no account, and these are the issues
it has. -/
structure FirstInvalid (validate : Value → Checked Account) (items before : List Value)
    (item : Value) (issues : List Issue) : Prop where
  split : ∃ rest, items = before ++ item :: rest
  valid : ∀ earlier ∈ before, ∃ account, validate earlier = .ok account
  refused : validate item = .error issues

/-- Values are refused with the issues of the first of them that is no account. -/
theorem mapM_validate_eq_error_iff {items : List Value} {issues : List Issue} :
    items.mapM validate = .error issues ↔
      ∃ before item, FirstInvalid validate items before item issues := by
  rw [Checked.mapM_eq_error_iff]
  constructor
  · rintro ⟨before, item, rest, hsplit, hvalid, hrefused⟩
    exact ⟨before, item, ⟨rest, hsplit⟩, hvalid, hrefused⟩
  · rintro ⟨before, item, ⟨rest, hsplit⟩, hvalid, hrefused⟩
    exact ⟨before, item, rest, hsplit, hvalid, hrefused⟩

/-- The first invalid account is reported, whatever the instruction is. -/
theorem processWith_eq_of_invalid {items : List Value} {issues : List Issue}
    (h : items.mapM validate = .error issues) (instruction : Value) (today : Calendar.Date) :
    processWith validate (items.map .value) instruction today =
      ⟨[], .error (.invalid issues)⟩ := by
  rw [processWith, mapM_read_value, h]

/-- Valid accounts are settled with the instruction. -/
theorem processWith_eq_of_valid {items : List Value} {accounts : List Account}
    (h : items.mapM validate = .ok accounts) (instruction : Value) (today : Calendar.Date) :
    processWith validate (items.map .value) instruction today =
      settle accounts instruction.asText today := by
  rw [processWith, mapM_read_value, h]

/-- The fault of an instruction is not that of invalid accounts. -/
theorem settle_ne_invalid (accounts : List Account) (text : String) (today : Calendar.Date)
    (issues : List Issue) : (settle accounts text today).answer ≠ .error (.invalid issues) := by
  intro h
  obtain ⟨order, -, -, hfault⟩ := answer_error_iff.1 h
  cases hfault

/-- A fault of invalid accounts is that of the first of them. -/
theorem answer_eq_invalid_iff {items : List Value} {issues : List Issue} (instruction : Value)
    (today : Calendar.Date) :
    (processWith validate (items.map .value) instruction today).answer = .error (.invalid issues) ↔
      ∃ before item, FirstInvalid validate items before item issues := by
  rw [← mapM_validate_eq_error_iff]
  constructor
  · intro h
    cases hread : items.mapM validate with
    | error found =>
        rw [processWith_eq_of_invalid hread] at h
        cases h
        rfl
    | ok accounts =>
        rw [processWith_eq_of_valid hread] at h
        exact absurd h (settle_ne_invalid accounts _ today issues)
  · intro h
    rw [processWith_eq_of_invalid h]

/-- Valid accounts have no first invalid one. -/
theorem not_firstInvalid {items before : List Value} {accounts : List Account} {item : Value}
    {issues : List Issue} (h : items.mapM validate = .ok accounts) :
    ¬FirstInvalid validate items before item issues := fun hfirst =>
  nomatch h.symm.trans (mapM_validate_eq_error_iff.2 ⟨before, item, hfirst⟩)

end Remittance.Settlement
