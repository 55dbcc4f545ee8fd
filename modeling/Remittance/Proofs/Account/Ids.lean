import Remittance.Account.Basic
import Remittance.Proofs.Text.Words

/-!
# Ids of accounts

`IsFirst` says which account an id resolves to, by the place of the account in the list, and
`AreIdCharacters` which characters an id may have. Looking an id up and validating it agree with
the two (`find?_eq_some_iff`, `isId_iff`).
-/

namespace Remittance.Account

/-- The account is in the list, has the id, and no account before it has it. -/
def IsFirst (accounts : List Account) (id : String) (account : Account) : Prop :=
  ∃ before rest, accounts = before ++ account :: rest ∧ account.id = id ∧
    ∀ other ∈ before, other.id ≠ id

/-- An id resolves to the first account with it. -/
theorem find?_eq_some_iff {accounts : List Account} {id : String} {account : Account} :
    find? accounts id = some account ↔ IsFirst accounts id account := by
  rw [find?, List.find?_eq_some_iff_append]
  constructor
  · rintro ⟨hid, before, rest, hsplit, hbefore⟩
    exact ⟨before, rest, hsplit, by simpa using hid, by simpa using hbefore⟩
  · rintro ⟨before, rest, hsplit, hid, hbefore⟩
    exact ⟨by simpa using hid, before, rest, hsplit, by simpa using hbefore⟩

/-- At most one account is the first with an id. -/
theorem IsFirst.unique {accounts : List Account} {id : String} {account other : Account}
    (h : IsFirst accounts id account) (hother : IsFirst accounts id other) : account = other := by
  rw [← find?_eq_some_iff] at h hother
  exact Option.some.inj (h.symm.trans hother)

/-- The account at a position is the first with its id when no account before it has the id. -/
theorem IsFirst.of_getElem? {accounts : List Account} {position : Nat} {account : Account}
    (h : accounts[position]? = some account)
    (hfirst : account.id ∉ (accounts.take position).map (·.id)) :
    IsFirst accounts account.id account := by
  obtain ⟨hlt, hat⟩ := List.getElem?_eq_some_iff.1 h
  refine ⟨accounts.take position, accounts.drop (position + 1), ?_, rfl, ?_⟩
  · rw [← hat, List.getElem_cons_drop hlt, List.take_append_drop]
  · intro other hmem hid
    exact hfirst (hid ▸ List.mem_map_of_mem hmem)

/-- An id resolves to nothing when it is no account's id. -/
theorem find?_eq_none_iff {accounts : List Account} {id : String} :
    find? accounts id = none ↔ ¬ ∃ account ∈ accounts, account.id = id := by
  simp [find?]

/-- The characters of the text are ASCII letters, digits, hyphens, points, and at signs. -/
def AreIdCharacters (text : String) : Prop :=
  ∀ c ∈ text.toList, ('A' ≤ c ∧ c ≤ 'Z') ∨ ('a' ≤ c ∧ c ≤ 'z') ∨ ('0' ≤ c ∧ c ≤ '9') ∨
    c = '-' ∨ c = '.' ∨ c = '@'

/-- A text that is not empty is well formed as an id when its characters are. -/
theorem isId_iff {text : String} (hne : text ≠ "") : isId text = true ↔ AreIdCharacters text := by
  have hempty : text.toList.isEmpty = false := by
    simpa [List.isEmpty_eq_false_iff] using hne
  have hupper : ∀ c : Char, c.isUpper = true ↔ 'A' ≤ c ∧ c ≤ 'Z' := fun _ => decide_eq_true_iff
  have hlower : ∀ c : Char, c.isLower = true ↔ 'a' ≤ c ∧ c ≤ 'z' := by
    intro c
    show (decide (c.val ≥ 'a'.val) && decide (c.val ≤ 'z'.val)) = true ↔ _
    rw [Bool.and_eq_true, decide_eq_true_iff, decide_eq_true_iff]
    exact Iff.rfl
  have hletter : ∀ c : Char, c.isAlpha = (c.isUpper || c.isLower) := fun _ => rfl
  simp only [isId, hempty, Bool.not_false, Bool.true_and, List.all_eq_true, AreIdCharacters,
    isIdCharacter, Char.isAlphanum, hletter, hupper, hlower, Char.isDigit, Bool.or_eq_true,
    Bool.and_eq_true, decide_eq_true_eq, beq_iff_eq, or_assoc]
  exact Iff.rfl

/-- The code points of the characters that an id may have are those of visible ASCII. -/
theorem AreIdCharacters.visible {text : String} (h : AreIdCharacters text) :
    ∀ c ∈ text.toList, 0x21 ≤ c.toNat ∧ c.toNat ≤ 0x7E := by
  intro c hc
  have hrange : ∀ first last : Char, first ≤ c ∧ c ≤ last →
      first.toNat ≤ c.toNat ∧ c.toNat ≤ last.toNat := fun _ _ h => h
  rcases h c hc with hletter | hletter | hdigit | rfl | rfl | rfl
  · have := hrange 'A' 'Z' hletter
    exact ⟨Nat.le_trans (by decide) this.1, Nat.le_trans this.2 (by decide)⟩
  · have := hrange 'a' 'z' hletter
    exact ⟨Nat.le_trans (by decide) this.1, Nat.le_trans this.2 (by decide)⟩
  · have := hrange '0' '9' hdigit
    exact ⟨Nat.le_trans (by decide) this.1, Nat.le_trans this.2 (by decide)⟩
  all_goals decide

/-- A text that is well formed as an id is a plain word. -/
theorem isPlain_of_isId {text : String} (h : isId text = true) : Text.IsPlain text.toList := by
  have hne : text ≠ "" := by
    rintro rfl
    simp [isId] at h
  exact Text.isPlain_of_visible (by simpa using hne) ((isId_iff hne).1 h).visible

end Remittance.Account
