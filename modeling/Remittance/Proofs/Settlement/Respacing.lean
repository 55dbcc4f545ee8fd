import Remittance.Proofs.Text.Respacing
import Remittance.Settlement.Report

/-!
# Settling texts with other space around the words

A text is settled by its normal form, which is made of the words of the text and single spaces. So
the separators between words and the blanks at the ends of a text are of no consequence
(`settle_respaced`).
-/

namespace Remittance

open Text (Respaced normalize)

/-- Texts with the same normal form are read alike. -/
theorem Instruction.parse?_of_normalize_eq {text other : String}
    (h : normalize text.toList = normalize other.toList) : parse? text = parse? other := by
  rw [parse?, parse?, h]

namespace Settlement

/-- The normal form of a text is normal, has the words of the trimmed text, and is its own normal
form. Texts that differ only in the separators between words and in the blanks at their ends are
settled in the same way, whatever the accounts and the day are. -/
theorem settle_respaced (text : String) :
    Text.IsNormal (normalize text.toList) ∧
      Text.spacedWords (normalize text.toList) = Text.rawWords (Text.trim text.toList) ∧
      normalize (normalize text.toList) = normalize text.toList ∧
      ∀ other : String, Respaced text.toList other.toList →
        ∀ accounts today, settle accounts text today = settle accounts other today := by
  refine ⟨Text.isNormal_normalize _, Text.spacedWords_normalize _, Text.normalize_normalize _, ?_⟩
  intro other hrespaced accounts today
  have hsame := Text.normalize_eq_iff.2 hrespaced
  rw [settle, settle, Instruction.parse?_of_normalize_eq hsame]

/-- A no-break space is a word of its own, which no change of separators removes. -/
theorem settle_respaced_no_break_space :
    let text := "\u001f DEBIT\t5\r\nUSD FROM ACCOUNT a \u00a0 FOR CREDIT TO ACCOUNT b\n"
    let other := "DEBIT 5 USD\tFROM \r\nACCOUNT a\n\u00a0\t\tFOR CREDIT TO ACCOUNT b\u2003"
    let accounts : List Account := [⟨"b", 0, "USD"⟩, ⟨"a", 5, "usd"⟩]
    let today : Calendar.Date := ⟨2026, 1, 15, by decide⟩
    Respaced text.toList other.toList ∧
      Text.rawWords (Text.trim text.toList) =
        ["DEBIT", "5", "USD", "FROM", "ACCOUNT", "a", "\u00a0", "FOR", "CREDIT", "TO", "ACCOUNT",
          "b"].map String.toList ∧
      Text.spacedWords (normalize text.toList) = Text.rawWords (Text.trim text.toList) ∧
      (settle accounts other today).answer.map Outcome.code = .ok .executed ∧
      settle accounts text today = settle accounts other today := by
  have hsettled : (settle [⟨"b", 0, "USD"⟩, ⟨"a", 5, "usd"⟩]
      "DEBIT 5 USD\tFROM \r\nACCOUNT a\n\u00a0\t\tFOR CREDIT TO ACCOUNT b\u2003"
      ⟨2026, 1, 15, by decide⟩).answer.map Outcome.code = .ok .executed := by rfl
  intro text other accounts today
  have hrespaced : Respaced text.toList other.toList := Text.normalize_eq_iff.1 (by decide)
  obtain ⟨-, hwords, -, hsettle⟩ := settle_respaced text
  exact ⟨hrespaced, by decide, hwords, hsettled, hsettle other hrespaced accounts today⟩

end Settlement

end Remittance
