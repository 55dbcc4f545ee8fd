import Remittance.Text.Piece

/-!
# Pieces and the text they are cut from

A text is its first piece and each further piece behind a separator (`eq_append_behind`), and no
piece holds a separator. In the other direction, a text without a separator is cut off in front of
the next one (`pieces_append`).
-/

namespace Remittance.Text

variable {separator : Char}

/-- The text behind a piece: a separator before each further piece. -/
def behind (separator : Char) (pieces : List (List Char)) : List Char :=
  pieces.flatMap (separator :: ·)

@[simp] theorem behind_nil : behind separator [] = [] := rfl

@[simp] theorem behind_cons (piece : List Char) (rest : List (List Char)) :
    behind separator (piece :: rest) = separator :: (piece ++ behind separator rest) := rfl

/-- Every text has a first piece. -/
theorem exists_pieces_eq_cons (separator : Char) (text : List Char) :
    ∃ piece rest, pieces separator text = piece :: rest := by
  cases text with
  | nil => exact ⟨[], [], rfl⟩
  | cons c text =>
      rw [pieces]
      split
      · exact ⟨_, _, rfl⟩
      · split <;> exact ⟨_, _, rfl⟩

theorem pieces_cons_separator (text : List Char) :
    pieces separator (separator :: text) = [] :: pieces separator text := by
  obtain ⟨piece, rest, h⟩ := exists_pieces_eq_cons separator text
  simp [pieces, h]

theorem pieces_cons_of_ne {c : Char} (hc : c ≠ separator) {text piece : List Char}
    {rest : List (List Char)} (h : pieces separator text = piece :: rest) :
    pieces separator (c :: text) = (c :: piece) :: rest := by
  simp [pieces, h, hc]

/-- A text without a separator is cut off in front of the next one. -/
theorem pieces_append {word : List Char} (h : separator ∉ word) (text : List Char) :
    pieces separator (word ++ separator :: text) = word :: pieces separator text := by
  induction word with
  | nil => exact pieces_cons_separator text
  | cons c word ih =>
      simp only [List.mem_cons, not_or] at h
      exact pieces_cons_of_ne (Ne.symm h.1) (ih h.2)

/-- A text without a separator is one piece. -/
theorem pieces_of_not_mem {word : List Char} (h : separator ∉ word) :
    pieces separator word = [word] := by
  induction word with
  | nil => rfl
  | cons c word ih =>
      simp only [List.mem_cons, not_or] at h
      exact pieces_cons_of_ne (Ne.symm h.1) (ih h.2)

/-- A text is its first piece and each further piece behind a separator. -/
theorem eq_append_behind {text piece : List Char} {rest : List (List Char)}
    (h : pieces separator text = piece :: rest) : text = piece ++ behind separator rest := by
  induction text generalizing piece rest with
  | nil =>
      cases h
      rfl
  | cons c text ih =>
      obtain ⟨first, others, hlater⟩ := exists_pieces_eq_cons separator text
      have htext := ih hlater
      by_cases hc : c = separator
      · subst hc
        rw [pieces_cons_separator, hlater] at h
        cases h
        simp [htext]
      · rw [pieces_cons_of_ne hc hlater] at h
        cases h
        simp [htext]

/-- No piece holds a separator. -/
theorem not_mem_of_mem_pieces {text piece : List Char} (h : piece ∈ pieces separator text) :
    separator ∉ piece := by
  induction text generalizing piece with
  | nil =>
      have hpiece : piece = [] := by simpa [pieces] using h
      simp [hpiece]
  | cons c text ih =>
      obtain ⟨first, others, hlater⟩ := exists_pieces_eq_cons separator text
      by_cases hc : c = separator
      · subst hc
        rw [pieces_cons_separator, List.mem_cons] at h
        rcases h with rfl | hmem
        · simp
        · exact ih hmem
      · rw [pieces_cons_of_ne hc hlater, List.mem_cons] at h
        rcases h with rfl | hmem
        · have hfirst := ih (hlater ▸ List.mem_cons_self)
          simp [Ne.symm hc, hfirst]
        · exact ih (hlater ▸ List.mem_cons_of_mem _ hmem)

end Remittance.Text
