import Remittance.Proofs.Text.Search

/-!
# The search for keywords as a loop

`scan` looks for the letters of a keyword, checks whether a whole word is found, and goes on one
position behind a hit that is none. The search that looks at one position after the other finds the
same (`scan_eq_search`), because the keyword is no whole word where its letters do not match.
-/

namespace Remittance.Text

/-- The first position from this one on at which the letters of the keyword are matched. A position
before the text stands for its beginning, unless it lies below the signed 64-bit integers. -/
def hit (keyword text : List Char) (position : Int) : Except Fault (Option Nat) :=
  if position < -limit64 then .error .startBelow64
  else
    let places := List.range' position.toNat (text.length + 1 - position.toNat)
    .ok (places.find? fun place => beginsWith keyword (text.drop place))

/-- The text has a word from one position up to the other. -/
def isWholeWord (text : List Char) (start stop : Nat) : Bool :=
  (start == 0 || text[start - 1]? == some ' ') &&
    (stop == text.length || text[stop]? == some ' ')

variable {keyword text : List Char} {position : Int} {found : Nat}

/-- The letters of a keyword are matched at a hit, and nowhere before it. -/
theorem of_hit_eq_some (h : hit keyword text position = .ok (some found)) :
    -limit64 ≤ position ∧ position.toNat ≤ found ∧ found ≤ text.length ∧
      beginsWith keyword (text.drop found) = true ∧
      ∀ place, position.toNat ≤ place → place < found →
        beginsWith keyword (text.drop place) = false := by
  unfold hit at h
  split at h
  · cases h
  · rename_i hbelow
    rw [Except.ok.injEq, List.find?_range'_eq_some, List.mem_range'_1] at h
    obtain ⟨hmatched, ⟨hle, hlt⟩, hbefore⟩ := h
    refine ⟨Int.not_lt.1 hbelow, hle, by omega, hmatched, fun place hplace hfound => ?_⟩
    simpa using hbefore place hplace hfound

/-- Without a hit, the letters of a keyword are not matched. -/
theorem of_hit_eq_none (h : hit keyword text position = .ok none) :
    -limit64 ≤ position ∧ ∀ place, position.toNat ≤ place → place < text.length →
      beginsWith keyword (text.drop place) = false := by
  unfold hit at h
  split at h
  · cases h
  · rename_i hbelow
    rw [Except.ok.injEq, List.find?_range'_eq_none] at h
    refine ⟨Int.not_lt.1 hbelow, fun place hplace hlt => ?_⟩
    simpa using h place hplace (by omega)

/-- Only a position that is far enough before the text is refused. -/
theorem of_hit_eq_error {fault : Fault} (h : hit keyword text position = .error fault) :
    position < -limit64 ∧ fault = .startBelow64 := by
  unfold hit at h
  split at h
  · rename_i hbelow
    cases h
    exact ⟨hbelow, rfl⟩
  · cases h

/-- Look for the keyword as a whole word, from one hit to the next. -/
def scan (keyword text : List Char) (position : Int) : Except Fault (Option Nat) :=
  if position < text.length then
    match h : hit keyword text position with
    | .error fault => .error fault
    | .ok none => .ok none
    | .ok (some found) =>
        if isWholeWord text found (found + keyword.length) then .ok (some found)
        else scan keyword text (found + 1)
  else .ok none
termination_by (text.length - position).toNat
decreasing_by
  obtain ⟨-, hle, -⟩ := of_hit_eq_some h
  omega

/-- A text that begins with the letters of a keyword is at least as long. -/
theorem length_le_of_beginsWith (h : beginsWith keyword text = true) :
    keyword.length ≤ text.length := by
  induction keyword generalizing text with
  | nil => exact Nat.zero_le _
  | cons letter keyword ih =>
      cases text with
      | nil => cases h
      | cons c rest =>
          rw [beginsWith, Bool.and_eq_true] at h
          exact Nat.succ_le_succ (ih h.2)

/-- The keyword is a whole word at a hit when the text has a word there. -/
theorem isWholeWord_eq (hend : found ≤ text.length)
    (h : beginsWith keyword (text.drop found) = true) :
    isWholeWord text found (found + keyword.length) =
      (opensAt text found && leads keyword (text.drop found)) := by
  have hfits := length_le_of_beginsWith h
  rw [List.length_drop] at hfits
  have hstop : text.length ≤ found + keyword.length ↔ found + keyword.length = text.length := by
    omega
  rw [Bool.eq_iff_iff, leads, h, Bool.true_and, List.drop_drop, Bool.and_eq_true, opensAt_iff,
    endsWord_drop_iff, hstop, isWholeWord]
  simp

/-- A search passes over positions at which the letters of the keyword are not matched. -/
theorem position?_of_unmatched {start stop : Nat} (hle : start ≤ stop) (hstop : stop ≤ text.length)
    (h : ∀ place, start ≤ place → place < stop →
      beginsWith keyword (text.drop place) = false) :
    position? text keyword start = position? text keyword stop := by
  induction hle using Nat.decreasingInduction with
  | self => rfl
  | of_succ start hlt ih =>
      have hhere : leads keyword (text.drop start) = false := by
        rw [leads, h start (Nat.le_refl start) hlt, Bool.false_and]
      rw [position?_of_lt (Nat.lt_of_lt_of_le hlt hstop), hhere, Bool.and_false,
        if_neg Bool.false_ne_true]
      exact ih fun place hplace => h place (Nat.le_of_succ_le hplace)

/-- A search from a start that is not too far before the text is not refused. -/
theorem search_of_le {start : Int} (h : -limit64 ≤ start) :
    search text keyword start = .ok (position? text keyword start) :=
  if_neg (Int.not_lt.2 h)

/-- In an empty text, an empty keyword is found from every start before it. -/
theorem scan_nil (start : Int) : scan [] [] start = search [] [] start := by
  rw [scan]
  split
  · rename_i hstart
    have hnegative : start < 0 := hstart
    split
    · rename_i fault hfault
      obtain ⟨hbelow, rfl⟩ := of_hit_eq_error hfault
      exact (if_pos hbelow).symm
    · rename_i hnone
      rw [hit, if_neg (Int.not_lt.2 (of_hit_eq_none hnone).1),
        Int.toNat_of_nonpos (Int.le_of_lt hnegative)] at hnone
      cases hnone
    · rename_i found hfound
      obtain ⟨hbelow, -, hend, -⟩ := of_hit_eq_some hfound
      obtain rfl : found = 0 := Nat.le_zero.1 hend
      rw [search_of_le hbelow]
      simp [isWholeWord, position?, hnegative]
  · rename_i hstart
    have hnonnegative : 0 ≤ start := Int.not_lt.1 hstart
    rw [search_of_le (Int.le_trans (by decide) hnonnegative)]
    simp [position?, hnonnegative, firstFrom?]

/-- A hit lies before the end of the text, unless there is nothing to search and nothing to look
for. -/
theorem lt_of_hit (hvoid : ¬(text = [] ∧ keyword = [])) (hlt : position < text.length)
    (h : hit keyword text position = .ok (some found)) : found < text.length := by
  obtain ⟨-, hle, hend, hmatched, hbefore⟩ := of_hit_eq_some h
  refine Nat.lt_of_le_of_ne hend fun hfound => ?_
  -- At the end only an empty keyword is matched, and that is matched at the start already.
  have hlength := length_le_of_beginsWith hmatched
  rw [hfound, List.drop_length, List.length_nil, Nat.le_zero, List.length_eq_zero_iff] at hlength
  have htext : text.length ≠ 0 := fun hnil =>
    hvoid ⟨List.length_eq_zero_iff.1 hnil, hlength⟩
  have hstart := hbefore position.toNat (Nat.le_refl _) (by omega)
  rw [hlength] at hstart
  cases hstart

/-- The loop over the hits finds what the search over all positions finds, from any start. -/
theorem scan_eq_search (keyword text : List Char) (start : Int) :
    scan keyword text start = search text keyword start := by
  by_cases hvoid : text = [] ∧ keyword = []
  · obtain ⟨rfl, rfl⟩ := hvoid
    exact scan_nil start
  · fun_induction scan keyword text start with
    | case1 start hlt fault herror =>
        obtain ⟨hbelow, rfl⟩ := of_hit_eq_error herror
        exact (if_pos hbelow).symm
    | case2 start hlt hnone =>
        obtain ⟨hstart, hunmatched⟩ := of_hit_eq_none hnone
        rw [search_of_le hstart, position?_toNat hvoid,
          position?_of_unmatched (by omega) (Nat.le_refl _) hunmatched,
          position?_of_le (Nat.le_refl _)]
    | case3 start hlt found hfound hwhole =>
        obtain ⟨hstart, hle, hend, hmatched, hbefore⟩ := of_hit_eq_some hfound
        rw [isWholeWord_eq hend hmatched] at hwhole
        rw [search_of_le hstart, position?_toNat hvoid, position?_of_unmatched hle hend hbefore,
          position?_of_lt (lt_of_hit hvoid hlt hfound), if_pos hwhole]
    | case4 start hlt found hfound hpart ih =>
        obtain ⟨hstart, hle, hend, hmatched, hbefore⟩ := of_hit_eq_some hfound
        rw [isWholeWord_eq hend hmatched] at hpart
        have hnext : (0 : Int) ≤ found + 1 := by omega
        rw [ih, search_of_le (Int.le_trans (by decide) hnext), search_of_le hstart, position?_toNat hvoid start,
          position?_of_unmatched hle hend hbefore,
          position?_of_lt (lt_of_hit hvoid hlt hfound), if_neg hpart, Int.natCast_succ]
    | case5 start hend =>
        have hstart : (text.length : Int) ≤ start := Int.not_lt.1 hend
        have hnonnegative : 0 ≤ start := by omega
        rw [search_of_le (Int.le_trans (by decide) hnonnegative), position?_toNat hvoid, position?_of_le (by omega)]

end Remittance.Text
