import Mathlib.Order.Bounds.Basic
import Remittance.Text.Keyword

/-!
# Searching for keywords position by position

`StandsAt keyword text position` says character by character that a keyword is a whole word at a
position of a text. A search looks at one position after the other and stops where the keyword
stands, so it gives the least such position from its start on, or none where there is none
(`search_least`). Starts before the beginning do the same, except that a search takes no start
below the signed 64-bit integers (`not_search_every_start`).
-/

namespace Remittance.Text

/-- The keyword is a whole word at this position of the text: its letters match the characters
there, whatever their case, and a space or an end of the text is on each side. -/
structure StandsAt (keyword text : List Char) (position : Nat) : Prop where
  letters : ∀ index letter, keyword[index]? = some letter →
    ∃ c, text[position + index]? = some c ∧ sameLetter letter c = true
  opens : position = 0 ∨ text[position - 1]? = some ' '
  ends : position + keyword.length = text.length ∨ text[position + keyword.length]? = some ' '

/-- The answer is the least of the wanted positions, or nothing is wanted and there is no
answer. -/
def Finds (wanted : Set Nat) : Option Nat → Prop
  | some position => IsLeast wanted position
  | none => wanted = ∅

section Finds

variable {wanted : Set Nat} {found : Option Nat}

/-- The answer is a position exactly when that is the least one. -/
theorem Finds.eq_some_iff (h : Finds wanted found) (position : Nat) :
    found = some position ↔ IsLeast wanted position := by
  cases found with
  | none =>
      obtain rfl : wanted = ∅ := h
      simp [IsLeast]
  | some least =>
      have hleast : IsLeast wanted least := h
      rw [Option.some.injEq]
      exact ⟨fun heq => heq ▸ hleast, fun hposition => hleast.unique hposition⟩

/-- There is no answer exactly when nothing is wanted. -/
theorem Finds.eq_none_iff (h : Finds wanted found) : found = none ↔ wanted = ∅ := by
  cases found with
  | none => exact iff_of_true rfl h
  | some least =>
      have hleast : IsLeast wanted least := h
      exact iff_of_false (Option.some_ne_none least) hleast.nonempty.ne_empty

end Finds

variable {keyword text : List Char} {position : Nat}

/-- A text begins with the letters of a keyword when each is matched at its place. -/
theorem beginsWith_iff : beginsWith keyword text = true ↔
    ∀ (index : Nat) letter, keyword[index]? = some letter →
      ∃ c, text[index]? = some c ∧ sameLetter letter c = true := by
  induction keyword generalizing text with
  | nil => simp [beginsWith]
  | cons first keyword ih =>
      cases text with
      | nil =>
          refine iff_of_false Bool.false_ne_true fun hletters => ?_
          obtain ⟨c, hc, -⟩ := hletters 0 first rfl
          cases hc
      | cons c text =>
          rw [beginsWith, Bool.and_eq_true, ih]
          constructor
          · intro ⟨hfirst, hletters⟩ index letter hletter
            cases index with
            | zero =>
                obtain rfl := Option.some.inj hletter
                exact ⟨c, rfl, hfirst⟩
            | succ index => exact hletters index letter hletter
          · intro hletters
            obtain ⟨_, hc, hfirst⟩ := hletters 0 first rfl
            obtain rfl := Option.some.inj hc
            exact ⟨hfirst, fun index => hletters (index + 1)⟩

/-- A word that stands before a position ends there when a space or the end of the text does. -/
theorem endsWord_drop_iff :
    endsWord (text.drop position) = true ↔
      text.length ≤ position ∨ text[position]? = some ' ' := by
  by_cases hend : text.length ≤ position
  · rw [List.drop_eq_nil_of_le hend]
    exact iff_of_true rfl (.inl hend)
  · rw [List.drop_eq_getElem_cons (Nat.lt_of_not_le hend),
      List.getElem?_eq_getElem (Nat.lt_of_not_le hend)]
    simp [endsWord, isGap, hend]

/-- A word may begin at the first position and behind a space. -/
theorem opensAt_iff :
    opensAt text position = true ↔ position = 0 ∨ text[position - 1]? = some ' ' := by
  cases position with
  | zero => simp [opensAt]
  | succ before => simp [opensAt, isGap, Option.any_eq_true]

/-- Letters that are matched fit in the text. -/
theorem length_le_of_letters (hkeyword : keyword ≠ [])
    (hletters : ∀ index letter, keyword[index]? = some letter →
      ∃ c, text[position + index]? = some c ∧ sameLetter letter c = true) :
    position + keyword.length ≤ text.length := by
  have hlength : 0 < keyword.length := List.length_pos_iff.2 hkeyword
  have hlast : keyword.length - 1 < keyword.length := by omega
  obtain ⟨c, hc, -⟩ := hletters _ _ (List.getElem?_eq_getElem hlast)
  obtain ⟨hfits, -⟩ := List.getElem?_eq_some_iff.1 hc
  omega

/-- A search asks at each position whether the keyword stands there. -/
theorem standsAt_iff (hkeyword : keyword ≠ []) :
    (opensAt text position && leads keyword (text.drop position)) = true ↔
      StandsAt keyword text position := by
  simp only [leads, Bool.and_eq_true, List.drop_drop, opensAt_iff, beginsWith_iff,
    endsWord_drop_iff, List.getElem?_drop]
  constructor
  · intro ⟨hopens, hletters, hends⟩
    have hfits := length_le_of_letters hkeyword hletters
    exact ⟨hletters, hopens, hends.imp_left fun hend => Nat.le_antisymm hfits hend⟩
  · intro h
    exact ⟨h.opens, h.letters, h.ends.imp_left fun hend => Nat.le_of_eq hend.symm⟩

/-- A search looks at its start first, and then from the next position on. -/
theorem position?_of_lt (h : position < text.length) :
    position? text keyword position =
      if opensAt text position && leads keyword (text.drop position) then some position
      else position? text keyword (position + 1 : Nat) := by
  have hstart : ∀ start : Nat, position? text keyword start =
      (firstFrom? keyword (opensAt text start) (text.drop start)).map (· + start) := by
    intro start
    rw [position?, Int.toNat_natCast]
    simp
  have hnext : opensAt text (position + 1) = isGap text[position] := by
    simp [opensAt, List.getElem?_eq_getElem h]
  rw [hstart, hstart, hnext, List.drop_eq_getElem_cons h, firstFrom?]
  split
  · simp
  · rw [Option.map_map]
    exact congrArg (Option.map · _) (funext fun later => by
      rw [Function.comp_apply]
      omega)

/-- A search from the end of a text or behind it finds nothing. -/
theorem position?_of_le (h : text.length ≤ position) : position? text keyword position = none := by
  simp [position?, firstFrom?, List.drop_eq_nil_of_le h]

/-- A search gives the least position from its start on at which the keyword stands. -/
theorem finds_position? (hkeyword : keyword ≠ []) (text : List Char) (start : Nat) :
    Finds {position | start ≤ position ∧ StandsAt keyword text position}
      (position? text keyword start) := by
  -- Each position that is passed over is none of those wanted, so they stay the same.
  induction hleft : text.length - start generalizing start with
  | zero =>
      have hend : text.length ≤ start := by omega
      rw [position?_of_le hend]
      refine Set.eq_empty_iff_forall_notMem.2 fun position ⟨hstart, hstands⟩ => ?_
      have hfits := length_le_of_letters hkeyword hstands.letters
      have hlength := List.length_pos_iff.2 hkeyword
      omega
  | succ left ih =>
      have hstart : start < text.length := by omega
      rw [position?_of_lt hstart]
      split
      · rename_i hstands
        exact ⟨⟨Nat.le_refl start, (standsAt_iff hkeyword).1 hstands⟩, fun position h => h.1⟩
      · rename_i hpassed
        have hwanted : {position | start ≤ position ∧ StandsAt keyword text position} =
            {position | start + 1 ≤ position ∧ StandsAt keyword text position} := by
          ext position
          refine and_congr_left fun hstands => ⟨fun hle => ?_, Nat.le_of_succ_le⟩
          refine Nat.lt_of_le_of_ne hle fun heq => ?_
          exact hpassed ((standsAt_iff hkeyword).2 (heq ▸ hstands))
        rw [hwanted]
        exact ih (start + 1) (by omega)

/-- A search from before the text is one from its beginning, unless there is nothing to search and
nothing to look for. -/
theorem position?_toNat (h : ¬(text = [] ∧ keyword = [])) (start : Int) :
    position? text keyword start = position? text keyword (start.toNat : Int) := by
  cases text with
  | nil =>
      have hkeyword : keyword ≠ [] := fun hnil => h ⟨rfl, hnil⟩
      simp [position?, hkeyword, firstFrom?]
  | cons c text =>
      have hstart : (start.toNat : Int).toNat = start.toNat := Int.toNat_natCast _
      simp only [position?, List.isEmpty_cons, Bool.and_false, Bool.false_eq_true, if_false, hstart]

/-- A search for a keyword that is not empty gives the least position from its start on at which
the keyword stands, and none exactly when there is no such position. It refuses a start below the
signed 64-bit integers. -/
theorem search_least (hkeyword : keyword ≠ []) (text : List Char) (start : Int) :
    (start < -limit64 → search text keyword start = .error .startBelow64) ∧
      (-limit64 ≤ start → ∃ found, search text keyword start = .ok found ∧
        (∀ position, found = some position ↔
          IsLeast {p : Nat | max start 0 ≤ p ∧ StandsAt keyword text p} position) ∧
        (found = none ↔ ¬ ∃ p : Nat, max start 0 ≤ p ∧ StandsAt keyword text p)) := by
  refine ⟨fun hbelow => if_pos hbelow, fun hstart => ?_⟩
  have hfinds := finds_position? hkeyword text start.toNat
  rw [← position?_toNat fun hvoid => hkeyword hvoid.2] at hfinds
  have hwanted : {p : Nat | start.toNat ≤ p ∧ StandsAt keyword text p} =
      {p : Nat | max start 0 ≤ p ∧ StandsAt keyword text p} := by
    ext p
    exact and_congr_left fun _ => by omega
  rw [hwanted] at hfinds
  refine ⟨_, if_neg (Int.not_lt.2 hstart), hfinds.eq_some_iff, ?_⟩
  rw [hfinds.eq_none_iff, ← Set.not_nonempty_iff_eq_empty]
  rfl

/-- An occurrence that begins inside a word hides none that overlaps it. -/
theorem search_least_overlapping :
    let keyword := "s+ S+".toList
    let text := "xs+ s+ \u017f+".toList
    keyword ≠ [] ∧ -limit64 ≤ (-3 : Int) ∧ search text keyword (-3) = .ok (some 4) ∧
      IsLeast {p : Nat | max (-3 : Int) 0 ≤ p ∧ StandsAt keyword text p} 4 ∧
      search text keyword (-limit64 - 1) = .error .startBelow64 := by
  intro keyword text
  have hkeyword : keyword ≠ [] := by decide
  have hsearch : search text keyword (-3) = .ok (some 4) := by decide
  obtain ⟨found, hfound, hleast, -⟩ := (search_least hkeyword text (-3)).2 (by decide)
  obtain rfl : some 4 = found := Except.ok.inj (hsearch.symm.trans hfound)
  have hrefused := (search_least hkeyword text (-limit64 - 1)).1 (by decide)
  exact ⟨hkeyword, by decide, hsearch, (hleast 4).1 rfl, hrefused⟩

/-- A keyword stands at the beginning of a text, and a search from a start that is far enough
before it does not find it. -/
theorem not_search_every_start :
    (¬ ∀ (text keyword : List Char) (start : Int), keyword ≠ [] →
      ∃ found, search text keyword start = .ok found ∧
        ∀ position, found = some position ↔
          IsLeast {p : Nat | max start 0 ≤ p ∧ StandsAt keyword text p} position) ∧
      search "TO x TO".toList "TO".toList (-limit64 - 1) = .error .startBelow64 := by
  have hrefused : search "TO x TO".toList "TO".toList (-limit64 - 1) = .error .startBelow64 := by
    decide
  refine ⟨fun hevery => ?_, hrefused⟩
  obtain ⟨found, hfound, -⟩ := hevery "TO x TO".toList "TO".toList (-limit64 - 1) (by decide)
  exact nomatch hrefused.symm.trans hfound

end Remittance.Text
