import Mathlib.Algebra.Group.Nat.Defs
import Remittance.Proofs.Text.UpperCase

/-!
# Upper case of upper case

No character that another one has in its upper case has an upper case of its own, so a text in upper
case stays as it is (`upperCase_upperCase`). The case table is finite: `smallCodes` lists the code
points that it maps and `capitalCodes` those that it maps them to, and no code point is in both.
-/

namespace Remittance.Text

/-- The code points that a row maps. -/
def CaseRow.codes (row : CaseRow) : List Nat :=
  List.range' row.first ((row.last - row.first) / row.stride + 1) row.stride

/-- The small letters of ASCII as a row beside the others. -/
def smallRows : List CaseRow :=
  ⟨'a'.toNat, 'z'.toNat, 1, -32⟩ :: upperRows

/-- The code points with an upper case of their own. -/
def smallCodes : List Nat :=
  smallRows.flatMap (·.codes) ++ expansions.map (·.1)

/-- The code points in the upper case of these. -/
def capitalCodes : List Nat :=
  (smallRows.flatMap fun row => row.codes.map fun code : Nat => (code + row.shift).toNat) ++
    expansions.flatMap (·.2)

/-- The number whose bits are set at these places. -/
def bits (codes : List Nat) : Nat :=
  codes.foldr (fun code rest => 2 ^ code ||| rest) 0

variable {c d : Char}

theorem testBit_bits {codes : List Nat} {code : Nat} :
    (bits codes).testBit code = true ↔ code ∈ codes := by
  induction codes with
  | nil => simp [bits]
  | cons head rest ih =>
      show (2 ^ head ||| bits rest).testBit code = true ↔ _
      rw [Nat.testBit_or, Bool.or_eq_true, ih, Nat.testBit_two_pow, decide_eq_true_iff,
        List.mem_cons, eq_comm]

/-- Two lists without a common bit have no common member. -/
theorem not_mem_of_bits {codes others : List Nat} (h : bits codes &&& bits others = 0) {code : Nat}
    (hcode : code ∈ others) : code ∉ codes := by
  intro hmem
  have hboth : (bits codes &&& bits others).testBit code = true := by
    rw [Nat.testBit_and, testBit_bits.2 hmem, testBit_bits.2 hcode]
    rfl
  rw [h, Nat.zero_testBit] at hboth
  exact absurd hboth (by decide)

/-- No code point in an upper case has an upper case of its own. Bits make this one operation on two
numbers, where comparing the lists would take millions of steps. -/
theorem capitalCodes_apart {code : Nat} (h : code ∈ capitalCodes) : code ∉ smallCodes :=
  not_mem_of_bits (by decide +kernel) h

/-- The code points that a row covers are those that it maps. -/
theorem CaseRow.mem_codes {row : CaseRow} {code : Nat} (h : row.covers code = true) :
    code ∈ row.codes := by
  simp only [covers, Bool.and_eq_true, decide_eq_true_eq, beq_iff_eq] at h
  obtain ⟨⟨hfirst, hlast⟩, hstride⟩ := h
  have hquotient : (code - row.first) / row.stride ≤ (row.last - row.first) / row.stride :=
    Nat.div_le_div_right (by omega)
  have hexact := Nat.div_add_mod (code - row.first) row.stride
  exact List.mem_range'.2 ⟨(code - row.first) / row.stride, by omega, by omega⟩

/-- A row that covers a code point gives it an upper case of its own. -/
theorem mem_smallCodes {row : CaseRow} (hrow : row ∈ smallRows) {code : Nat}
    (h : row.covers code = true) : code ∈ smallCodes :=
  List.mem_append_left _ (List.mem_flatMap.2 ⟨row, hrow, CaseRow.mem_codes h⟩)

/-- What a row maps a code point to is in an upper case. -/
theorem mem_capitalCodes {row : CaseRow} (hrow : row ∈ smallRows) {code : Nat}
    (h : row.covers code = true) : ((code : Int) + row.shift).toNat ∈ capitalCodes :=
  List.mem_append_left _
    (List.mem_flatMap.2 ⟨row, hrow, List.mem_map.2 ⟨code, CaseRow.mem_codes h, rfl⟩⟩)

/-- The small letters of ASCII are those that their row covers. -/
theorem covers_small_iff :
    CaseRow.covers ⟨'a'.toNat, 'z'.toNat, 1, -32⟩ c.toNat = true ↔ c.isLower = true := by
  rw [isLower_iff]
  simp [CaseRow.covers, Nat.mod_one]

/-- A character without an upper case of its own stays as it is. -/
theorem upper_of_not_mem (h : c.toNat ∉ smallCodes) : upper c = [c] := by
  unfold upper
  split
  · have hlower : ¬c.isLower = true := by
      intro hlower
      exact h (mem_smallCodes List.mem_cons_self (covers_small_iff.2 hlower))
    rw [toUpper_of_not_isLower hlower]
  · have hexpansion : expansions.lookup c.toNat = none := by
      rw [List.lookup_eq_none_iff]
      intro expansion hmem
      rw [bne_iff_ne]
      intro hcode
      exact h (List.mem_append_right _ (List.mem_map.2 ⟨expansion, hmem, hcode.symm⟩))
    have hrow : upperRows.find? (·.covers c.toNat) = none := by
      rw [List.find?_eq_none]
      exact fun row hmem hcovers => h (mem_smallCodes (List.mem_cons_of_mem _ hmem) hcovers)
    rw [hexpansion, shiftBy, hrow]

/-- A character made from a code point in an upper case has no upper case of its own. It may be the
null character, which has none either. -/
theorem upper_ofNat {code : Nat} (h : code ∈ capitalCodes) :
    upper (Char.ofNat code) = [Char.ofNat code] := by
  refine upper_of_not_mem ?_
  by_cases hnull : (Char.ofNat code).toNat = 0
  · rw [hnull]
    decide +kernel
  · rw [toNat_eq_of_ofNat_eq rfl hnull]
    exact capitalCodes_apart h

/-- A character in the upper case of another one stays as it is. -/
theorem upper_of_mem_upper (h : d ∈ upper c) : upper d = [d] := by
  by_cases hascii : isAscii c = true
  · rw [upper, if_pos hascii, List.mem_singleton] at h
    by_cases hlower : c.isLower = true
    · have hmoved := toNat_toUpper hlower
      have hcode : c.toUpper.toNat = ((c.toNat : Int) + -32).toNat := by omega
      rw [h, ← Char.ofNat_toNat c.toUpper, hcode]
      exact upper_ofNat (mem_capitalCodes List.mem_cons_self (covers_small_iff.2 hlower))
    · rw [toUpper_of_not_isLower hlower] at h
      rw [h, upper, if_pos hascii, toUpper_of_not_isLower hlower]
  · rcases upper_outside (Bool.eq_false_iff.2 hascii) with hrow | ⟨codes, hmem, hcodes⟩
    · rw [hrow, List.mem_singleton] at h
      rw [shiftBy] at h hrow
      split at h
      · rename_i row hfind
        have hmem := List.mem_of_find?_eq_some hfind
        have hcovers : row.covers c.toNat = true := by
          simpa using List.find?_some hfind
        rw [h]
        exact upper_ofNat (mem_capitalCodes (List.mem_cons_of_mem _ hmem) hcovers)
      · rename_i hnone
        rw [hnone] at hrow
        rw [h]
        exact hrow
    · rw [hcodes] at h
      obtain ⟨code, hcode, rfl⟩ := List.mem_map.1 h
      exact upper_ofNat (List.mem_append_right _ (List.mem_flatMap.2 ⟨_, hmem, hcode⟩))

/-- A text in upper case stays as it is. -/
theorem upperCase_upperCase (text : String) : upperCase (upperCase text) = upperCase text := by
  have hfixed : ∀ letters : List Char, (∀ letter ∈ letters, upper letter = [letter]) →
      letters.flatMap upper = letters := by
    intro letters h
    rw [List.flatMap_congr h, List.flatMap_singleton']
  unfold upperCase
  rw [String.toList_ofList, hfixed]
  intro letter hletter
  obtain ⟨c, -, hupper⟩ := List.mem_flatMap.1 hletter
  exact upper_of_mem_upper hupper

end Remittance.Text
