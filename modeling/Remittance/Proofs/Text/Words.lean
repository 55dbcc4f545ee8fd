import Mathlib.Data.List.DropRight
import Remittance.Proofs.Text.Pieces
import Remittance.Text.Blank
import Remittance.Text.Word

/-!
# Texts as lists of words

`unwords` writes words with a space between them, and `clean` drops the words that are blank in
front of a list of words along with the blanks that the next word begins with. Trimming a text
that does not end in a blank is cleaning its words (`trim_behind`). A normalized text is of that
kind (`solid_normalize`).
-/

namespace Remittance.Text

/-- The words with a space between them. -/
def unwords : List (List Char) → List Char
  | [] => []
  | word :: rest => word ++ behind ' ' rest

/-- The words from the first one on that is not blank, which loses the blanks it begins with. -/
def clean : List (List Char) → List (List Char)
  | [] => []
  | word :: rest => if word.all isBlank then clean rest else word.dropWhile isBlank :: rest

/-- The text behind a word in the middle of a list of words is a suffix of the whole. -/
theorem unwords_append_cons (passed : List (List Char)) (word : List Char)
    (rest : List (List Char)) :
    unwords (passed ++ word :: rest) = unwords (passed ++ [word]) ++ behind ' ' rest := by
  cases passed with
  | nil => simp [unwords]
  | cons first passed => simp [unwords, behind]

/-- A text is the words that it is cut into. -/
theorem unwords_pieces (text : List Char) : unwords (pieces ' ' text) = text := by
  obtain ⟨piece, rest, hpieces⟩ := exists_pieces_eq_cons ' ' text
  rw [hpieces]
  exact (eq_append_behind hpieces).symm

/-- Words with a space between them are cut into these words again. -/
theorem pieces_unwords {words : List (List Char)} (hne : words ≠ [])
    (h : ∀ word ∈ words, ' ' ∉ word) : pieces ' ' (unwords words) = words := by
  induction words with
  | nil => exact absurd rfl hne
  | cons word words ih =>
      rw [List.forall_mem_cons] at h
      cases words with
      | nil => rw [unwords, behind_nil, List.append_nil, pieces_of_not_mem h.1]
      | cons next words =>
          rw [unwords, behind_cons, pieces_append h.1]
          exact congrArg (word :: ·) (ih (List.cons_ne_nil next words) h.2)

/-- Words behind others are cleaned behind them. -/
theorem exists_clean_append (words more : List (List Char)) :
    ∃ later, clean (words ++ more) = clean words ++ later := by
  induction words with
  | nil => exact ⟨clean more, rfl⟩
  | cons word words ih =>
      rw [List.cons_append, clean, clean]
      split
      · exact ih
      · exact ⟨more, rfl⟩

/-- Leading blanks are removed from a text by cleaning its words. -/
theorem dropWhile_unwords (words : List (List Char)) :
    (unwords words).dropWhile isBlank = unwords (clean words) := by
  induction words with
  | nil => rfl
  | cons word rest ih =>
      rw [unwords, clean]
      split
      · rename_i hblank
        rw [List.dropWhile_append_of_pos (by simpa using hblank), ← ih]
        cases rest with
        | nil => rfl
        | cons next rest => rfl
      · rename_i hblank
        rw [unwords, List.dropWhile_append, if_neg]
        simpa [List.isEmpty_iff, List.dropWhile_eq_nil_iff] using hblank

/-- Leading blanks are removed from the text behind a word by cleaning the words there. -/
theorem dropWhile_behind (words : List (List Char)) :
    (behind ' ' words).dropWhile isBlank = unwords (clean words) := by
  rw [← dropWhile_unwords]
  cases words with
  | nil => rfl
  | cons word rest => rfl

/-- Clean words do not begin with an empty word. -/
theorem head?_clean (words : List (List Char)) : (clean words).head? ≠ some [] := by
  induction words with
  | nil => simp [clean]
  | cons word rest ih =>
      rw [clean]
      split
      · exact ih
      · rename_i hblank
        simpa [List.dropWhile_eq_nil_iff] using hblank

/-- Cleaning leaves words without a space as such. -/
theorem not_mem_of_mem_clean {words : List (List Char)} (h : ∀ word ∈ words, ' ' ∉ word) :
    ∀ word ∈ clean words, ' ' ∉ word := by
  induction words with
  | nil => simp [clean]
  | cons word rest ih =>
      rw [List.forall_mem_cons] at h
      rw [clean]
      split
      · exact ih h.2
      · rw [List.forall_mem_cons]
        exact ⟨fun hmem => h.1 ((List.dropWhile_suffix _).subset hmem), h.2⟩

/-- The word without the blanks that it begins with. -/
def bare (word : List Char) : List Char :=
  word.dropWhile isBlank

theorem bare_bare (word : List Char) : bare (bare word) = bare word :=
  List.dropWhile_idempotent isBlank word

/-- A word is bare when it does not begin with a blank. -/
theorem bare_eq_self_iff {word : List Char} :
    bare word = word ↔ ∀ c ∈ word.head?, isBlank c = false := by
  cases word with
  | nil => simp [bare]
  | cons c word =>
      rw [bare, List.dropWhile_eq_self_iff]
      simp

/-- Clean words begin with a bare one. -/
theorem bare_of_mem_head?_clean {words : List (List Char)} {word : List Char}
    (h : word ∈ (clean words).head?) : bare word = word := by
  induction words with
  | nil => simp [clean] at h
  | cons first rest ih =>
      rw [clean] at h
      split at h
      · exact ih h
      · obtain rfl := Option.some.inj h
        exact bare_bare first

/-- Cleaning drops words, and changes a word only by the blanks that it begins with. -/
theorem map_bare_clean_sublist (words : List (List Char)) :
    ((clean words).map bare).Sublist (words.map bare) := by
  induction words with
  | nil => exact List.Sublist.refl []
  | cons word rest ih =>
      rw [clean]
      split
      · exact ih.cons (bare word)
      · show (bare (bare word) :: rest.map bare).Sublist (bare word :: rest.map bare)
        rw [bare_bare]

/-- The word is not empty and holds no blank. -/
structure IsPlain (word : List Char) : Prop where
  ne_nil : word ≠ []
  no_blank : ∀ c ∈ word, isBlank c = false

/-- `IsPlain` is decidable character by character. -/
instance (word : List Char) : Decidable (IsPlain word) :=
  decidable_of_iff ((!word.isEmpty && word.all (!isBlank ·)) = true)
    ⟨fun h => by
      simp only [Bool.and_eq_true, Bool.not_eq_true', List.isEmpty_eq_false_iff,
        List.all_eq_true] at h
      exact ⟨h.1, h.2⟩,
    fun h => by simpa using And.intro h.ne_nil h.no_blank⟩

/-- A word of visible ASCII characters is plain. -/
theorem isPlain_of_visible {word : List Char} (hne : word ≠ [])
    (h : ∀ c ∈ word, 0x21 ≤ c.toNat ∧ c.toNat ≤ 0x7E) : IsPlain word := by
  refine ⟨hne, ?_⟩
  intro c hc
  have hvisible := h c hc
  simp only [isBlank, isSpace, Bool.or_eq_false_iff, Bool.and_eq_false_iff,
    decide_eq_false_iff_not, beq_eq_false_iff_ne]
  omega

/-- A character that is no blank separates nothing. -/
theorem isSeparator_of_not_isBlank {c : Char} (h : isBlank c = false) : isSeparator c = false := by
  rw [← Bool.not_eq_true]
  intro hseparator
  simp [isBlank_of_isSeparator hseparator] at h

/-- A plain word holds no separator. -/
theorem IsPlain.no_separator {word : List Char} (h : IsPlain word) :
    ∀ c ∈ word, isSeparator c = false :=
  fun c hc => isSeparator_of_not_isBlank (h.no_blank c hc)

/-- A plain word holds no space. -/
theorem IsPlain.no_space {word : List Char} (h : IsPlain word) : ' ' ∉ word :=
  fun hmem => absurd (h.no_separator ' ' hmem) (by decide)

/-- A plain word begins with a character that is not blank. -/
theorem IsPlain.exists_cons {word : List Char} (h : IsPlain word) :
    ∃ c rest, word = c :: rest ∧ isBlank c = false := by
  obtain ⟨c, rest, rfl⟩ := List.exists_cons_of_ne_nil h.ne_nil
  exact ⟨c, rest, rfl, h.no_blank c List.mem_cons_self⟩

/-- Words that begin with a plain one need no cleaning, whatever stands behind it. -/
theorem clean_append {words rest : List (List Char)} (h : ∀ word ∈ words, IsPlain word)
    (hrest : words = [] → clean rest = rest) : clean (words ++ rest) = words ++ rest := by
  cases words with
  | nil => exact hrest rfl
  | cons word words =>
      obtain ⟨c, front, rfl, hc⟩ := (h word List.mem_cons_self).exists_cons
      simp [clean, hc]

/-- A character of a word without a space ends no word. -/
theorem isGap_of_not_mem {word : List Char} (h : ' ' ∉ word) : ∀ c ∈ word, isGap c = false := by
  intro c hc
  rw [isGap, beq_eq_false_iff_ne]
  intro hspace
  exact h (hspace ▸ hc)

/-- The next word of a text is its first word, unless that is empty. -/
theorem nextWord_unwords {word : List Char} (hne : word ≠ []) (hword : ' ' ∉ word)
    (rest : List (List Char)) : nextWord (unwords (word :: rest)) = word := by
  have hgap := isGap_of_not_mem hword
  have hlead : (word ++ behind ' ' rest).dropWhile isGap = word ++ behind ' ' rest := by
    cases word with
    | nil => exact absurd rfl hne
    | cons c word => simp [hgap c List.mem_cons_self]
  have hend : (behind ' ' rest).takeWhile (!isGap ·) = [] := by
    cases rest with
    | nil => rfl
    | cons next rest => rfl
  rw [unwords, nextWord, hlead,
    List.takeWhile_append_of_pos fun c hc => by rw [hgap c hc]; rfl, hend, List.append_nil]

/-- The slice between two positions is the text between what stands before and behind them. -/
theorem slice_append (front word rest : List Char) :
    slice (front ++ (word ++ rest)) front.length (front.length + word.length) = word := by
  have hplace : ∀ count : Nat, count ≤ (front ++ (word ++ rest)).length →
      place (front ++ (word ++ rest)).length count = count := by
    intro count hcount
    rw [place, if_neg (by omega), Int.toNat_natCast, Nat.min_eq_left hcount]
  have hstart := hplace front.length (by simp)
  have hstop := hplace (front.length + word.length) (by simp)
  rw [Int.natCast_add] at hstop
  rw [slice, hstart, hstop, List.take_length_add_append, List.drop_left, List.take_left]

/-- From the beginning of a text a cursor finds the next word and never fails. -/
theorem wordFrom_zero (text : List Char) : wordFrom text 0 = .ok (nextWord text) := by
  let front := text.takeWhile isGap
  let rest := (text.dropWhile isGap).dropWhile (!isGap ·)
  have hsplit : front ++ (nextWord text ++ rest) = text := by
    rw [nextWord, List.takeWhile_append_dropWhile, List.takeWhile_append_dropWhile]
  have hslice := slice_append front (nextWord text) rest
  rw [hsplit] at hslice
  rw [wordFrom, ahead, if_pos (Int.le_refl 0)]
  show Except.ok (slice text (0 + front.length) (0 + front.length + (nextWord text).length)) = _
  rw [Int.zero_add, hslice]

/-- The text does not end in a blank. -/
def Solid (text : List Char) : Prop :=
  ∀ c, text.getLast? = some c → isBlank c = false

/-- What a solid text ends with is solid. -/
theorem Solid.suffix {text rest : List Char} (h : Solid text) (hsuffix : rest <:+ text) :
    Solid rest := by
  obtain ⟨front, rfl⟩ := hsuffix
  intro c hc
  exact h c (by rw [List.getLast?_append, hc]; rfl)

/-- A solid text has blanks at its beginning only. -/
theorem Solid.trim {text : List Char} (h : Solid text) : trim text = text.dropWhile isBlank := by
  have hrest : Solid (text.dropWhile isBlank) := h.suffix (List.dropWhile_suffix _)
  unfold Text.trim trimWith
  generalize text.dropWhile isBlank = rest at hrest
  rw [List.reverse_eq_iff]
  cases hreversed : rest.reverse with
  | nil => rfl
  | cons c front =>
      -- The last character is the first of the reversed text, where the second pass stops.
      have hc : isBlank c = false := hrest c (by rw [← List.head?_reverse, hreversed]; rfl)
      simp [hc]

/-- A list of words with no space inside a word, of which the text is solid. -/
structure Sound (words : List (List Char)) : Prop where
  no_space : ∀ word ∈ words, ' ' ∉ word
  solid : Solid (unwords words)

/-- Sound words of which the first is not empty. -/
structure IsClean (words : List (List Char)) : Prop extends Sound words where
  first : words.head? ≠ some []

variable {rest : List (List Char)} {word : List Char}

/-- Trimming what stands behind a word is cleaning the words there. -/
theorem Sound.trim_behind (passed : List (List Char)) (h : Sound (passed ++ word :: rest)) :
    trim (behind ' ' rest) = unwords (clean rest) := by
  have hsuffix : behind ' ' rest <:+ unwords (passed ++ word :: rest) :=
    ⟨_, (unwords_append_cons passed word rest).symm⟩
  rw [(h.solid.suffix hsuffix).trim, dropWhile_behind]

/-- Cleaning the words behind a word makes them clean. -/
theorem Sound.clean_rest (passed : List (List Char)) (h : Sound (passed ++ word :: rest)) :
    IsClean (clean rest) where
  no_space := by
    have hrest : ∀ other ∈ rest, ' ' ∉ other := fun other hmem => h.no_space other (by simp [hmem])
    exact not_mem_of_mem_clean hrest
  solid := by
    refine h.solid.suffix ?_
    rw [unwords_append_cons, ← dropWhile_behind]
    exact (List.dropWhile_suffix _).trans (List.suffix_append _ _)
  first := head?_clean rest

/-- Collapsing separators keeps the last character of a text that ends in another one. -/
theorem getLast?_collapseFrom {text : List Char} {c : Char} (hlast : text.getLast? = some c)
    (hc : isSeparator c = false) (afterSpace : Bool) :
    (collapseFrom afterSpace text).getLast? = some c := by
  induction text generalizing afterSpace with
  | nil => simp at hlast
  | cons first text ih =>
      cases text with
      | nil =>
          have hfirst : first = c := by simpa using hlast
          rw [collapseFrom, hfirst, hc]
          rfl
      | cons second text =>
          have hrest := ih (by simpa using hlast)
          rw [collapseFrom]
          split
          · split
            · exact hrest true
            · rw [List.getLast?_cons, hrest true]
              rfl
          · rw [List.getLast?_cons, hrest false]
            rfl

/-- A trimmed text is solid. -/
theorem solid_trim (text : List Char) : Solid (trim text) := by
  intro c hc
  unfold trim trimWith at hc
  rw [List.getLast?_reverse] at hc
  have hhead := List.head?_dropWhile_not isBlank (text.dropWhile isBlank).reverse
  rw [hc] at hhead
  exact hhead

/-- A normalized text is solid. -/
theorem solid_normalize (text : List Char) : Solid (normalize text) := by
  intro c hc
  unfold normalize collapse at hc
  cases hlast : (trim text).getLast? with
  | none =>
      rw [List.getLast?_eq_none_iff] at hlast
      simp [hlast, collapseFrom] at hc
  | some last =>
      have hblank : isBlank last = false := solid_trim text last hlast
      rw [getLast?_collapseFrom hlast (isSeparator_of_not_isBlank hblank),
        Option.some.injEq] at hc
      exact hc ▸ hblank

/-- The words of a normalized text are sound. -/
theorem sound_pieces_normalize (text : List Char) : Sound (pieces ' ' (normalize text)) where
  no_space _ hmem := not_mem_of_mem_pieces hmem
  solid := by
    rw [unwords_pieces]
    exact solid_normalize text

end Remittance.Text
