import Mathlib.Data.List.Chain
import Mathlib.Logic.Relation
import Remittance.Proofs.Text.Spacing

/-!
# Normal forms of texts

A normalized text has single spaces between words and no blanks at its ends
(`isNormal_normalize`). Its words are those of the trimmed text, cut at every separator
(`spacedWords_normalize`). Texts have the same normal form exactly when one becomes the other by
changing separators between words and blanks at the ends (`normalize_eq_iff`).
-/

namespace Remittance.Text

/-- The words of a raw text: what stands between its separators, unless it is empty. -/
def rawWords (text : List Char) : List (List Char) :=
  (text.splitOnP isSeparator).filter (!·.isEmpty)

/-- The words of a text with single spaces: its pieces, and none if it is empty. -/
def spacedWords (text : List Char) : List (List Char) :=
  if text.isEmpty then [] else pieces ' ' text

/-- The text has no blank at its ends, no separator but the space, and no two spaces in a row. -/
structure IsNormal (text : List Char) : Prop where
  opens : ∀ c, text.head? = some c → isBlank c = false
  closes : ∀ c, text.getLast? = some c → isBlank c = false
  spaced : ∀ c ∈ text, isSeparator c = true → c = ' '
  apart : ¬ [' ', ' '] <:+: text

/-- One change of the space around words: a run of separators becomes another one, or blanks at
the ends of the text are dropped. -/
inductive Respaces : List Char → List Char → Prop where
  | gap (front gap other rest) : IsBreak gap → IsBreak other →
      Respaces (front ++ gap ++ rest) (front ++ other ++ rest)
  | ends (lead text tail) : IsBlankText lead → IsBlankText tail →
      Respaces (lead ++ text ++ tail) text

/-- The texts differ only in the space around their words, by any number of changes to either. -/
def Respaced : List Char → List Char → Prop :=
  Relation.EqvGen Respaces

variable {text other lead tail gap : List Char}

/-! ## What a normalized text looks like -/

/-- A trimmed text does not begin with a blank. -/
theorem isBlank_head?_trim {c : Char} (h : (trim text).head? = some c) : isBlank c = false := by
  obtain ⟨rest, hrest⟩ := List.rdropWhile_prefix isBlank (text.dropWhile isBlank)
  have hhead := List.head?_dropWhile_not isBlank text
  rw [← hrest, List.head?_append, ← trim_eq_rdropWhile, h] at hhead
  exact hhead

/-- Where a text begins with no separator, a space before it makes no difference. -/
theorem collapseFrom_of_head? (h : ∀ c, text.head? = some c → isSeparator c = false)
    (afterSpace : Bool) : collapseFrom afterSpace text = collapseFrom false text := by
  cases text with
  | nil => rfl
  | cons c rest => simp [collapseFrom, h c rfl]

/-- Collapsing keeps the first character of a text that begins with no separator. -/
theorem head?_collapseFrom (h : ∀ c, text.head? = some c → isSeparator c = false) :
    (collapseFrom false text).head? = text.head? := by
  cases text with
  | nil => rfl
  | cons c rest => simp [collapseFrom, h c rfl]

/-- Collapsing leaves no separator but the space. -/
theorem eq_space_of_mem_collapseFrom {c : Char} {afterSpace : Bool}
    (hmem : c ∈ collapseFrom afterSpace text) (hc : isSeparator c = true) : c = ' ' := by
  induction text generalizing afterSpace with
  | nil => simp [collapseFrom] at hmem
  | cons first text ih =>
      rw [collapseFrom] at hmem
      split at hmem
      · split at hmem
        · exact ih hmem
        · exact (List.mem_cons.1 hmem).elim id ih
      · rename_i hfirst
        refine (List.mem_cons.1 hmem).elim (fun heq => ?_) ih
        exact absurd (heq ▸ hc) hfirst

/-- No two spaces stand in a row. -/
def HasSingleSpaces (text : List Char) : Prop :=
  text.IsChain fun first second => first ≠ ' ' ∨ second ≠ ' '

/-- Collapsing leaves no two spaces in a row, nor a space behind one that is written already. -/
theorem hasSingleSpaces_collapseFrom (text : List Char) :
    HasSingleSpaces (collapseFrom false text) ∧
      HasSingleSpaces (' ' :: collapseFrom true text) := by
  induction text with
  | nil => simp [HasSingleSpaces, collapseFrom]
  | cons c text ih =>
      obtain ⟨hbehindWord, hbehindSpace⟩ := ih
      by_cases hc : isSeparator c = true
      · simpa [collapseFrom, hc] using hbehindSpace
      · have hspace : c ≠ ' ' := by
          rintro rfl
          exact hc rfl
        have hword : HasSingleSpaces (c :: collapseFrom false text) :=
          List.isChain_cons.2 ⟨fun _ _ => .inl hspace, hbehindWord⟩
        simp only [collapseFrom, hc]
        exact ⟨hword, List.isChain_cons_cons.2 ⟨.inr hspace, hword⟩⟩

/-- A trimmed text begins with no separator. -/
theorem isSeparator_head?_trim {c : Char} (h : (trim text).head? = some c) :
    isSeparator c = false :=
  isSeparator_of_not_isBlank (isBlank_head?_trim h)

/-- A normalized text is normal. -/
theorem isNormal_normalize (text : List Char) : IsNormal (normalize text) where
  opens c hc := by
    rw [normalize, collapse, head?_collapseFrom fun _ => isSeparator_head?_trim] at hc
    exact isBlank_head?_trim hc
  closes := solid_normalize text
  spaced _ := eq_space_of_mem_collapseFrom
  apart hspaces := by
    obtain ⟨front, rest, hsplit⟩ := hspaces
    have hsingle : HasSingleSpaces (normalize text) :=
      (hasSingleSpaces_collapseFrom (trim text)).1
    rw [← hsplit] at hsingle
    simpa using hsingle.left_of_append.right_of_append

/-! ## Its words -/

/-- Every text has a first part before its first separator. -/
theorem exists_splitOnP_eq_cons (text : List Char) :
    ∃ first rest, text.splitOnP isSeparator = first :: rest :=
  List.exists_cons_of_ne_nil (List.splitOnP_ne_nil isSeparator text)

/-- A separator in front of a text belongs to no word. -/
theorem rawWords_cons_separator {c : Char} (hc : isSeparator c = true) (text : List Char) :
    rawWords (c :: text) = rawWords text := by
  rw [rawWords, List.splitOnP_cons_eq_if_modifyHead, if_pos hc]
  rfl

/-- Any other character in front of a text belongs to its first part. -/
theorem splitOnP_cons_letter {c : Char} (hc : isSeparator c = false) {first : List Char}
    {rest : List (List Char)} (h : text.splitOnP isSeparator = first :: rest) :
    (c :: text).splitOnP isSeparator = (c :: first) :: rest := by
  rw [List.splitOnP_cons_eq_if_modifyHead, hc, h]
  rfl

/-- No part between separators holds one. -/
theorem isSeparator_of_mem_splitOnP {part : List Char} (h : part ∈ text.splitOnP isSeparator) :
    ∀ c ∈ part, isSeparator c = false := by
  induction text generalizing part with
  | nil =>
      obtain rfl := List.mem_singleton.1 h
      simp
  | cons c text ih =>
      obtain ⟨first, rest, hsplit⟩ := exists_splitOnP_eq_cons text
      rw [hsplit] at ih
      cases hc : isSeparator c with
      | true =>
          rw [List.splitOnP_cons_eq_if_modifyHead, if_pos hc, hsplit] at h
          rcases List.mem_cons.1 h with rfl | hmem
          · simp
          · exact ih hmem
      | false =>
          rw [splitOnP_cons_letter hc hsplit] at h
          rcases List.mem_cons.1 h with rfl | hmem
          · exact List.forall_mem_cons.2 ⟨hc, ih List.mem_cons_self⟩
          · exact ih (List.mem_cons_of_mem first hmem)

/-- A text with a character that is no separator has a word. -/
theorem rawWords_ne_nil {c : Char} (hmem : c ∈ text) (hc : isSeparator c = false) :
    rawWords text ≠ [] := by
  induction text with
  | nil => cases hmem
  | cons first text ih =>
      cases hfirst : isSeparator first with
      | true =>
          have hne : c ≠ first := by
            rintro rfl
            simp [hc] at hfirst
          rw [rawWords_cons_separator hfirst]
          exact ih (List.mem_of_ne_of_mem hne hmem)
      | false =>
          obtain ⟨part, rest, hsplit⟩ := exists_splitOnP_eq_cons text
          rw [rawWords, splitOnP_cons_letter hfirst hsplit]
          exact List.cons_ne_nil _ _

/-- A text that ends in no separator has a word behind each separator. -/
theorem rawWords_behind_separator {c : Char} (hc : isSeparator c = true)
    (h : ∀ last, (c :: text).getLast? = some last → isSeparator last = false) :
    rawWords text ≠ [] := by
  obtain ⟨last, hlast⟩ := Option.ne_none_iff_exists'.1
    (mt List.getLast?_eq_none_iff.1 (List.cons_ne_nil c text))
  have hne : last ≠ c := by
    rintro rfl
    simp [h last hlast] at hc
  exact rawWords_ne_nil (List.mem_of_ne_of_mem hne (List.mem_of_getLast? hlast)) (h last hlast)

/-- A raw word is not empty and holds no space. -/
theorem of_mem_rawWords {word : List Char} (h : word ∈ rawWords text) :
    word ≠ [] ∧ ' ' ∉ word := by
  obtain ⟨hpart, hne⟩ := List.mem_filter.1 h
  refine ⟨by simpa using hne, fun hspace => ?_⟩
  exact absurd (isSeparator_of_mem_splitOnP hpart ' ' hspace) (by decide)

/-- Collapsing a text that ends in no separator writes its words. Behind a space there is a space
between each two, and otherwise one in front of each word that is not in the first part. -/
theorem collapseFrom_eq_unwords (h : ∀ c, text.getLast? = some c → isSeparator c = false) :
    collapseFrom true text = unwords (rawWords text) ∧
      ∀ first rest, text.splitOnP isSeparator = first :: rest →
        collapseFrom false text = first ++ behind ' ' (rest.filter (!·.isEmpty)) := by
  induction text with
  | nil =>
      refine ⟨rfl, fun first rest hsplit => ?_⟩
      obtain ⟨rfl, rfl⟩ := List.cons.inj hsplit
      rfl
  | cons c text ih =>
      obtain ⟨hwords, hparts⟩ := ih fun last hlast => h last (by rw [List.getLast?_cons, hlast]; rfl)
      cases hc : isSeparator c with
      | true =>
          rw [rawWords_cons_separator hc, List.splitOnP_cons_eq_if_modifyHead, if_pos hc]
          refine ⟨by rw [collapseFrom, if_pos hc, if_pos rfl, hwords], fun first rest hsplit => ?_⟩
          obtain ⟨rfl, rfl⟩ := List.cons.inj hsplit
          -- A word follows, so the space in front of it is written.
          obtain ⟨word, words, hraw⟩ := List.exists_cons_of_ne_nil (rawWords_behind_separator hc h)
          rw [collapseFrom, if_pos hc, if_neg Bool.false_ne_true, hwords]
          show _ = behind ' ' (rawWords text)
          rw [hraw]
          rfl
      | false =>
          obtain ⟨first, rest, hsplit⟩ := exists_splitOnP_eq_cons text
          have hkeeps : ∀ afterSpace, collapseFrom afterSpace (c :: text) =
              (c :: first) ++ behind ' ' (rest.filter (!·.isEmpty)) := by
            intro afterSpace
            rw [collapseFrom, hc, hparts first rest hsplit]
            rfl
          rw [rawWords, splitOnP_cons_letter hc hsplit]
          refine ⟨hkeeps true, fun head tail hhead => ?_⟩
          obtain ⟨rfl, rfl⟩ := List.cons.inj hhead
          exact hkeeps false

/-- A normalized text is the words of the trimmed one, with a space between each two. -/
theorem normalize_eq_unwords (text : List Char) :
    normalize text = unwords (rawWords (trim text)) := by
  have hend : ∀ c, (trim text).getLast? = some c → isSeparator c = false :=
    fun c hc => isSeparator_of_not_isBlank (solid_trim text c hc)
  rw [normalize, collapse, ← collapseFrom_of_head? (fun _ => isSeparator_head?_trim) true]
  exact (collapseFrom_eq_unwords hend).1

/-- The words of a normalized text are the raw words of the trimmed one. -/
theorem spacedWords_normalize (text : List Char) :
    spacedWords (normalize text) = rawWords (trim text) := by
  have hword : ∀ word ∈ rawWords (trim text), word ≠ [] ∧ ' ' ∉ word := fun _ => of_mem_rawWords
  rw [normalize_eq_unwords]
  generalize rawWords (trim text) = words at hword
  cases words with
  | nil => rfl
  | cons word words =>
      have hne : (unwords (word :: words)).isEmpty = false := by
        simp [unwords, (hword word List.mem_cons_self).1]
      rw [spacedWords, hne]
      exact pieces_unwords (List.cons_ne_nil word words) fun other hmem => (hword other hmem).2

/-! ## When two texts have the same normal form -/

/-- Blanks in front of a collapsed text are those in front of the text. -/
theorem dropWhile_collapseFrom (text : List Char) (afterSpace : Bool) :
    (collapseFrom afterSpace text).dropWhile isBlank =
      collapseFrom false (text.dropWhile isBlank) := by
  induction text generalizing afterSpace with
  | nil => rfl
  | cons c text ih =>
      by_cases hc : isSeparator c = true
      · have hblank := isBlank_of_isSeparator hc
        have hspace : isBlank ' ' = true := by decide
        cases afterSpace <;> simp [collapseFrom, hc, hblank, hspace, ih]
      · by_cases hblank : isBlank c = true
        · simp [collapseFrom, hc, hblank, ih]
        · simp [collapseFrom, hc, hblank]

/-- A blank text collapses to a blank one. -/
theorem IsBlankText.collapseFrom (h : IsBlankText text) (afterSpace : Bool) :
    IsBlankText (collapseFrom afterSpace text) := by
  have hnone : text.dropWhile isBlank = [] := List.dropWhile_eq_nil_iff.2 h
  refine List.dropWhile_eq_nil_iff.1 ?_
  rw [dropWhile_collapseFrom, hnone]
  rfl

/-- Blanks at the end of a collapsed text are those at the end of the text. -/
theorem rdropWhile_collapseFrom (text : List Char) (afterSpace : Bool) :
    (collapseFrom afterSpace text).rdropWhile isBlank =
      collapseFrom afterSpace (text.rdropWhile isBlank) := by
  have hsplit := List.rdropWhile_append_rtakeWhile (p := isBlank) (l := text)
  have hend : IsBlankText (text.rtakeWhile isBlank) := fun c hc => List.mem_rtakeWhile_imp hc
  generalize text.rtakeWhile isBlank = tail at hsplit hend
  rcases List.eq_nil_or_concat' (text.rdropWhile isBlank) with hbody | ⟨front, c, hbody⟩
  · rw [hbody, List.nil_append] at hsplit
    rw [hbody, List.rdropWhile_eq_nil_iff.2 (hsplit ▸ hend.collapseFrom afterSpace)]
    rfl
  · have hc : isBlank c = false := by
      have hlast := List.rdropWhile_last_not isBlank text (by simp [hbody])
      simpa [hbody] using hlast
    have hsolid : Solid (Text.collapseFrom afterSpace (front ++ [c])) := by
      intro last hlast
      rw [getLast?_collapseFrom (c := c) (by simp) (isSeparator_of_not_isBlank hc)] at hlast
      exact Option.some.inj hlast ▸ hc
    rw [hbody, ← hsplit, hbody, List.append_assoc, List.singleton_append,
      collapseFrom_append_cons (isSeparator_of_not_isBlank hc), hsolid.rdropWhile_append,
      List.rdropWhile_eq_nil_iff.2 (hend.collapseFrom false), List.append_nil]

/-- Texts may be collapsed first and trimmed then. -/
theorem normalize_eq_trim_collapse (text : List Char) :
    normalize text = trim (collapse text) := by
  rw [normalize, collapse, collapse, trim_eq_rdropWhile, trim_eq_rdropWhile,
    dropWhile_collapseFrom, rdropWhile_collapseFrom]

/-- Which separators a run consists of does not matter to a collapsed text. -/
theorem IsBreak.collapseFrom_congr (hgap : IsBreak gap) (hother : IsBreak other)
    (front rest : List Char) (afterSpace : Bool) :
    collapseFrom afterSpace (front ++ gap ++ rest) =
      collapseFrom afterSpace (front ++ other ++ rest) := by
  rw [List.append_assoc, List.append_assoc]
  induction front generalizing afterSpace with
  | nil =>
      cases afterSpace with
      | false => exact (hgap.collapseFrom_false rest).trans (hother.collapseFrom_false rest).symm
      | true => exact (collapseFrom_true hgap.2 rest).trans (collapseFrom_true hother.2 rest).symm
  | cons c front ih => simp only [List.cons_append, collapseFrom, ih]

/-- Blanks at the ends of a text are trimmed away. -/
theorem trim_append_blank (hlead : IsBlankText lead) (htail : IsBlankText tail)
    (text : List Char) : trim (lead ++ text ++ tail) = trim text := by
  have hrear : ∀ text : List Char,
      (text ++ tail).rdropWhile isBlank = text.rdropWhile isBlank := by
    intro text
    rw [List.rdropWhile, List.reverse_append, List.dropWhile_append_of_pos fun c hc => htail c (List.mem_reverse.1 hc)]
    rfl
  rw [trim_eq_rdropWhile, List.append_assoc, List.dropWhile_append_of_pos hlead,
    List.dropWhile_append]
  split
  · rename_i hblank
    rw [List.dropWhile_eq_nil_iff.2 htail, trim_eq_rdropWhile, List.isEmpty_iff.1 hblank]
  · rw [hrear, trim_eq_rdropWhile]

/-- One change of the space around words keeps the normal form. -/
theorem Respaces.normalize_eq (h : Respaces text other) : normalize text = normalize other := by
  cases h with
  | gap front gap other rest hgap hother =>
      rw [normalize_eq_trim_collapse, normalize_eq_trim_collapse, collapse, collapse,
        hgap.collapseFrom_congr hother]
  | ends lead text tail hlead htail => rw [normalize, trim_append_blank hlead htail, normalize]

/-- Separators become single spaces by changes of the space around words, behind any text. -/
theorem respaced_collapseFrom (front text : List Char) :
    Respaced (front ++ text) (front ++ collapseFrom false text) ∧
      Respaced (front ++ ' ' :: text) (front ++ ' ' :: collapseFrom true text) := by
  have hspace : IsBreak [' '] := by decide
  induction text generalizing front with
  | nil => exact ⟨.refl _, .refl _⟩
  | cons c text ih =>
      by_cases hc : isSeparator c = true
      · have hgap : IsBreak [c] := ⟨List.cons_ne_nil c [], List.forall_mem_singleton.2 hc⟩
        have hgaps : IsBreak [' ', c] :=
          ⟨List.cons_ne_nil ' ' [c], List.forall_mem_cons.2 ⟨rfl, hgap.2⟩⟩
        have hone : Respaces (front ++ c :: text) (front ++ ' ' :: text) := by
          simpa using Respaces.gap front [c] [' '] text hgap hspace
        have htwo : Respaces (front ++ ' ' :: c :: text) (front ++ ' ' :: text) := by
          simpa using Respaces.gap front [' ', c] [' '] text hgaps hspace
        have hrest := (ih front).2
        simp only [collapseFrom, hc, if_true, Bool.false_eq_true, if_false]
        exact ⟨.trans _ _ _ (.rel _ _ hone) hrest, .trans _ _ _ (.rel _ _ htwo) hrest⟩
      · have hword := (ih (front ++ [c])).1
        have hbehind := (ih (front ++ [' ', c])).1
        simp only [List.append_assoc, List.cons_append, List.nil_append] at hword hbehind
        simp only [collapseFrom, hc]
        exact ⟨hword, hbehind⟩

/-- A text becomes its normal form by changes of the space around words. -/
theorem respaced_normalize (text : List Char) : Respaced text (normalize text) := by
  have hends : Respaces text (trim text) := by
    have hlead : IsBlankText (text.takeWhile isBlank) := fun c hc => List.mem_takeWhile_imp hc
    have htail : IsBlankText ((text.dropWhile isBlank).rtakeWhile isBlank) :=
      fun c hc => List.mem_rtakeWhile_imp hc
    have hdropped := Respaces.ends _ (trim text) _ hlead htail
    rwa [trim_eq_rdropWhile, List.append_assoc, List.rdropWhile_append_rtakeWhile,
      List.takeWhile_append_dropWhile, ← trim_eq_rdropWhile] at hdropped
  exact .trans _ _ _ (.rel _ _ hends) (respaced_collapseFrom [] (trim text)).1

/-- Texts have the same normal form exactly when they differ only in the space around words. -/
theorem normalize_eq_iff : normalize text = normalize other ↔ Respaced text other := by
  constructor
  · intro h
    have hback := (respaced_normalize other).symm
    exact (respaced_normalize text).trans _ _ _ (h ▸ hback)
  · intro h
    induction h with
    | rel text other hstep => exact hstep.normalize_eq
    | refl text => rfl
    | symm text other _ ih => exact ih.symm
    | trans text middle other _ _ hfirst hsecond => exact hfirst.trans hsecond

/-- A normalized text is its own normal form. -/
theorem normalize_normalize (text : List Char) : normalize (normalize text) = normalize text :=
  (normalize_eq_iff.2 (respaced_normalize text)).symm

end Remittance.Text
