import Mathlib.Data.List.Forall2
import Remittance.Validation.Issue

/-!
# Validation of lists

A list is validated in two ways. `List.mapM` stops at the first item that is invalid, and
`Checked.every` goes on and keeps the issues of all items. Both accept the same lists and give the
same values (`every_eq_ok_iff`, `mapM_eq_ok_iff`). Where a list is refused, one of them reports the
issues of the first invalid item (`mapM_eq_error_iff`), and the other those of all items, which are
`listed` with the first invalid item in front (`issues_every`, `listed_of_valid`).
-/

namespace Remittance

/-- The issue as seen from the end of a path, if it lies behind it. -/
def Issue.behind? (path : List PathStep) (issue : Issue) : Option Issue :=
  (path.isPrefixOf? issue.path).map (Issue.mk issue.problem)

namespace Issue

theorem behind?_nil (issue : Issue) : issue.behind? [] = some issue := rfl

theorem behind?_under (step : PathStep) (path : List PathStep) (issue : Issue) :
    (issue.under step).behind? (step :: path) = issue.behind? path := by
  simp [behind?, under, List.isPrefixOf?]

theorem behind?_under_of_ne {step other : PathStep} (hne : other ≠ step) (path : List PathStep)
    (issue : Issue) : (issue.under step).behind? (other :: path) = none := by
  simp [behind?, under, List.isPrefixOf?, hne]

/-- Looking behind a path undoes a step onto its first part. -/
theorem filterMap_behind?_under (step : PathStep) (path : List PathStep) (issues : List Issue) :
    (issues.map (under step)).filterMap (behind? (step :: path)) =
      issues.filterMap (behind? path) := by
  rw [List.filterMap_map]
  exact List.filterMap_congr fun issue _ => behind?_under step path issue

theorem filterMap_behind?_nil (issues : List Issue) : issues.filterMap (behind? []) = issues :=
  List.filterMap_some

end Issue

namespace Checked

variable {α β γ : Type}

@[simp] theorem issues_map (f : α → β) (checked : Checked α) :
    issues (checked.map f) = checked.issues := by
  cases checked <;> rfl

@[simp] theorem issues_under (step : PathStep) (checked : Checked α) :
    (checked.under step).issues = checked.issues.map (Issue.under step) := by
  cases checked <;> rfl

@[simp] theorem issues_apply (function : Checked (α → β)) (argument : Checked α) :
    (apply function argument).issues = function.issues ++ argument.issues := by
  cases function <;> cases argument <;> rfl

theorem map_eq_ok_iff {f : α → β} {checked : Checked α} {result : β} :
    checked.map f = .ok result ↔ ∃ value, checked = .ok value ∧ f value = result := by
  cases checked <;> simp [Except.map]

theorem under_eq_ok_iff {step : PathStep} {checked : Checked α} {value : α} :
    checked.under step = .ok value ↔ checked = .ok value := by
  cases checked <;> simp [under]

theorem apply_eq_ok_iff {function : Checked (α → β)} {argument : Checked α} {result : β} :
    apply function argument = .ok result ↔
      ∃ f value, function = .ok f ∧ argument = .ok value ∧ f value = result := by
  cases function <;> cases argument <;> simp [apply]

variable {check : α → Checked β} {items before rest : List α} {item : α} {values : List β}

/-- Stopping at the first invalid item gives a value for each item of a list if it accepts it. -/
theorem mapM_eq_ok_iff :
    items.mapM check = .ok values ↔
      List.Forall₂ (fun item value => check item = .ok value) items values := by
  induction items generalizing values with
  | nil => cases values <;> simp [pure, Except.pure]
  | cons item rest ih =>
      rw [List.mapM_cons, List.forall₂_cons_left_iff]
      simp only [← ih]
      cases check item with
      | error issues => simp [bind, Except.bind]
      | ok value =>
          cases rest.mapM check <;> simp [bind, Except.bind, pure, Except.pure, eq_comm]

/-- Stopping at the first invalid item accepts a list when there is none. -/
theorem exists_mapM_eq_ok_iff :
    (∃ values, items.mapM check = .ok values) ↔
      ∀ item ∈ items, ∃ value, check item = .ok value := by
  simp only [mapM_eq_ok_iff]
  induction items with
  | nil => simp
  | cons item rest ih =>
      simp only [List.forall₂_cons_left_iff, List.forall_mem_cons, ← ih]
      constructor
      · rintro ⟨_, value, others, hvalue, hothers, -⟩
        exact ⟨⟨value, hvalue⟩, others, hothers⟩
      · rintro ⟨⟨value, hvalue⟩, others, hothers⟩
        exact ⟨_, value, others, hvalue, hothers, rfl⟩

/-- Stopping at the first invalid item reports the issues of that item. -/
theorem mapM_eq_error_iff {issues : List Issue} :
    items.mapM check = .error issues ↔
      ∃ before item rest, items = before ++ item :: rest ∧
        (∀ earlier ∈ before, ∃ value, check earlier = .ok value) ∧ check item = .error issues := by
  induction items with
  | nil => simp [pure, Except.pure]
  | cons first others ih =>
      rw [List.mapM_cons]
      constructor
      · intro h
        cases hfirst : check first with
        | error found =>
            simp only [hfirst, bind, Except.bind, Except.error.injEq] at h
            exact ⟨[], first, others, rfl, by simp, h ▸ hfirst⟩
        | ok value =>
            have hothers : others.mapM check = .error issues := by
              cases hrun : others.mapM check <;>
                simp_all [bind, Except.bind, pure, Except.pure]
            obtain ⟨before, item, rest, rfl, hbefore, hitem⟩ := ih.1 hothers
            exact ⟨first :: before, item, rest, rfl,
              List.forall_mem_cons.2 ⟨⟨value, hfirst⟩, hbefore⟩, hitem⟩
      · rintro ⟨before, item, rest, hsplit, hbefore, hitem⟩
        cases before with
        | nil =>
            obtain ⟨rfl, rfl⟩ := List.cons.inj hsplit
            rw [hitem]
            rfl
        | cons earlier between =>
            obtain ⟨rfl, rfl⟩ := List.cons.inj hsplit
            obtain ⟨⟨value, hearlier⟩, hbetween⟩ := List.forall_mem_cons.1 hbefore
            rw [hearlier, ih.2 ⟨between, item, rest, rfl, hbetween, hitem⟩]
            rfl

/-- Keeping the issues of all items gives a value for each item of a list if it accepts it. -/
theorem everyFrom_eq_ok_iff {position : Nat} :
    everyFrom check position items = .ok values ↔
      List.Forall₂ (fun item value => check item = .ok value) items values := by
  induction items generalizing position values with
  | nil => cases values <;> simp [everyFrom]
  | cons item rest ih =>
      rw [everyFrom, apply_eq_ok_iff, List.forall₂_cons_left_iff]
      simp only [map_eq_ok_iff, under_eq_ok_iff, ih]
      constructor
      · rintro ⟨_, others, ⟨value, hvalue, rfl⟩, hothers, rfl⟩
        exact ⟨value, others, hvalue, hothers, rfl⟩
      · rintro ⟨value, others, hvalue, hothers, rfl⟩
        exact ⟨_, others, ⟨value, hvalue, rfl⟩, hothers, rfl⟩

/-- The two ways of validating a list accept the same lists. -/
theorem every_eq_ok_iff : every check items = .ok values ↔ items.mapM check = .ok values :=
  everyFrom_eq_ok_iff.trans mapM_eq_ok_iff.symm

/-- The issues of an item, as they are seen from the list that has it at a position. -/
def entryIssues (check : α → Checked β) (entry : α × Nat) : List Issue :=
  (check entry.1).issues.map (Issue.under (.index entry.2))

/-- The issues of all items of a list, in order. -/
def listed (check : α → Checked β) (items : List α) : List Issue :=
  items.zipIdx.flatMap (entryIssues check)

theorem issues_everyFrom (position : Nat) :
    (everyFrom check position items).issues =
      (items.zipIdx position).flatMap (entryIssues check) := by
  induction items generalizing position with
  | nil => rfl
  | cons item rest ih =>
      rw [everyFrom, issues_apply, issues_map, issues_under, ih, List.zipIdx_cons,
        List.flatMap_cons, entryIssues]

/-- Keeping the issues of all items reports all of them. -/
theorem issues_every : (every check items).issues = listed check items :=
  issues_everyFrom 0

/-- The issues of a list begin with those of its first invalid item, and the others lie further
back. -/
theorem listed_of_valid (hbefore : ∀ earlier ∈ before, ∃ value, check earlier = .ok value) :
    listed check (before ++ item :: rest) =
      entryIssues check (item, before.length) ++
        (rest.zipIdx (before.length + 1)).flatMap (entryIssues check) := by
  have hvalid : before.zipIdx.flatMap (entryIssues check) = [] := by
    rw [List.flatMap_eq_nil_iff]
    intro entry hmem
    obtain ⟨value, hvalue⟩ := hbefore _ (List.fst_mem_of_mem_zipIdx hmem)
    rw [entryIssues, hvalue]
    rfl
  rw [listed, List.zipIdx_append, List.flatMap_append, hvalid, List.nil_append,
    List.zipIdx_cons, List.flatMap_cons, Nat.zero_add]

/-- Every issue of a list lies at the position of one of its items. -/
theorem mem_flatMap_entryIssues {position : Nat} {issue : Issue}
    (h : issue ∈ (items.zipIdx position).flatMap (entryIssues check)) :
    ∃ place inner, position ≤ place ∧ issue = Issue.under (.index place) inner := by
  obtain ⟨entry, hentry, hissue⟩ := List.mem_flatMap.1 h
  obtain ⟨inner, -, rfl⟩ := List.mem_map.1 hissue
  exact ⟨entry.2, inner, List.le_snd_of_mem_zipIdx hentry, rfl⟩

/-- The issues of a list lie no further in front than its first invalid item. -/
theorem exists_of_mem_listed (hbefore : ∀ earlier ∈ before, ∃ value, check earlier = .ok value)
    {issue : Issue} (h : issue ∈ listed check (before ++ item :: rest)) :
    ∃ place inner, before.length ≤ place ∧ issue = Issue.under (.index place) inner := by
  rw [listed_of_valid hbefore, List.mem_append] at h
  rcases h with hown | hlater
  · obtain ⟨inner, -, rfl⟩ := List.mem_map.1 hown
    exact ⟨before.length, inner, Nat.le_refl _, rfl⟩
  · obtain ⟨place, inner, hplace, rfl⟩ := mem_flatMap_entryIssues hlater
    exact ⟨place, inner, Nat.le_of_succ_le hplace, rfl⟩

/-- The issues of a list at the position of its first invalid item are those of that item. -/
theorem filterMap_listed (hbefore : ∀ earlier ∈ before, ∃ value, check earlier = .ok value) :
    (listed check (before ++ item :: rest)).filterMap (Issue.behind? [.index before.length]) =
      (check item).issues := by
  have hlater : ((rest.zipIdx (before.length + 1)).flatMap (entryIssues check)).filterMap
      (Issue.behind? [.index before.length]) = [] := by
    rw [List.filterMap_eq_nil_iff]
    intro issue hmem
    obtain ⟨place, inner, hplace, rfl⟩ := mem_flatMap_entryIssues hmem
    refine Issue.behind?_under_of_ne ?_ [] inner
    simp only [ne_eq, PathStep.index.injEq]
    omega
  rw [listed_of_valid hbefore, List.filterMap_append, hlater, List.append_nil, entryIssues,
    Issue.filterMap_behind?_under, Issue.filterMap_behind?_nil]

/-- Keeping the issues of all items refuses a list with the issues of all if one item is invalid. -/
theorem every_eq_error (h : ∃ item ∈ items, ∀ value, check item ≠ .ok value) :
    every check items = .error (listed check items) := by
  cases hevery : every check items with
  | error found => rw [← issues_every, hevery, issues]
  | ok values =>
      obtain ⟨item, hmem, hinvalid⟩ := h
      obtain ⟨value, hvalue⟩ :=
        exists_mapM_eq_ok_iff.1 ⟨values, every_eq_ok_iff.1 hevery⟩ item hmem
      exact absurd hvalue (hinvalid value)

end Checked

end Remittance
