import Remittance.Proofs.Calendar.DateText
import Remittance.Proofs.Settlement.Answers

/-!
# Instructions that wait for their date

Nothing but the timing of an instruction depends on the date of settlement, and time moves an
instruction out of waiting once and never back. `settle_leaves_waiting` says so for the answers to
any text at two dates: the later answer is the same, unless the earlier one puts the instruction
off and the later one finds it due.
-/

namespace Remittance.Settlement

open Calendar (Date)

variable {accounts : List Account} {text : String} {earlier later : Date}

/-- As the date advances, the timing of an instruction stays what it is, or a date that lay in the
future has come. -/
theorem timing_advances (h : earlier ≤ later) (executeBy : Option String) :
    timing executeBy later = timing executeBy earlier ∨
      timing executeBy earlier = .ok .later ∧ timing executeBy later = .ok .now := by
  cases executeBy with
  | none => exact .inl rfl
  | some date =>
      by_cases hform : Calendar.isDateText date = true
      · obtain ⟨year, month, day, hwrites⟩ := Calendar.isDateText_iff.1 hform
        obtain ⟨before, hbefore, hbeforeIff⟩ := Calendar.isFuture_of_writes hwrites earlier
        obtain ⟨after, hafter, hafterIff⟩ := Calendar.isFuture_of_writes hwrites later
        have hback : after = true → before = true :=
          fun hlater => hbeforeIff.2 (Calendar.precedes_of_le h (hafterIff.1 hlater))
        simp only [timing, hform, hbefore, hafter, Except.map, Bool.not_true, Bool.false_eq_true,
          if_false]
        cases before with
        | false =>
            have hnot : after = false := by
              rw [Bool.eq_false_iff]
              intro hlater
              simpa using hback hlater
            exact .inl (by rw [hnot])
        | true =>
            cases after with
            | false => exact .inr ⟨rfl, rfl⟩
            | true => exact .inl rfl
      · exact .inl (by simp [timing, hform])

/-- The codes of an instruction that breaks no rule, once it is to be carried out. -/
def dueCodes : List Code :=
  [.executed, .insufficientFunds]

/-- `Advances code first second` says that `second` is the same as `first`, or that `first` puts an
instruction off which `second` finds due. -/
def Advances {Result : Type} (code : Result → Code) (first second : Except Fault Result) : Prop :=
  second = first ∨
    ∃ waiting due, first = .ok waiting ∧ code waiting = .scheduled ∧ second = .ok due ∧
      code due ∈ dueCodes

/-- What is made of a verdict advances as the verdict does, if it carries the code. -/
theorem Advances.map {Result : Type} {code : Result → Code} {make : Code → Result}
    (hmake : ∀ verdict, code (make verdict) = verdict) {first second : Except Fault Code}
    (h : Advances id first second) : Advances code (first.map make) (second.map make) := by
  rcases h with rfl | ⟨waiting, due, rfl, hwaiting, rfl, hdue⟩
  · exact .inl rfl
  · exact .inr ⟨make waiting, make due, rfl, (hmake waiting).trans hwaiting, rfl,
      (hmake due).symm ▸ hdue⟩

/-- The verdict on the accounts of an instruction reads the date for its timing only. -/
theorem accountVerdict_advances (h : earlier ≤ later) (order : Instruction) (amount : Nat)
    (debit credit : Account) :
    Advances id (accountVerdict order amount debit credit earlier)
      (accountVerdict order amount debit credit later) := by
  unfold accountVerdict
  split
  · exact .inl rfl
  split
  · exact .inl rfl
  rcases timing_advances h order.executeBy with hsame | ⟨hbefore, hafter⟩
  · rw [hsame]
    exact .inl rfl
  · rw [hbefore, hafter]
    refine .inr ⟨.scheduled, _, rfl, rfl, rfl, ?_⟩
    show (if debit.balance < amount then Code.insufficientFunds else .executed) ∈ dueCodes
    split <;> simp [dueCodes]

/-- The verdict on an instruction reads the date for its timing only. -/
theorem orderVerdict_advances (h : earlier ≤ later) (order : Instruction) (amount : Nat)
    (accounts : List Account) :
    Advances id (orderVerdict order amount accounts earlier)
      (orderVerdict order amount accounts later) := by
  unfold orderVerdict
  split
  · exact .inl rfl
  split
  · exact .inl rfl
  split
  · exact accountVerdict_advances h order amount _ _
  · exact .inl rfl

/-- The answer to a text advances with the date. -/
theorem answer_advances (h : earlier ≤ later) (accounts : List Account) (text : String) :
    Advances Outcome.code (settle accounts text earlier).answer
      (settle accounts text later).answer := by
  rw [settle_answer, settle_answer]
  split
  · exact .inl rfl
  · rename_i order horder
    unfold judge
    split
    · exact .inl rfl
    · exact .inl rfl
    · exact (orderVerdict_advances h order _ accounts).map (outcomeOf_code order _ accounts)

/-- The answer is an outcome with this code. -/
def HasCode (answer : Except Fault Outcome) (code : Code) : Prop :=
  answer.map Outcome.code = .ok code

theorem hasCode_iff {answer : Except Fault Outcome} {code : Code} :
    HasCode answer code ↔ ∃ outcome, answer = .ok outcome ∧ outcome.code = code := by
  cases answer <;> simp [HasCode, Except.map]

/-- An answer has at most one code. -/
theorem HasCode.unique {answer : Except Fault Outcome} {code other : Code}
    (h : HasCode answer code) (hother : HasCode answer other) : code = other :=
  Except.ok.inj (h.symm.trans hother)

/-- As the date advances, an answer stays what it is, or it is one of an instruction that waits and
becomes one of an instruction that is due. -/
theorem answer_eq_or_due (h : earlier ≤ later) (accounts : List Account) (text : String) :
    (settle accounts text later).answer = (settle accounts text earlier).answer ∨
      HasCode (settle accounts text earlier).answer .scheduled ∧
        ∃ code ∈ dueCodes, HasCode (settle accounts text later).answer code := by
  rcases answer_advances h accounts text with
    hsame | ⟨waiting, due, hfirst, hwaiting, hsecond, hdue⟩
  · exact .inl hsame
  · rw [hfirst, hsecond]
    exact .inr ⟨congrArg Except.ok hwaiting, due.code, hdue, rfl⟩

/-- An answer other than that an instruction waits is given at every later date. -/
theorem answer_eq_of_not_waiting (h : earlier ≤ later)
    (hnot : ¬ HasCode (settle accounts text earlier).answer .scheduled) :
    (settle accounts text later).answer = (settle accounts text earlier).answer :=
  (answer_eq_or_due h accounts text).resolve_right fun hdue => hnot hdue.1

/-- Between two dates an answer changes only from an instruction that waits to one that is due, and
it is then the same at every later date. An instruction that waits at the later date was given the
same answer at the earlier one. An answer that has nothing to do with waiting does not depend on
the date at all. -/
theorem settle_leaves_waiting (h : earlier ≤ later) (accounts : List Account) (text : String) :
    let first := (settle accounts text earlier).answer
    let second := (settle accounts text later).answer
    (¬ HasCode first .scheduled → second = first) ∧
      (HasCode second .scheduled → first = second) ∧
      (second ≠ first →
        HasCode first .scheduled ∧
          (HasCode second .executed ∨ HasCode second .insufficientFunds) ∧
          ∀ last, later ≤ last → (settle accounts text last).answer = second) ∧
      ((∀ code ∈ .scheduled :: dueCodes, ¬ HasCode first code) →
        ∀ date, (settle accounts text date).answer = first) := by
  intro first second
  have hdue : ∀ code ∈ dueCodes, HasCode second code → ¬ HasCode second .scheduled := by
    intro code hcode hsecond hwaiting
    rw [hsecond.unique hwaiting] at hcode
    simp [dueCodes] at hcode
  refine ⟨answer_eq_of_not_waiting h, ?_, ?_, ?_⟩
  · intro hwaiting
    rcases answer_eq_or_due h accounts text with hsame | ⟨-, code, hcode, hsecond⟩
    · exact hsame.symm
    · exact absurd hwaiting (hdue code hcode hsecond)
  · intro hchanged
    obtain ⟨hfirst, code, hcode, hsecond⟩ :=
      (answer_eq_or_due h accounts text).resolve_left hchanged
    refine ⟨hfirst, ?_, fun last hlast => answer_eq_of_not_waiting hlast (hdue code hcode hsecond)⟩
    simp only [dueCodes, List.mem_cons, List.not_mem_nil, or_false] at hcode
    rcases hcode with rfl | rfl
    · exact .inl hsecond
    · exact .inr hsecond
  · intro hother date
    rcases Date.le_total earlier date with hle | hle
    · exact answer_eq_of_not_waiting hle (hother .scheduled List.mem_cons_self)
    · rcases answer_eq_or_due hle accounts text with hsame | ⟨-, code, hcode, hfirst⟩
      · exact hsame.symm
      · exact absurd hfirst (hother code (List.mem_cons_of_mem _ hcode))

/-- An instruction waits until the third of March, which is the day that the 31st of February of
its date runs on to, and is refused from then on. -/
theorem settle_leaves_waiting_march :
    let accounts : List Account := [⟨"a", 300, "usd"⟩, ⟨"b", 0, "USD"⟩]
    let text := "DEBIT 500 USD FROM ACCOUNT a FOR CREDIT TO ACCOUNT b ON 2026-02-31"
    let second : Date := ⟨2026, 3, 2, by decide⟩
    let third : Date := ⟨2026, 3, 3, by decide⟩
    second ≤ third ∧ HasCode (settle accounts text second).answer .scheduled ∧
      HasCode (settle accounts text third).answer .insufficientFunds ∧
      ∀ last, third ≤ last →
        (settle accounts text last).answer = (settle accounts text third).answer := by
  have hwaits : (settle [⟨"a", 300, "usd"⟩, ⟨"b", 0, "USD"⟩]
      "DEBIT 500 USD FROM ACCOUNT a FOR CREDIT TO ACCOUNT b ON 2026-02-31"
      ⟨2026, 3, 2, by decide⟩).answer.map Outcome.code = .ok .scheduled := by rfl
  have hrefused : (settle [⟨"a", 300, "usd"⟩, ⟨"b", 0, "USD"⟩]
      "DEBIT 500 USD FROM ACCOUNT a FOR CREDIT TO ACCOUNT b ON 2026-02-31"
      ⟨2026, 3, 3, by decide⟩).answer.map Outcome.code = .ok .insufficientFunds := by rfl
  intro accounts text second third
  have hle : second ≤ third := Date.le_iff.2 (by decide)
  have hchanged : (settle accounts text third).answer ≠ (settle accounts text second).answer := by
    intro hsame
    exact absurd ((hsame ▸ hrefused : HasCode _ _).unique hwaits) (by decide)
  exact ⟨hle, hwaits, hrefused, ((settle_leaves_waiting hle accounts text).2.2.1 hchanged).2.2⟩

end Remittance.Settlement
