import Mathlib.Data.List.Forall2
import Remittance.Journal.Console

/-!
# Setting up the log many times

A set-up reads its level before it changes anything, so one that fails leaves the root logger as it
is (`SetsUp`). The first set-up that succeeds adds the console handler behind the others, and each
later one finds it there. So after any sequence of set-ups there is at most one console handler, and
it and the root logger have the level of the last set-up that succeeded (`setUps_console`).
-/

namespace Remittance.Journal

/-- The handler is the console handler. -/
def Handler.isConsole (handler : Handler) : Bool :=
  handler.name == some consoleName

/-- The level that a supplied name stands for. -/
def suppliedLevel : Value → Except Fault Int
  | .null => levelOf defaultLevelName
  | .text name => levelOf name
  | name => .error (.noLetters name.typeName)

/-- The level of the last one of the names that stands for a level. -/
def lastLevel? (names : List Value) : Option Int :=
  (names.filterMap fun name => (suppliedLevel name).toOption).getLast?

/-- The logger as it is, or set to a level with a console handler of this level added. -/
def Root.withConsole (root : Root) : Option Int → Root
  | none => root
  | some level => ⟨level, root.handlers ++ [⟨some consoleName, level⟩]⟩

/-- `SetsUp root name result` says what setting up a root logger with a name comes to. -/
inductive SetsUp (root : Root) (name : Value) : Option Fault × Root → Prop where
  | failed (fault) : suppliedLevel name = .error fault → SetsUp root name (some fault, root)
  | succeeded (level) :
      suppliedLevel name = .ok level →
      SetsUp root name (none, ⟨level, setConsole level root.handlers⟩)

variable {root : Root} {name : Value} {result : Option Fault × Root}

/-- A set-up only needs a level. -/
theorem setUpSupplied_eq (name : Value) (root : Root) :
    setUpSupplied name root =
      (suppliedLevel name).map fun level => ⟨level, setConsole level root.handlers⟩ := by
  cases name <;> rfl

/-- A sequence of set-ups is the first one and those of the logger that it leaves. -/
theorem exists_setUps_cons (root : Root) (name : Value) (rest : List Value) :
    ∃ result, SetsUp root name result ∧
      setUps root (name :: rest) = result :: setUps result.2 rest := by
  rw [setUps, setUpSupplied_eq]
  cases hlevel : suppliedLevel name with
  | error fault => exact ⟨_, .failed fault hlevel, rfl⟩
  | ok level => exact ⟨_, .succeeded level hlevel, rfl⟩

/-- The faults of a sequence of set-ups are those of the names without a level. -/
theorem forall₂_setUps (root : Root) (names : List Value) :
    List.Forall₂
      (fun name result => ∀ fault, result.1 = some fault ↔ suppliedLevel name = .error fault)
      names (setUps root names) := by
  induction names generalizing root with
  | nil => exact .nil
  | cons name names ih =>
      obtain ⟨result, hresult, hcons⟩ := exists_setUps_cons root name names
      rw [hcons]
      refine .cons ?_ (ih result.2)
      cases hresult with
      | failed fault hlevel => simp [hlevel]
      | succeeded level hlevel => simp [hlevel]

/-- A set-up that fails leaves the logger that it finds. -/
theorem isChain_setUps (fault? : Option Fault) (root : Root) (names : List Value) :
    ((fault?, root) :: setUps root names).IsChain
      fun before after => after.1 ≠ none → after.2 = before.2 := by
  induction names generalizing fault? root with
  | nil => exact .singleton _
  | cons name names ih =>
      obtain ⟨result, hresult, hcons⟩ := exists_setUps_cons root name names
      rw [hcons]
      refine .cons_cons ?_ (ih result.1 result.2)
      cases hresult with
      | failed fault hlevel => simp
      | succeeded level hlevel => simp

/-- Handlers with other names are passed over. -/
theorem setConsole_append {others : List Handler}
    (hother : ∀ handler ∈ others, handler.name ≠ some consoleName) (level : Int)
    (handlers : List Handler) :
    setConsole level (others ++ handlers) = others ++ setConsole level handlers := by
  induction others with
  | nil => rfl
  | cons handler others ih =>
      rw [List.forall_mem_cons] at hother
      rw [List.cons_append, setConsole, if_neg hother.1, ih hother.2, List.cons_append]

/-- The last level of names is that of the later ones, or else that of the first. -/
theorem lastLevel?_cons (name : Value) (names : List Value) :
    lastLevel? (name :: names) = (lastLevel? names).or (suppliedLevel name).toOption := by
  unfold lastLevel?
  cases hlevel : (suppliedLevel name).toOption with
  | none => simp only [List.filterMap_cons, hlevel, Option.or_none]
  | some level =>
      simp only [List.filterMap_cons, hlevel, List.getLast?_cons]
      cases (names.filterMap fun name => (suppliedLevel name).toOption).getLast? <;> rfl

section OneConsole

variable (hother : ∀ handler ∈ root.handlers, handler.name ≠ some consoleName)
include hother

/-- A set-up with a level leaves one console handler, whether there is one already or not. -/
theorem setConsole_withConsole (level : Int) (current? : Option Int) :
    setConsole level (root.withConsole current?).handlers =
      root.handlers ++ [⟨some consoleName, level⟩] := by
  cases current? with
  | none =>
      have hadded := setConsole_append hother level []
      rwa [List.append_nil] at hadded
  | some current => exact setConsole_append hother level [⟨some consoleName, current⟩]

/-- A set-up with a level makes it the current one, and every other keeps the current one. -/
theorem SetsUp.withConsole {current? : Option Int}
    (h : SetsUp (root.withConsole current?) name result) :
    result.2 = root.withConsole ((suppliedLevel name).toOption.or current?) := by
  cases h with
  | failed fault hlevel => simp [hlevel, Except.toOption]
  | succeeded level hlevel =>
      rw [hlevel, setConsole_withConsole hother]
      rfl

/-- After every set-up of a sequence, and before the first, the logger has the last level up to
there. -/
theorem setUps_withConsole {names : List Value} {current? : Option Int} {fault? : Option Fault}
    {count : Nat}
    (h : ((fault?, root.withConsole current?) ::
      setUps (root.withConsole current?) names)[count]? = some result) :
    result.2 = root.withConsole ((lastLevel? (names.take count)).or current?) := by
  induction count generalizing names current? fault? with
  | zero =>
      obtain rfl : (fault?, root.withConsole current?) = result := by simpa using h
      rfl
  | succ count ih =>
      rw [List.getElem?_cons_succ] at h
      cases names with
      | nil => simp [setUps] at h
      | cons name names =>
          obtain ⟨⟨fault, now⟩, hfirst, hcons⟩ :=
            exists_setUps_cons (root.withConsole current?) name names
          -- The first set-up leaves a logger of the same kind, from which the others run on.
          obtain rfl : now = root.withConsole ((suppliedLevel name).toOption.or current?) :=
            hfirst.withConsole hother
          rw [hcons] at h
          rw [List.take_succ_cons, lastLevel?_cons, Option.or_assoc]
          exact ih h

end OneConsole

/-- The handlers that a root logger began with stand first, as they were. Behind them stands one
console handler if there is a level, which it has, and no console handler otherwise. The logger
itself has the level, or the one that it began with. -/
structure IsSetTo (level? : Option Int) (root now : Root) : Prop where
  others : now.handlers = root.handlers ++ now.handlers.filter Handler.isConsole
  consoles : now.handlers.filter Handler.isConsole = level?.toList.map (⟨some consoleName, ·⟩)
  level : now.level = level?.getD root.level

/-- Adding a console handler sets a logger without one to the level. -/
theorem isSetTo_withConsole
    (hother : ∀ handler ∈ root.handlers, handler.name ≠ some consoleName) (level? : Option Int) :
    IsSetTo level? root (root.withConsole level?) := by
  have hnone : root.handlers.filter Handler.isConsole = [] := by
    simpa [List.filter_eq_nil_iff, Handler.isConsole] using hother
  cases level? with
  | none => exact ⟨by simp [Root.withConsole, hnone], hnone, rfl⟩
  | some level =>
      have hconsoles : (root.withConsole (some level)).handlers.filter Handler.isConsole =
          [⟨some consoleName, level⟩] := by
        rw [Root.withConsole, List.filter_append, hnone]
        rfl
      exact ⟨congrArg (root.handlers ++ ·) hconsoles.symm, hconsoles, rfl⟩

/-- Whatever names a root logger without a console handler is set up with, a set-up fails exactly
when its name stands for no level, one that fails changes nothing, and after any number of set-ups
the logger is set to the last level up to there, with the handlers that it began with in front. -/
theorem setUps_console (hother : ∀ handler ∈ root.handlers, handler.name ≠ some consoleName)
    (names : List Value) :
    List.Forall₂
        (fun name result => ∀ fault, result.1 = some fault ↔ suppliedLevel name = .error fault)
        names (setUps root names) ∧
      (((none, root) :: setUps root names).IsChain fun before after =>
        after.1 ≠ none → after.2 = before.2) ∧
      ∀ count result, ((none, root) :: setUps root names)[count]? = some result →
        IsSetTo (lastLevel? (names.take count)) root result.2 := by
  refine ⟨forall₂_setUps root names, isChain_setUps none root names, ?_⟩
  intro count result hresult
  have hstate : result.2 = root.withConsole ((lastLevel? (names.take count)).or none) :=
    setUps_withConsole hother hresult
  rw [Option.or_none] at hstate
  rw [hstate]
  exact isSetTo_withConsole hother _

/-- A name without a level comes before the first set-up that succeeds, and others between that
and a later one. -/
theorem setUps_console_mixed :
    let root : Root := ⟨30, [⟨none, -5⟩, ⟨some "file", 40⟩]⟩
    let names : List Value :=
      [.text "_styles", .text "debug", .text "Basic_Format", .int 10, .text "x"]
    (∀ handler ∈ root.handlers, handler.name ≠ some consoleName) ∧
      (setUps root names).map (·.2.level) = [30, 10, 10, 10, 20] ∧
      (((none, root) :: setUps root names).IsChain fun before after =>
        after.1 ≠ none → after.2 = before.2) ∧
      ∀ count result, ((none, root) :: setUps root names)[count]? = some result →
        IsSetTo (lastLevel? (names.take count)) root result.2 := by
  intro root names
  have hother : ∀ handler ∈ root.handlers, handler.name ≠ some consoleName := by decide
  exact ⟨hother, by rfl, (setUps_console hother names).2⟩

end Remittance.Journal
