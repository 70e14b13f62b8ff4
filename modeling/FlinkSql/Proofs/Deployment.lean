import FlinkSql.Deployment
import Mathlib.Data.List.TakeDrop

/-!
# The order of a deployment

A deployment hands over its statements from the first one on. It stops at the first that does not finish well, and before the
first at which it is cancelled. `Reached` is what holds whenever the deployment turns to a position; a statement that completes
keeps it (`Reached.next`), any other statement ends the deployment, and the induction on the statements that are left says of
every run that it is `Orderly`.
-/

namespace FlinkSql.Deployment

/-! ## One execution -/

/-- Only a cancellation interrupts an execution. -/
theorem cancelled_of_interrupted {cancelled : Bool} {actions : List Action}
    (h : (runActions cancelled actions).1 = .interrupted) : (runActions cancelled actions).2 = true := by
  fun_induction runActions cancelled actions <;> first | rfl | cases h | (rename_i ih; exact ih h)

/-- An execution waits for ever only where nobody cancels the deployment. -/
theorem open_of_stuck {cancelled : Bool} {actions : List Action} (h : (runActions cancelled actions).1 = .stuck) :
    (runActions cancelled actions).2 = false := by
  fun_induction runActions cancelled actions <;> first | rfl | cases h | (rename_i ih; exact ih h)

namespace Executor

variable (executor : Executor)

/-- How the execution of a statement ends that is started before any cancellation, and whether the deployment is cancelled by
then. -/
def ending (i : Nat) (statement : String) : Ending × Bool := runActions false (executor i statement).actions

/-- The execution finishes with success. -/
def Completes (i : Nat) (statement : String) : Prop :=
  (executor.ending i statement).1 = .finished ∧ (executor i statement).result = .ok ()

/-- The execution finishes with an error. -/
def Fails (i : Nat) (statement error : String) : Prop :=
  (executor.ending i statement).1 = .finished ∧ (executor i statement).result = .error error

/-- The statement at a position completes. -/
def CompletesAt (statements : List String) (i : Nat) : Prop := ∃ s, statements[i]? = some s ∧ executor.Completes i s

/-- The deployment is cancelled before the statement at a position: from the beginning, or by the time an earlier one ended. -/
def CancelledBefore (cancelled : Bool) (statements : List String) (i : Nat) : Prop :=
  cancelled = true ∨ ∃ j < i, ∃ s, statements[j]? = some s ∧ (executor.ending j s).2 = true

end Executor

/-! ## Runs -/

variable {executor : Executor} {cancelled : Bool} {statements : List String}

/-- What a deployment that has started its first `k` statements reports: nothing is started after a statement that did not
complete or after a cancellation, and each outcome names the position at which it stopped. -/
structure Orderly (executor : Executor) (cancelled : Bool) (statements : List String) (k : Nat) (r : Report) : Prop where
  started : r.started = statements.take k
  bound : k ≤ statements.length
  before : ∀ i < k, ¬executor.CancelledBefore cancelled statements i ∧ ∀ j < i, executor.CompletesAt statements j
  token : r.cancelled = true ↔ executor.CancelledBefore cancelled statements k
  done : ∀ n, r.outcome = .done n → n = statements.length ∧ k = n ∧ ∀ i < n, executor.CompletesAt statements i
  failed : ∀ i s error, r.outcome = .failed i s error → k = i + 1 ∧ statements[i]? = some s ∧ executor.Fails i s error ∧
    ∀ j, j < k ∧ executor.CompletesAt statements j ↔ j < i
  stopped : ∀ n, r.outcome = .cancelled n → r.cancelled = true ∧ (∀ j, j < k ∧ executor.CompletesAt statements j ↔ j < n) ∧
    ∃ s, statements[n]? = some s ∧ (k = n ∨ k = n + 1 ∧ (executor.ending n s).1 = .interrupted)
  stuck : ∀ i, r.outcome = .stuck i → k = i + 1 ∧ (∀ j, j < k ∧ executor.CompletesAt statements j ↔ j < i) ∧
    ∃ s, statements[i]? = some s ∧ executor.ending i s = (.stuck, false)

/-- The deployment turns to a position: all statements before it have completed, none of them was started after a cancellation,
and `now` tells whether the deployment is cancelled. -/
structure Reached (executor : Executor) (cancelled : Bool) (statements : List String) (i : Nat) (now : Bool) : Prop where
  completed : ∀ j < i, executor.CompletesAt statements j
  before : ∀ j < i, ¬executor.CancelledBefore cancelled statements j
  token : now = true ↔ executor.CancelledBefore cancelled statements i

namespace Reached

theorem start : Reached executor cancelled statements 0 cancelled where
  completed _ h := absurd h (Nat.not_lt_zero _)
  before _ h := absurd h (Nat.not_lt_zero _)
  token := by simp [Executor.CancelledBefore]

/-- A position that is reached is that of a statement, or the end. -/
theorem le_length {i : Nat} {now : Bool} (h : Reached executor cancelled statements i now) : i ≤ statements.length := by
  by_contra hi
  obtain ⟨s, hs, -⟩ := h.completed statements.length (by omega)
  simp at hs

/-- The cancellation behind a statement that was started before any. -/
theorem token_next {i : Nat} (h : Reached executor cancelled statements i false) {s : String} (hs : statements[i]? = some s) :
    (executor.ending i s).2 = true ↔ executor.CancelledBefore cancelled statements (i + 1) := by
  have hopen : ¬executor.CancelledBefore cancelled statements i := fun hc => Bool.false_ne_true (h.token.mpr hc)
  constructor
  · exact fun hc => Or.inr ⟨i, Nat.lt_succ_self i, s, hs, hc⟩
  · rintro (hc | ⟨j, hj, t, ht, hc⟩)
    · exact absurd (Or.inl hc) hopen
    · rcases Nat.lt_succ_iff_lt_or_eq.mp hj with hj | rfl
      · exact absurd (Or.inr ⟨j, hj, t, ht, hc⟩) hopen
      · cases hs.symm.trans ht
        exact hc

/-- A statement that completes leads to the next position. -/
theorem next {i : Nat} (h : Reached executor cancelled statements i false) {s : String} (hs : statements[i]? = some s)
    (hcompletes : executor.Completes i s) : Reached executor cancelled statements (i + 1) (executor.ending i s).2 where
  completed j hj := by
    rcases Nat.lt_succ_iff_lt_or_eq.mp hj with hj | rfl
    · exact h.completed j hj
    · exact ⟨s, hs, hcompletes⟩
  before j hj := by
    rcases Nat.lt_succ_iff_lt_or_eq.mp hj with hj | rfl
    · exact h.before j hj
    · exact fun hc => Bool.false_ne_true (h.token.mpr hc)
  token := h.token_next hs

/-- No statement before a position that is reached was started too late. -/
theorem started_before {i : Nat} {now : Bool} (h : Reached executor cancelled statements i now) :
    ∀ j < i, ¬executor.CancelledBefore cancelled statements j ∧ ∀ k < j, executor.CompletesAt statements k :=
  fun j hj => ⟨h.before j hj, fun k hk => h.completed k (Nat.lt_trans hk hj)⟩

/-- Nor is the statement at that position. -/
theorem before_next {i : Nat} (h : Reached executor cancelled statements i false) :
    ∀ j < i + 1, ¬executor.CancelledBefore cancelled statements j ∧ ∀ k < j, executor.CompletesAt statements k := by
  intro j hj
  refine ⟨?_, fun k hk => h.completed k (by omega)⟩
  rcases Nat.lt_succ_iff_lt_or_eq.mp hj with hj | rfl
  · exact h.before j hj
  · exact fun hc => Bool.false_ne_true (h.token.mpr hc)

/-- Where the statement at a position does not complete, exactly those before it have. -/
theorem completed_iff {i : Nat} {now : Bool} (h : Reached executor cancelled statements i now) {s : String}
    (hs : statements[i]? = some s) (hnot : ¬executor.Completes i s) (j : Nat) :
    j < i + 1 ∧ executor.CompletesAt statements j ↔ j < i := by
  constructor
  · rintro ⟨hj, t, ht, hcompletes⟩
    rcases Nat.lt_succ_iff_lt_or_eq.mp hj with hj | rfl
    · exact hj
    · cases hs.symm.trans ht
      exact absurd hcompletes hnot
  · exact fun hj => ⟨Nat.lt_succ_of_lt hj, h.completed j hj⟩

/-- A statement that does not complete is the last one that is started, and the outcome tells what happened to it. -/
theorem stops {i : Nat} (h : Reached executor cancelled statements i false) {s : String} (hs : statements[i]? = some s)
    (outcome : Outcome)
    (houtcome : (∃ error, outcome = .failed i s error ∧ executor.Fails i s error) ∨
      (outcome = .cancelled i ∧ (executor.ending i s).1 = .interrupted) ∨
      (outcome = .stuck i ∧ (executor.ending i s).1 = .stuck)) :
    Orderly executor cancelled statements (i + 1) ⟨outcome, statements.take (i + 1), (executor.ending i s).2⟩ := by
  have hnot : ¬executor.Completes i s := by
    rintro ⟨hfinished, hok⟩
    rcases houtcome with ⟨error, -, -, herror⟩ | ⟨-, hinterrupted⟩ | ⟨-, hstuck⟩
    · cases hok.symm.trans herror
    · cases hfinished.symm.trans hinterrupted
    · cases hfinished.symm.trans hstuck
  have hcompleted := h.completed_iff hs hnot
  refine ⟨rfl, (List.getElem?_eq_some_iff.mp hs).1, h.before_next, h.token_next hs, ?_, ?_, ?_, ?_⟩
  · rintro n rfl
    simp at houtcome
  · rintro n t error rfl
    obtain ⟨_, ⟨⟩, hfails⟩ : ∃ e, Outcome.failed n t error = .failed i s e ∧ executor.Fails i s e := by simpa using houtcome
    exact ⟨rfl, hs, hfails, hcompleted⟩
  · rintro n rfl
    obtain ⟨rfl, hinterrupted⟩ : n = i ∧ (executor.ending i s).1 = .interrupted := by simpa using houtcome
    exact ⟨cancelled_of_interrupted hinterrupted, hcompleted, s, hs, Or.inr ⟨rfl, hinterrupted⟩⟩
  · rintro n rfl
    obtain ⟨rfl, hstuck⟩ : n = i ∧ (executor.ending i s).1 = .stuck := by simpa using houtcome
    exact ⟨rfl, hcompleted, s, hs, Prod.ext hstuck (open_of_stuck hstuck)⟩

end Reached

/-- What is left of a deployment at a position that is reached, behind the statements that were started before. -/
theorem orderly_runFrom {i : Nat} {now : Bool} (h : Reached executor cancelled statements i now) {rest : List String}
    (hrest : statements.drop i = rest) :
    ∃ k, Orderly executor cancelled statements k
      { runFrom executor i now rest with started := statements.take i ++ (runFrom executor i now rest).started } := by
  induction rest generalizing i now with
  | nil =>
    have hlength : i = statements.length := Nat.le_antisymm h.le_length (List.drop_eq_nil_iff.mp hrest)
    refine ⟨i, List.append_nil _, h.le_length, h.started_before, h.token, ?_, nofun, nofun, nofun⟩
    rintro n ⟨⟩
    exact ⟨hlength, rfl, h.completed⟩
  | cons s rest ih =>
    have hs : statements[i]? = some s := by
      rw [← List.head?_drop, hrest]
      rfl
    have htake : statements.take (i + 1) = statements.take i ++ [s] := by
      rw [List.take_add_one, hs]
      rfl
    cases now with
    | true =>
      refine ⟨i, List.append_nil _, h.le_length, h.started_before, h.token, nofun, nofun, ?_, nofun⟩
      rintro n ⟨⟩
      exact ⟨rfl, fun j => ⟨fun hj => hj.1, fun hj => ⟨hj, h.completed j hj⟩⟩, s, hs, Or.inl rfl⟩
    | false =>
      have hstops := h.stops hs
      have hnext := h.next hs
      rw [htake] at hstops
      rcases hending : executor.ending i s with ⟨ending, token⟩
      have hactions : runActions false (executor i s).actions = (ending, token) := hending
      rw [hending] at hstops hnext
      rw [runFrom]
      simp only [hactions]
      cases ending with
      | interrupted => exact ⟨i + 1, hstops _ (Or.inr (Or.inl ⟨rfl, rfl⟩))⟩
      | stuck => exact ⟨i + 1, hstops _ (Or.inr (Or.inr ⟨rfl, rfl⟩))⟩
      | finished =>
        have hfinished : (executor.ending i s).1 = .finished := congrArg Prod.fst hending
        cases hresult : (executor i s).result with
        | error error => exact ⟨i + 1, hstops _ (Or.inl ⟨error, rfl, hfinished, hresult⟩)⟩
        | ok value =>
          have hdrop : statements.drop (i + 1) = rest := by
            rw [← List.tail_drop, hrest]
            rfl
          obtain ⟨k, hk⟩ := ih (hnext ⟨hfinished, hresult⟩) hdrop
          rw [htake, List.append_assoc] at hk
          exact ⟨k, hk⟩

/-- Every deployment is orderly. -/
theorem run_orderly (executor : Executor) (cancelled : Bool) (statements : List String) :
    ∃ k, Orderly executor cancelled statements k (run executor cancelled statements) :=
  orderly_runFrom .start rfl

/-- A statement that cancels the deployment and completes counts, and the next one is not started. -/
example : run (fun _ _ => ⟨[.cancel], .ok ()⟩) false ["CREATE TABLE a", "CREATE TABLE b"] =
    ⟨.cancelled 1, ["CREATE TABLE a"], true⟩ := by
  decide

end FlinkSql.Deployment
