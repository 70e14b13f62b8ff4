/-!
# Deployment

Statements are handed to an executor one after the other until one fails or the deployment is cancelled. An execution takes
several polls: it may have to wait, for a turn or for ever. Before each statement, and before each poll of an execution, the
deployment looks at the cancellation; so an execution that cancels and then waits is interrupted, while one that cancels and
finishes in the same poll has finished. A cancellation is never taken back.
-/

namespace FlinkSql.Deployment

/-- What an execution does next. -/
inductive Action
  /-- The deployment is cancelled, by the execution or by somebody else while it runs. -/
  | cancel
  /-- Waits for one poll. -/
  | yield
  /-- Waits until the deployment is cancelled. -/
  | awaitCancel
  /-- Waits for ever. -/
  | never
  deriving DecidableEq, Repr

/-- The execution of one statement: its actions, and then success or an error. -/
structure Execution where
  actions : List Action
  result : Except String Unit

/-- Executes statements: what happens with the statement at a position. -/
def Executor : Type := Nat → String → Execution

/-- How the polls of one execution end. -/
inductive Ending
  /-- The execution finishes. -/
  | finished
  /-- The deployment is cancelled while the execution waits. -/
  | interrupted
  /-- The execution waits for what never comes. -/
  | stuck
  deriving DecidableEq, Repr

/-- Polls an execution until it ends: how it ends, and whether the deployment is cancelled by then. The first argument tells
whether the deployment is cancelled already. -/
def runActions : Bool → List Action → Ending × Bool
  | cancelled, [] => (.finished, cancelled)
  | _, .cancel :: rest => runActions true rest
  | false, .yield :: rest => runActions false rest
  | true, .yield :: _ => (.interrupted, true)
  | true, .awaitCancel :: rest => runActions true rest
  | false, .awaitCancel :: _ => (.stuck, false)
  | true, .never :: _ => (.interrupted, true)
  | false, .never :: _ => (.stuck, false)

/-- How a deployment ends. -/
inductive Outcome
  /-- All statements have been executed. -/
  | done (executed : Nat)
  /-- The deployment was cancelled after some statements. -/
  | cancelled (executed : Nat)
  /-- A statement failed. -/
  | failed (index : Nat) (statement error : String)
  /-- A statement waits for ever. -/
  | stuck (index : Nat)
  deriving DecidableEq

/-- The outcome in words. -/
def Outcome.message : Outcome → String
  | .done executed => s!"{executed} statement(s) deployed"
  | .cancelled executed => s!"deployment cancelled after {executed} statement(s)"
  | .failed index _ error => s!"statement {index} failed: {error}"
  | .stuck index => s!"statement {index} does not finish"

/-- A deployment that has ended. -/
structure Report where
  outcome : Outcome
  /-- The statements that were handed to the executor, in order. -/
  started : List String
  /-- Whether the deployment was cancelled in the end. -/
  cancelled : Bool
  deriving DecidableEq

/-- Puts a statement in front of those that were started. -/
def Report.startedWith (statement : String) (r : Report) : Report := { r with started := statement :: r.started }

/-- Deploys statements from a position on. -/
def runFrom (executor : Executor) : Nat → Bool → List String → Report
  | index, cancelled, [] => ⟨.done index, [], cancelled⟩
  | index, true, _ :: _ => ⟨.cancelled index, [], true⟩
  | index, false, statement :: rest =>
    let execution := executor index statement
    match runActions false execution.actions with
    | (.interrupted, cancelled) => ⟨.cancelled index, [statement], cancelled⟩
    | (.stuck, cancelled) => ⟨.stuck index, [statement], cancelled⟩
    | (.finished, cancelled) =>
      match execution.result with
      | .error error => ⟨.failed index statement error, [statement], cancelled⟩
      | .ok () => (runFrom executor (index + 1) cancelled rest).startedWith statement

/-- Deploys statements; `cancelled` tells whether the deployment is cancelled before it begins. -/
def run (executor : Executor) (cancelled : Bool) (statements : List String) : Report :=
  runFrom executor 0 cancelled statements

end FlinkSql.Deployment
