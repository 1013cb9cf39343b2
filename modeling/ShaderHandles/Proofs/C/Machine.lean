import Mathlib.Logic.Function.Basic
import ShaderHandles.Proofs.C.Syntax

/-!
# Execution of the generated C

Statements run on the handles of one variable and on the calls made so far. Every call that leaves the
program is a request to the graphics library, which answers as it likes: the answer may depend on all
requests and answers before.

* `Graphics`: a graphics library.
* `State`: the handles below the members of the variable, and the history of the calls.
* `Statement.run`, `runBody`: execution. A statement outside the subset that these routines use has
  no run.
* `History`: the events of a run are answers of the library.
-/

namespace ShaderHandles.C

/-! ## Requests -/

/-- A value that is passed to the graphics library. -/
inductive Value where
  | handle (handle : UInt32)
  | text (text : String)
  | constant (name : String)
  deriving DecidableEq

structure Request where
  function : String
  arguments : List Value
  deriving DecidableEq

/-- A request with its answer, as a value of the type of handles. -/
structure Event where
  request : Request
  answer : UInt32

/-- The answer to a request, after the events so far. -/
abbrev Graphics := List Event → Request → UInt32

/-- Every event is the answer of the library to a request after the events before it. -/
inductive History (graphics : Graphics) : List Event → Prop where
  | nil : History graphics []
  | next {events : List Event} (request : Request) (hEvents : History graphics events) :
    History graphics (events ++ [⟨request, graphics events request⟩])

/-! ## States -/

/-- The handles of the variable, by the names of the members that lead to them, and the events. -/
@[ext]
structure State where
  handles : List String → UInt32
  events : List Event

namespace State

/-- All handles are zero and nothing has happened. -/
def zero : State := ⟨fun _ => 0, []⟩

def ask (graphics : Graphics) (request : Request) (state : State) : State :=
  { state with events := state.events ++ [⟨request, graphics state.events request⟩] }

def store (members : List String) (handle : UInt32) (state : State) : State :=
  { state with handles := Function.update state.handles members handle }

def clear (state : State) : State := { state with handles := fun _ => 0 }

end State

/-! ## Execution -/

section

variable (graphics : Graphics) (variableName : String)

/-- The value of an argument. Without members a place is a constant, unless it is the variable. -/
def Argument.value (state : State) : Argument → Option Value
  | .place ⟨root, []⟩ => if root = variableName then none else some (.constant root)
  | .place ⟨root, members⟩ =>
    if root = variableName then some (.handle (state.handles members)) else none
  | .literal text => some (.text text)
  | _ => none

/-- The request that a call makes. -/
def Call.request (call : Call) (state : State) : Option Request :=
  (call.arguments.mapM (Argument.value variableName state)).map (⟨call.function, ·⟩)

/-- The call that sets every byte of the variable to zero. -/
def Call.reset : Call :=
  ⟨"memset", [.addressOf variableName, .number "0", .sizeOf variableName]⟩

mutual

def Statement.run : Statement → State → Option State
  | .assign target call, state =>
    if target.root = variableName ∧ target.members ≠ [] then
      (call.request variableName state).map fun request =>
        (state.ask graphics request).store target.members (graphics state.events request)
    else none
  | .call call, state =>
    if call = Call.reset variableName then some state.clear
    else (call.request variableName state).map fun request => state.ask graphics request
  | .check condition body, state =>
    (condition.request variableName state).bind fun request =>
      if graphics state.events request = 0 then some (state.ask graphics request)
      else runBody body (state.ask graphics request)

def runBody : List Statement → State → Option State
  | [], state => some state
  | statement :: rest, state => (statement.run state).bind (runBody rest)

end

end

section

variable {graphics : Graphics} {variableName : String}

theorem runBody_singleton (statement : Statement) (state : State) :
    runBody graphics variableName [statement] state = statement.run graphics variableName state := by
  have hNil : runBody graphics variableName [] = some := funext fun _ => rfl
  rw [runBody, hNil, Option.bind_fun_some]

theorem runBody_append (first second : List Statement) (state : State) :
    runBody graphics variableName (first ++ second) state =
      (runBody graphics variableName first state).bind (runBody graphics variableName second) := by
  induction first generalizing state with
  | nil => rfl
  | cons statement rest ih =>
    rw [List.cons_append, runBody, runBody, Option.bind_assoc]
    exact congrArg (statement.run graphics variableName state).bind (funext ih)

/-! ## Histories of runs -/

mutual

theorem Statement.history {statement : Statement} {state final : State}
    (hState : History graphics state.events)
    (hRun : statement.run graphics variableName state = some final) :
    History graphics final.events := by
  cases statement with
  | assign target call =>
    rw [Statement.run] at hRun
    split at hRun
    · obtain ⟨request, -, rfl⟩ := Option.map_eq_some_iff.mp hRun
      exact hState.next request
    · exact nomatch hRun
  | call call =>
    rw [Statement.run] at hRun
    split at hRun
    · cases hRun
      exact hState
    · obtain ⟨request, -, rfl⟩ := Option.map_eq_some_iff.mp hRun
      exact hState.next request
  | check condition body =>
    rw [Statement.run] at hRun
    obtain ⟨request, -, hRun⟩ := Option.bind_eq_some_iff.mp hRun
    split at hRun
    · cases hRun
      exact hState.next request
    · exact body_history (hState.next request) hRun

/-- What happens in a run are answers of the library. -/
theorem body_history {body : List Statement} {state final : State}
    (hState : History graphics state.events)
    (hRun : runBody graphics variableName body state = some final) :
    History graphics final.events := by
  cases body with
  | nil =>
    cases hRun
    exact hState
  | cons statement rest =>
    rw [runBody] at hRun
    obtain ⟨middle, hFirst, hRest⟩ := Option.bind_eq_some_iff.mp hRun
    exact body_history (statement.history hState hFirst) hRest

end

end

end ShaderHandles.C
