import NetPlan.Model.Member
import NetPlan.Model.Registration

/-!
# Traces

Running a model without data gives a **trace**: which leaves, functions and methods it calls, in
order. Composites are looked through at any depth and leave no mark themselves; a leaf is looked
into only if it is the whole model. A step that needs the data, or that fails, **halts** the trace
behind the calls before it.

A step may call a part of a part, by a path. A part that is not called is not run, and a step behind
one that halts is not taken.
-/

namespace NetPlan

/-- Why a model cannot be traced. -/
inductive Halt where
  /-- A step decides by the data. -/
  | branch
  /-- A step fails with a text. -/
  | failed (text : String)
  /-- A module of a class has no part of this name. -/
  | noPart (className name : String)
  /-- What has this name is not a module. -/
  | notModule (name : String)
  /-- A module calls itself. -/
  | endless
deriving DecidableEq, Repr

namespace Halt

/-- The wording of the reason. -/
def reason : Halt → String
  | branch => "symbolically traced variables cannot be used as inputs to control flow"
  | failed text => text
  | noPart className name => className ++ " has no attribute `" ++ name ++ "`"
  | notModule name => "`" ++ name ++ "` is not an nn.Module"
  | endless => "maximum recursion depth exceeded"

/-- The reason why a name does not lead to a part of a module. -/
def ofName (className name : String) : Halt :=
  if Model.isMember className name then notModule name else noPart className name

end Halt

/-- One call in a trace. -/
inductive Call where
  | leaf (id : Nat) (op : Operator)
  | function (f : Function)
  | method (name : String)
deriving DecidableEq, Repr

/-- The calls of a run, and the reason why it halts behind them, if it does. -/
structure Trace where
  calls : List Call := []
  halt? : Option Halt := none
deriving DecidableEq, Repr

namespace Trace

/-- The trace of one call. -/
def one (c : Call) : Trace :=
  { calls := [c] }

/-- The trace that halts at once. -/
def halted (h : Halt) : Trace :=
  { halt? := some h }

/-- A trace that goes on with another one, unless it halts. -/
def andThen (t : Trace) (next : Unit → Trace) : Trace :=
  match t.halt? with
  | some _ => t
  | none =>
    let u := next ()
    { u with calls := t.calls ++ u.calls }

/-- The traces of some steps, one after another, up to one that halts. -/
def sequence (run : Step → Trace) : List Step → Trace
  | [] => {}
  | step :: rest => (run step).andThen fun _ => sequence run rest

/-- The trace of a step, given the trace of the part that some names lead to. -/
def ofStep (part : List String → Trace) : Step → Trace
  | .call path => part (Path.names path)
  | .function f => one (.function f)
  | .method name => one (.method name)
  | .branch => halted .branch
  | .fail text => halted (.failed text)

end Trace

namespace Model

mutual

/-- The trace of the part of a module that some names lead to; of the module itself, called by
another, if there are none. -/
def tracePart : Model → List String → Trace
  | leaf id op, [] => .one (.leaf id op)
  | leaf _ op, name :: _ => .halted (.ofName op.className name)
  | composite _ wiring children, [] =>
    match wiring with
    | .inOrder => traceAll children
    | .steps forward => Trace.sequence (Trace.ofStep (traceChild wiring.className children)) forward
  | composite _ wiring children, name :: names =>
    traceChild wiring.className children (name :: names)
termination_by structural m => m

/-- The traces of some children, one after another. -/
def traceAll : List (String × Model) → Trace
  | [] => {}
  | (_, child) :: rest => (tracePart child []).andThen fun _ => traceAll rest
termination_by structural children => children

/-- The trace of the part that some names lead to from a module of a class with these children. No
names lead back to the module itself. -/
def traceChild (className : String) : List (String × Model) → List String → Trace
  | _, [] => .halted .endless
  | [], name :: _ => .halted (.ofName className name)
  | (other, child) :: rest, name :: names =>
    if other = name then tracePart child names else traceChild className rest (name :: names)
termination_by structural children => children

end

/-- The trace of a whole model. -/
def trace : Model → Trace
  | leaf _ op => Trace.sequence (Trace.ofStep (traceChild op.className [])) op.body
  | composite id wiring children => tracePart (composite id wiring children) []

end Model

end NetPlan
