import NetPlan.Listing.Reading
import NetPlan.Model.Assembly
import NetPlan.Model.Trace

/-!
# Nodes

What a capture writes down, in order. In the **graph** of a model these are the calls of its trace;
the module of a call is known by its path, and it is reused if another call has the same path. Where
there is no graph, they are the leaves in the order of registration, none of them reused.

A graph is there to be run, so a model has one only if its trace does not halt, the results of the
calls can be named, the modules that the trace calls can be put together, and the listing of the
calls can be written and read.
-/

namespace NetPlan

/-! ### Obstacles -/

/-- Why a model has no graph. -/
inductive Obstacle where
  /-- The trace halts. -/
  | halt (h : Halt)
  /-- The result of a call cannot be named, or a line of the listing cannot be written. -/
  | naming (f : Listing.NamingFlaw)
  /-- The modules that are called cannot be put together. -/
  | clash (c : Clash)
  /-- The listing of a run that starts at some place cannot be read. -/
  | refusal (place : String) (r : Script.Refusal)
deriving DecidableEq, Repr

/-- The wording of the reason why a listing cannot be read. Most reasons have a place. -/
def refusalReason (place : String) : Script.Refusal → String
  | .flaw f =>
    match f.flaw with
    | .token .nullCharacter => f.message
    | _ => s!"{f.message} ({place} in forward, line {f.line})"
  | .deepForm => ""
  | .deepTree => "maximum recursion depth exceeded during compilation"

/-- The wording of the reason. -/
def Obstacle.reason : Obstacle → String
  | halt h => h.reason
  | naming f => f.message
  | clash c => c.reason
  | refusal place r => refusalReason place r

/-! ### Nodes -/

/-- A module, function or method that is to be written down. -/
inductive Node where
  | module (target : String) (m : Model) (reused : Bool)
  | function (f : Function)
  | method (name : String)
deriving Repr

/-- The names on the way to the module of a node. -/
def Node.path? : Node → Option (List String)
  | module target _ _ => some (Path.names target)
  | function _ | method _ => none

/-- What a node calls in a listing. -/
def Node.callee : Node → Callee
  | module target _ _ => .part target
  | function f => .function f.name
  | method name => .method name

namespace Model

/-- The path that a call goes to, if it goes to a module. -/
def targetOf? (listed : List (String × Model)) : Call → Option String
  | .leaf id _ => pathOf? listed id
  | .function _ | .method _ => none

/-- The node of a call, given the modules of the model and the paths that all calls of the trace go
to. -/
def nodeOf (listed : List (String × Model)) (targets : List String) : Call → Node
  | .leaf id op =>
    let target := (pathOf? listed id).getD ""
    .module target (.leaf id op) (1 < targets.count target)
  | .function f => .function f
  | .method name => .method name

/-- The nodes of some calls. -/
def nodesOf (m : Model) (calls : List Call) : List Node :=
  let listed := m.registered
  let targets := calls.filterMap (targetOf? listed)
  calls.map (nodeOf listed targets)

/-- The place where the run of a model starts. -/
def place : Model → String
  | leaf .. | composite _ .inOrder _ => "container.py:248"
  | composite _ (.steps _) _ => "driver.py:153"

/-- The listing of some nodes of a model. The data of a composite that runs its parts in order gets
a name of its own. -/
def listing (m : Model) (nodes : List Node) : Listing :=
  let renamed := match m with
    | leaf .. | composite _ .inOrder _ => true
    | composite _ (.steps _) _ => false
  ⟨renamed, nodes.map Node.callee⟩

/-- The doubts about a script, in words. -/
def remarks (r : Script.Reading) : List String :=
  r.doubts.map Script.Doubt.message

/-- The graph that some nodes of a model make, with the remarks on its listing, once the listing is
written as far as it has to be. -/
def graphOfText (m : Model) (nodes : List Node) (text? : Option (List Char)) :
    List String × Except Obstacle (List Node) :=
  let paths := nodes.filterMap Node.path?
  match Assembly.checkText paths with
  | .error c => ([], .error (.clash c))
  | .ok () =>
    let reading : Script.Reading := match text? with
      | some text => Script.read text
      | none => {}
    match reading.refusal?, Assembly.checkLate paths with
    | some r, _ => (remarks reading, .error (.refusal m.place r))
    | none, .error c => (remarks reading, .error (.clash c))
    | none, .ok () => (remarks reading, .ok nodes)

/-- The graph that some nodes of a model make, with the remarks on its listing. -/
def graphOf (m : Model) (nodes : List Node) : List String × Except Obstacle (List Node) :=
  match Assembly.checkEarly (nodes.filterMap Node.path?) with
  | .error c => ([], .error (.clash c))
  | .ok () =>
    match (m.listing nodes).strangeText? with
    | .error f => ([], .error (.naming f))
    | .ok text? => m.graphOfText nodes text?

/-- The graph of a model, with the remarks on its listing: the nodes of its trace. The results of
the calls before a halt are named before the trace halts. -/
def remarkedGraph (m : Model) : List String × Except Obstacle (List Node) :=
  let trace := m.trace
  let nodes := m.nodesOf trace.calls
  let listing := m.listing nodes
  match listing.checkCalls, trace.halt? with
  | .error f, _ => ([], .error (.naming f))
  | .ok (), some h => ([], .error (.halt h))
  | .ok (), none =>
    match listing.checkNames with
    | .error f => ([], .error (.naming f))
    | .ok () => m.graphOf nodes

/-- The graph of a model. -/
def graph (m : Model) : Except Obstacle (List Node) :=
  m.remarkedGraph.2

/-- The nodes of the leaves of a model. -/
def leafNodes (m : Model) : List Node :=
  m.registeredLeaves.map fun (path, part) => .module path part false

end Model

end NetPlan
