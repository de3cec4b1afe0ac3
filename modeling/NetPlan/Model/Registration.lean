import NetPlan.Model.Basic
import NetPlan.Model.Path

/-!
# Registration

The modules of a model in pre-order, each identity once. A module is known by the path of its first
occurrence.

A module that has been listed before is not entered again. Everything below it has been listed with
it, so nothing is missed, and a model with many shared parts is listed in the time that its distinct
parts take.
-/

namespace NetPlan.Model

mutual

/-- The list, last entry first, of the modules that are listed already and of those of a model that
are not; `path` is the path of the model. -/
def register (path : String) (listed : List (String × Model)) : Model → List (String × Model)
  | leaf id op =>
    if listed.any (·.2.id = id) then listed else (path, leaf id op) :: listed
  | composite id wiring children =>
    if listed.any (·.2.id = id) then listed
    else registerAll path ((path, composite id wiring children) :: listed) children
termination_by structural m => m

/-- The same for some children; `path` is the path of their parent. -/
def registerAll (path : String) (listed : List (String × Model)) :
    List (String × Model) → List (String × Model)
  | [] => listed
  | (name, child) :: rest =>
    registerAll path (register (Path.join path name) listed child) rest
termination_by structural children => children

end

/-- The modules of a model, each once, with their paths. -/
def registered (m : Model) : List (String × Model) :=
  (register "" [] m).reverse

/-- The path of the module with a given identity in a list of modules. -/
def pathOf? (listed : List (String × Model)) (id : Nat) : Option String :=
  (listed.find? (·.2.id = id)).map (·.1)

/-- The modules of a model that have no children, with their paths. -/
def registeredLeaves (m : Model) : List (String × Model) :=
  m.registered.filter (·.2.isChildless)

end NetPlan.Model
