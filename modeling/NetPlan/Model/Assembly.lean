import NetPlan.Model.Path

/-!
# Assembly

The parts that a trace calls are put into a module of their own, each at its path, in the order of
the calls. After that the module is given **attributes** of its own: some before its listing is
written, some before it is read, and the others behind that. An attribute cannot have the name of a
part.

A part at a path of several names goes into a module that is made for it, unless there is a member
of the first name already. That member is then taken for the module, and holds no parts.
-/

namespace NetPlan

/-- Why parts cannot be put together. -/
inductive Clash where
  /-- The text of the module is asked for before there is any. -/
  | noText
  /-- A member of a type cannot hold a part of a name. -/
  | noPlace (type name : String)
  /-- A part has the name of an attribute with a value of a type. -/
  | taken (type name : String)
deriving DecidableEq, Repr

/-- The wording of the reason. -/
def Clash.reason : Clash → String
  | noText => "Code has not been generated! Please report a bug to PyTorch"
  | noPlace type name => s!"'{type}' object has no attribute '{name}'"
  | taken type name =>
    s!"cannot assign '{type}' as child module '{name}' (torch.nn.Module or None expected)"

namespace Assembly

/-- The methods that an assembled module has beside those of every module. -/
def methods : List String :=
  ["__copy__", "__deepcopy__", "__reduce_deploy__", "__reduce_package__", "_deepcopy_init",
    "_register_create_node_hook", "_register_erase_node_hook", "_set_replace_hook",
    "_unregister_create_node_hook", "_unregister_erase_node_hook", "add_submodule",
    "delete_all_unused_submodules", "delete_submodule", "print_readable", "recompile", "to_folder"]

/-- An attribute: its name and the type of its value. -/
abbrev Attribute := String × String

/-- The attributes that are given before the listing is written, in order. -/
def earlyAttributes : List Attribute :=
  [("graph", "torch.fx.graph.Graph"), ("_graph", "torch.fx.graph.Graph")]

/-- The attributes that are given when the listing has been written, in order. -/
def textAttributes : List Attribute :=
  [("_code", "str"), ("_lineno_map", "dict")]

/-- The attributes that are given when the listing has been read, in order. -/
def lateAttributes : List Attribute :=
  [("_tracer_cls", "torch.fx._symbolic_trace.Tracer"), ("_tracer_extras", "dict"),
    ("meta", "dict"), ("_create_node_hooks", "list"), ("_erase_node_hooks", "list")]

/-- Puts a part in, at the names of its path. -/
def put : List String → Except Clash Unit
  | first :: next :: _ =>
    if first = "code" then .error .noText
    else if first = "__jit_unused_properties__" then .error (.noPlace "list" next)
    else if methods.contains first then .error (.noPlace "method" next)
    else .ok ()
  | [_] | [] => .ok ()

/-- Turns down parts of which one has the name of an attribute. -/
def checkAttributes (paths : List (List String)) (attributes : List Attribute) :
    Except Clash Unit :=
  match attributes.find? fun a => paths.any (·.head? = some a.1) with
  | some (name, type) => .error (.taken type name)
  | none => .ok ()

/-- Turns down parts that clash before the listing is written. -/
def checkEarly (paths : List (List String)) : Except Clash Unit := do
  paths.forM put
  checkAttributes paths earlyAttributes

/-- Turns down parts that clash when the listing has been written. -/
def checkText (paths : List (List String)) : Except Clash Unit :=
  checkAttributes paths textAttributes

/-- Turns down parts that clash when the listing has been read. -/
def checkLate (paths : List (List String)) : Except Clash Unit :=
  checkAttributes paths lateAttributes

end Assembly

end NetPlan
