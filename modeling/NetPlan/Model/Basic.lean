import NetPlan.Model.Operator

/-!
# Models

A model is a tree of named modules: **leaves** are operators, and a **composite** runs its children,
either in order or by steps of its own. Modules have an identity: a module that occurs in several
places occurs there with the same identity and the same parts.
-/

namespace NetPlan

/-- How a composite runs its children. -/
inductive Wiring where
  /-- One after another. -/
  | inOrder
  /-- By steps that name them. -/
  | steps (forward : List Step)
deriving DecidableEq, Repr

/-- The class of a composite. -/
def Wiring.className : Wiring → String
  | inOrder => "Sequential"
  | steps _ => "Net"

/-- A module with all its parts. -/
inductive Model where
  | leaf (id : Nat) (op : Operator)
  | composite (id : Nat) (wiring : Wiring) (children : List (String × Model))
deriving Repr

namespace Model

/-- The identity of a module. -/
def id : Model → Nat
  | leaf id _ => id
  | composite id _ _ => id

/-- The class of a module. -/
def className : Model → String
  | leaf _ op => op.className
  | composite _ wiring _ => wiring.className

/-- The kind of layer that stands for a module; no kind stands for a composite. -/
def kind? : Model → Option Kind
  | leaf _ op => op.kind?
  | composite _ _ _ => none

/-- The settings that a layer needs to stand for a module. -/
def settings : Model → Except Fault (List Entry)
  | leaf _ op => op.settings
  | composite _ _ _ => .ok []

/-- Whether a module has no children. -/
def isChildless : Model → Bool
  | leaf _ _ => true
  | composite _ _ children => children.isEmpty

end Model

end NetPlan
