import NetPlan.Model.Basic
import NetPlan.Model.Block
import NetPlan.Model.Member

/-!
# Construction

Not every module that can be described can be built. An operator is turned down if its attributes
contradict each other or ask for weights of an impossible shape, and a composite if a part has a
name that a part cannot have. Attributes that only show when the operator runs are not looked at.

A linear map has one incoming feature, and a convolution as many incoming channels as it has groups.
-/

namespace NetPlan

/-! ### Convolutions -/

namespace Convolution

/-- Turns down groups that are not positive or that channels do not fall into. -/
def checkGroups (c : Convolution) : Except Fault Unit := do
  if (c.groups.compare? 0).any (·.isLE) then throw .noGroups
  if !(← c.groups.isMultipleOf c.groups) then throw .unevenInput
  if !(← c.outChannels.isMultipleOf c.groups) then throw .unevenOutput

/-- Turns down rules for a padding that there are not, and the rule that keeps the size where the
stride in one of some directions does not. -/
def checkPadding (directions : Nat) (c : Convolution) : Except Fault Unit :=
  match c.padding with
  | .size _ => .ok ()
  | .rule "valid" => .ok ()
  | .rule "same" =>
    if (c.stride.sides directions).all fun n => n.compare? 1 = some .eq then .ok ()
    else .error .stridedPadding
  | .rule name => .error (.unknownPadding name)

/-- The incoming channels of one group: one, or no whole number if the groups are none. -/
def incoming (c : Convolution) : Number :=
  match c.groups with
  | .whole _ => .whole 1
  | .float x => .float x

/-- The blocks of a convolution over some directions. -/
def blocks (directions : Nat) (c : Convolution) : List (List Number) :=
  (c.outChannels :: c.incoming :: c.kernel.sides directions) :: Block.ofBias c.bias c.outChannels

/-- Turns down a convolution over some directions that cannot be built. -/
def check (directions : Nat) (c : Convolution) : Except Fault Unit := do
  c.checkGroups
  c.checkPadding directions
  (c.blocks directions).forM Block.check

end Convolution

/-! ### Operators -/

namespace Operator

/-- Whether a probability is outside its range; what is not a number is let through. -/
def isImprobable (p : Number) : Bool :=
  p.compare? 0 = some .lt || p.compare? 1 = some .gt

/-- Turns down an operator that cannot be built. -/
def check : Operator → Except Fault Unit
  | linear _ outFeatures bias =>
    ([outFeatures, .whole 1] :: Block.ofBias bias outFeatures).forM Block.check
  | conv1d c => c.check 1
  | conv2d c => c.check 2
  | dropout _ p => if isImprobable p then .error (.improbable p.text) else .ok ()
  | pool2d .. | localResponseNorm .. | batchNorm2d _ | leakyReLU _ | plain _ => .ok ()

end Operator

/-! ### Modules -/

namespace Model

/-- A leaf, if its operator can be built. -/
def ofOperator (id : Nat) (op : Operator) : Except Fault Model := do
  op.check
  return leaf id op

/-- A composite that runs its parts in order. The parts are named by their positions. -/
def chain (id : Nat) (parts : List Model) : Model :=
  composite id .inOrder (parts.zipIdx.map fun (m, i) => (toString i, m))

/-- Whether a part of a composite with a wiring may have a name: it is not empty, has no dots, and
no member has it. -/
def isPartName (wiring : Wiring) (name : String) : Bool :=
  name != "" && !name.toList.contains '.' && !isMember wiring.className name

/-- Parts with a further one. A name that there is already takes the later module, at its first
place. -/
def putPart (parts : List (String × Model)) (part : String × Model) : List (String × Model) :=
  if parts.any (·.1 = part.1) then parts.map fun p => if p.1 = part.1 then part else p
  else parts ++ [part]

/-- A composite with steps of its own, if its parts can have their names. -/
def net (id : Nat) (parts : List (String × Model)) (forward : List Step) : Except Fault Model :=
  match parts.find? fun part => !isPartName (.steps forward) part.1 with
  | some (name, _) => .error (.badPartName name)
  | none => .ok (composite id (.steps forward) (parts.foldl putPart []))

end Model

end NetPlan
