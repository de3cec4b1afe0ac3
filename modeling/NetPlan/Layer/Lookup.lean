import NetPlan.Fault
import NetPlan.Layer.Basic

/-!
# Looking kinds up

Finding a kind by its name or its code, with the fault that a name or a code that is not in the
catalogue gives.
-/

namespace NetPlan

/-- The kind with a given name. -/
def Kind.named (name : String) : Except Fault Kind :=
  match Kind.ofName? name with
  | some kind => .ok kind
  | none => .error (.unknownKindName name)

/-- The kind with a given code. -/
def Kind.coded (code : Int) : Except Fault Kind :=
  match Kind.ofCode? code with
  | some kind => .ok kind
  | none => .error (.unknownKindCode code)

/-- The layer whose kind has a given code. -/
def Layer.coded (code : Int) (inputs outputs : List Int) (primary : Int) : Except Fault Layer := do
  let kind ← Kind.coded code
  return { kind, inputs, outputs, primary }

end NetPlan
