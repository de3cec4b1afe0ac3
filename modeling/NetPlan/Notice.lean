import NetPlan.Text.Quoted

/-!
# Notices

What is reported beside a result: things that were passed over without being a fault. As with
faults, a notice holds its data and `Notice.message` the wording.
-/

namespace NetPlan

/-- A remark beside a result. -/
inductive Notice where
  /-- An input shape was given for a structure that is fixed. -/
  | shapeIgnored
  /-- A block marker neither opens nor closes the block. -/
  | unknownMarker (value : String)
  /-- A listing of a model can be read, but with a doubt. -/
  | listingDoubted (remark : String)
  /-- A model has no graph, so its leaves are taken instead. -/
  | tracingFailed (reason : String)
  /-- A module is of a class that no kind stands for. -/
  | moduleSkipped (target className : String)
  /-- A function has no kind. -/
  | functionSkipped (name : String)
  /-- A method has no kind. -/
  | methodSkipped (name : String)
deriving DecidableEq, Repr

/-- The wording of a notice. -/
def Notice.message : Notice → String
  | shapeIgnored => "input_shape is ignored once the network structure is fixed"
  | unknownMarker value => s!"netconfig expects start or end, got {Text.quoted value}"
  | listingDoubted remark => remark
  | tracingFailed reason =>
    s!"FX tracing failed: {reason}. Capturing leaf modules in registration order."
  | moduleSkipped target className => s!"Skipping {target} ({className}): no matching layer type"
  | functionSkipped name =>
    s!"Skipping call_function <built-in function {name}>: no matching layer type"
  | methodSkipped name => s!"Skipping call_method {name}: no matching layer type"

end NetPlan
