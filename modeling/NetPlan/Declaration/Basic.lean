import NetPlan.Declaration.Designation
import NetPlan.Declaration.Link
import NetPlan.Declaration.Registry
import NetPlan.Layer.Lookup

/-!
# Layer declarations

A declaration is an entry whose key is a link and whose value is a designation. It gives a layer
with one input and one output. A tag on a layer that is not shared is taken for it; a shared layer
must name a tag that is taken, and points at the layer that carries it.

The checks come in this order: link, form of the designation, name of the kind, tag. The registry
changes only if all succeed, and then by at most one tag at its end. It is handed on from one
declaration to the next (`Declaration.read`), or kept in place (`Declaration.readInto`).
-/

namespace NetPlan.Declaration

/-- The primary layer that a layer of some kind with some tag points at, and the registry behind
it; `index` is the index of the layer itself. -/
def resolve (kind : Kind) (tag : String) (index : Int) (tags : Registry) :
    Except Fault (Int × Registry) :=
  if kind.isShared then
    if tag = "" then .error .missingTag
    else
      match tags.index? tag with
      | none => .error (.undefinedTag tag)
      | some primary => .ok (primary, tags)
  else if tag = "" then .ok (-1, tags)
  else if (tags.index? tag).isSome then .error (.duplicateTag tag)
  else .ok (-1, tags.add tag index)

/-- The layer that a declaration gives, and the registry behind it. The layer gets the index
`index`, and `top` is the node that the previous layer wrote. -/
def read (entry : Entry) (top index : Int) (tags : Registry) : Except Fault (Layer × Registry) := do
  let (source, target) ← Link.read entry.key top
  let designation ← Designation.read entry.value
  let kind ← Kind.named designation.kindName
  let (primary, tags) ← resolve kind designation.tag index tags
  return ({ kind, inputs := [source], outputs := [target], primary }, tags)

/-! ### In place -/

/-- The primary layer that a layer points at, where the registry is kept in place: a tag that is
taken joins it. A fault leaves what stands in the registry when it comes up. -/
def resolveInto (kind : Kind) (tag : String) (index : Int) : EStateM Fault Registry Int := do
  if kind.isShared then
    if tag = "" then throw .missingTag
    match (← get).index? tag with
    | none => throw (.undefinedTag tag)
    | some primary => return primary
  else
    if tag ≠ "" then
      if ((← get).index? tag).isSome then throw (.duplicateTag tag)
      modify (·.add tag index)
    return -1

/-- The layer that a declaration gives, where the registry is kept in place. -/
def readInto (entry : Entry) (top index : Int) : EStateM Fault Registry Layer := do
  let (source, target) ← MonadExcept.ofExcept (Link.read entry.key top)
  let designation ← MonadExcept.ofExcept (Designation.read entry.value)
  let kind ← MonadExcept.ofExcept (Kind.named designation.kindName)
  let primary ← resolveInto kind designation.tag index
  return { kind, inputs := [source], outputs := [target], primary }

end NetPlan.Declaration
