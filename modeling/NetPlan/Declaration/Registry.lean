/-!
# Tags

The registry of tags: which layer carries which tag, in the order in which the tags were taken.
A tag is taken once.
-/

namespace NetPlan

/-- The tags that are taken, each with the index of its layer. -/
abbrev Registry := List (String × Int)

namespace Registry

/-- The index of the layer that carries a tag. -/
def index? (r : Registry) (tag : String) : Option Int :=
  (r.find? (·.1 = tag)).map (·.2)

/-- The registry with a further tag at its end. -/
def add (r : Registry) (tag : String) (index : Int) : Registry :=
  r ++ [(tag, index)]

/-- The registry with an index for a tag, at the place of the tag if it is taken already. -/
def put (r : Registry) (tag : String) (index : Int) : Registry :=
  if r.any (·.1 = tag) then r.map fun e => if e.1 = tag then (tag, index) else e
  else r.add tag index

/-- The registry that some pairs give: of the pairs with one tag the last counts, at the place of
the first. -/
def ofList (pairs : List (String × Int)) : Registry :=
  pairs.foldl (fun r (tag, index) => r.put tag index) []

end Registry

end NetPlan
