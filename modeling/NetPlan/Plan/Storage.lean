import NetPlan.Archive.Read
import NetPlan.Archive.Write
import NetPlan.Plan.Configure

/-!
# Storage of plans

Saving writes the outline of a plan; loading puts an archived outline in its place. A load that
fails leaves the plan as it was.
-/

namespace NetPlan.Plan

open Archive

/-- The archive of a plan. -/
def save (p : Plan) : Written :=
  write p.outline

/-- The plan with the archived outline, and the source behind it. -/
def load (p : Plan) (s : Source) : Outcome × Source :=
  match read.run s with
  | .ok o s' => ({ plan := p.adopt o }, s')
  | .error fault s' => ({ plan := p, fault := some fault }, s')

/-- The plan that an archive alone makes. -/
def ofSource (s : Source) : Except Fault Plan :=
  match read.run s with
  | .ok o _ => .ok (.ofOutline o)
  | .error fault _ => .error fault

end NetPlan.Plan
