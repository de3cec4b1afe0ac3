import NetPlan.Capture.Basic
import NetPlan.Plan.Configure

/-!
# Configuration from a model

A plan is configured with the declarations of a captured model. If the capture fails, the plan is
left as it was.
-/

namespace NetPlan.Plan

/-- The plan behind a pass over the declarations of a model, with the notices of both. -/
def configureModel (p : Plan) (m : Model) (inputShape : Option (List Number)) : Outcome :=
  match ({} : Capturer).capture m inputShape with
  | (c, some fault) => { plan := p, notices := c.notices, fault := some fault }
  | (c, none) =>
    let outcome := p.configure (.ofList c.declarations)
    { outcome with notices := c.notices ++ outcome.notices }

end NetPlan.Plan
