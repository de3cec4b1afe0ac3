import NetPlan.Plan.Pass
import NetPlan.Sheet.Basic

/-!
# Configuration

A plan is configured by a pass over a feed. The first pass that ends well fixes the structure;
later ones only check it and bring new settings. A pass that fails leaves structure, tags and
updater as they were and no settings at all.

Over a text there are two ways: `configure` on its feed, where a bad line comes up in the middle of
the pass, and `configureText`, where the text is read in full before the pass starts, so that a bad
line leaves even the settings as they were.
-/

namespace NetPlan

/-- What an operation on a plan leaves behind. -/
structure Outcome where
  plan : Plan
  notices : List Notice := []
  fault : Option Fault := none
deriving DecidableEq, Repr

namespace Plan

/-- The plan behind a pass over a feed. -/
def configure (p : Plan) (feed : Feed) : Outcome :=
  let (pass, fault) := Pass.run p.outline (Pass.start p) feed.entries
  match fault.or feed.fault with
  | none => { plan := pass.plan p.outline, notices := pass.notices }
  | some f => { plan := p.clearSettings, notices := pass.notices, fault := some f }

/-- The plan behind a pass over a text that is read in full first. -/
def configureText (p : Plan) (text : String) : Outcome :=
  match Sheet.parse text with
  | .ok entries => p.configure (.ofList entries)
  | .error f => { plan := p, fault := some f }

end Plan

end NetPlan
