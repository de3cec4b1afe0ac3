import NetPlan.Model.Construction

/-!
# Rosters

While models are built, every module gets an identity of its own, and some modules get a **name** by
which they are taken up again, in the same model or in a later one. A name that is given again
stands for the later module from then on.
-/

namespace NetPlan

/-- The modules that have been named, the latest first, and the identity of the next module. -/
structure Roster where
  named : List (String × Model) := []
  next : Nat := 0
deriving Repr

namespace Roster

/-- A fresh identity. -/
def fresh (r : Roster) : Nat × Roster :=
  (r.next, { r with next := r.next + 1 })

/-- The module that has a name. -/
def find (r : Roster) (name : String) : Except Fault Model :=
  match r.named.find? (·.1 = name) with
  | some (_, m) => .ok m
  | none => .error (.unknownModule name)

/-- Gives a module a name. -/
def name (r : Roster) (name : String) (m : Model) : Roster :=
  { r with named := (name, m) :: r.named }

end Roster

end NetPlan
