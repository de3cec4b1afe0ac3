import NetPlan.Fault

/-!
# Feeds

A feed is a source of entries that may break off: the entries that it delivers in order and, if it
does not end well, the fault that it ends with. A list of entries is a feed that ends well.
-/

namespace NetPlan

/-- Entries in order, and the fault behind them if the source breaks off. -/
structure Feed where
  entries : List Entry
  fault : Option Fault := none
deriving DecidableEq, Repr

namespace Feed

/-- The feed that delivers a list. -/
def ofList (entries : List Entry) : Feed :=
  { entries }

/-- The feed that delivers an entry before all others. -/
def cons (e : Entry) (f : Feed) : Feed :=
  { f with entries := e :: f.entries }

/-- All entries, unless the feed breaks off. -/
def toExcept (f : Feed) : Except Fault (List Entry) :=
  match f.fault with
  | none => .ok f.entries
  | some fault => .error fault

end Feed

end NetPlan
