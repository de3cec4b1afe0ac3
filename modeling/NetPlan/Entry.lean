/-!
# Entries

A configuration is a list of entries, each a key with a value. Most keys are free settings; a few
are directives that steer the pass over the list. `Entry.role` tells them apart; the reserved keys
and words are written down here and nowhere else.
-/

namespace NetPlan

/-- A key with its value. -/
structure Entry where
  key : String
  value : String
deriving DecidableEq, Repr

/-! ### Reserved keys and words -/

/-- The key of the shape of the input. -/
def inputShapeKey : String := "input_shape"

/-- The key of the name of the updater. -/
def updaterKey : String := "updater"

/-- The key of the markers of the block of layers. -/
def blockKey : String := "netconfig"

/-- The marker that opens the block of layers. -/
def blockStartWord : String := "start"

/-- The marker that closes the block of layers. -/
def blockEndWord : String := "end"

/-- What the key of a layer declaration starts with. -/
def layerLead : String := "layer["

/-- Whether a key declares a layer. -/
def isLayerKey (key : String) : Bool :=
  layerLead.toList.isPrefixOf key.toList

/-! ### Roles -/

/-- What an entry means to a pass. -/
inductive Role where
  /-- Gives the shape of the input. -/
  | inputShape
  /-- Names the updater. -/
  | updater
  /-- Opens the block of layers: settings are global again. -/
  | blockStart
  /-- Closes the block of layers. -/
  | blockEnd
  /-- A block marker that neither opens nor closes. -/
  | blockMarker
  /-- Declares a layer. -/
  | layer
  /-- A free setting. -/
  | setting
deriving DecidableEq, Repr

/-- The role of an entry. The value matters only for block markers. -/
def Entry.role (e : Entry) : Role :=
  if e.key = inputShapeKey then .inputShape
  else if e.key = updaterKey then .updater
  else if e.key = blockKey then
    if e.value = blockStartWord then .blockStart
    else if e.value = blockEndWord then .blockEnd
    else .blockMarker
  else if isLayerKey e.key then .layer
  else .setting

end NetPlan
