import NetPlan.Archive.Word
import NetPlan.Fault
import NetPlan.Layer.Basic

/-!
# Writing archives

An archive is a header record of 152 bytes and then, for each layer, its primary layer and its code,
and its inputs and its outputs, each sequence with its length before it. The record ends in 32
reserved words, of which the first holds the version of the format.

The archive is written **piece by piece**. A piece that holds a number that does not fit has no
bytes; writing stops before it, and the pieces before it have been written.
-/

namespace NetPlan.Archive

/-- The number of bytes of a header record. -/
def recordSize : Nat := 152

/-- The bytes of the reserved words, the version of the format first. -/
def reservedBytes : Bytes :=
  littleEndian 4 formatVersion.toNat ++ List.replicate 124 0

/-- The bytes of a header record. -/
def headerRecord? (h : Header) : Option Bytes := do
  let nodeCount ← signedWord? h.nodeCount
  let layerCount ← signedWord? h.layerCount
  let channels ← unsignedWord? h.shape.channels
  let height ← unsignedWord? h.shape.height
  let width ← unsignedWord? h.shape.width
  return nodeCount ++ layerCount ++ channels ++ height ++ width ++
    littleEndian 4 (if h.finalized then 1 else 0) ++ reservedBytes

/-- The pieces of a sequence of nodes. -/
def nodePieces (nodes : List Int) : List (Option Bytes) :=
  [some (lengthWord nodes.length), signedWords? nodes]

/-- The pieces of a layer. -/
def layerPieces (l : Layer) : List (Option Bytes) :=
  signedWords? [l.primary, l.kind.code] :: (nodePieces l.inputs ++ nodePieces l.outputs)

/-- The pieces of an archive. -/
def pieces (o : Outline) : List (Option Bytes) :=
  headerRecord? o.header :: o.layers.flatMap layerPieces

/-- What has been written, and the fault that stopped the writing. -/
structure Written where
  bytes : Bytes
  fault : Option Fault := none
deriving DecidableEq, Repr

/-- The bytes of the pieces before the first one that has none. -/
def writePieces : List (Option Bytes) → Written
  | [] => { bytes := [] }
  | none :: _ => { bytes := [], fault := some .fieldOverflow }
  | some bs :: rest =>
    let w := writePieces rest
    { w with bytes := bs ++ w.bytes }

/-- The archive of an outline. Nothing is written if the header counts other layers than there
are. -/
def write (o : Outline) : Written :=
  if o.header.layerCount = o.layers.length then writePieces (pieces o)
  else { bytes := [], fault := some .layerCountMismatch }

/-- The bytes of a header record alone. -/
def writeHeader (h : Header) : Except Fault Bytes :=
  match headerRecord? h with
  | some bs => .ok bs
  | none => .error .fieldOverflow

end NetPlan.Archive
