import NetPlan.Archive.Source
import NetPlan.Archive.Write
import NetPlan.Layer.Basic

/-!
# Reading archives

The way back from bytes to an outline. Version 0 has the same layout with all reserved words zero;
readers look at the first reserved word only. What a reader checks is the version, the sign of the
count of layers, the codes of the kinds and that all bytes are there. It does not check that nodes
and primary layers make sense.

A length that is too large for memory, or that a source knows to be too large for what is left, is
refused before its nodes are read.
-/

namespace NetPlan.Archive

/-- The longest sequence of nodes that can be indexed in memory: with four bytes a node, one node
more takes two to the power of 63 bytes. -/
def maxSequenceLength : Nat := 2305843009213693951

/-- The bytes of the word at an offset. -/
def wordAt (bs : Bytes) (offset : Nat) : Bytes :=
  (bs.drop offset).take 4

/-- The header that a record writes; bytes behind the record do not count. -/
def headerOfRecord (bs : Bytes) : Except Fault Header :=
  if bs.isEmpty then .error .emptyRecord
  else
    let version := intOfWord (wordAt bs 24)
    let layerCount := intOfWord (wordAt bs 4)
    if version < 0 ∨ formatVersion < version then .error (.unsupportedVersion version)
    else if layerCount < 0 then .error .invalidArchive
    else
      .ok
        { nodeCount := intOfWord (wordAt bs 0)
          layerCount
          shape :=
            { channels := natOfBytes (wordAt bs 8)
              height := natOfBytes (wordAt bs 12)
              width := natOfBytes (wordAt bs 16) }
          finalized := natOfBytes (wordAt bs 20) != 0 }

/-- A header record. -/
def readHeader : Reader Header := do
  let record ← takeBytes recordSize
  match headerOfRecord record with
  | .ok h => return h
  | .error fault => throw fault

/-- A signed word. -/
def readSigned : Reader Int := do
  return intOfWord (← takeBytes 4)

/-- A sequence of nodes with its length before it. -/
def readNodes : Reader (List Int) := do
  let length := natOfBytes (← takeBytes 8)
  let size := 4 * length
  if maxSequenceLength < length ∨ (← get).lacks size then
    throw .badSequenceLength
  else
    return intsOfBytes (← takeBytes size)

/-- One layer. -/
def readLayer : Reader Layer := do
  let primary ← readSigned
  let code ← readSigned
  match Kind.ofCode? code with
  | none => throw (.unknownArchiveKind code)
  | some kind =>
    let inputs ← readNodes
    let outputs ← readNodes
    return { kind, inputs, outputs, primary }

/-- A given number of layers. -/
def readLayers : Nat → Reader (List Layer)
  | 0 => return []
  | count + 1 => do
    let layer ← readLayer
    let layers ← readLayers count
    return layer :: layers

/-- An outline. -/
def read : Reader Outline := do
  let header ← readHeader
  let layers ← readLayers header.layerCount.toNat
  return { header, layers }

end NetPlan.Archive
