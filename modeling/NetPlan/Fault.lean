import NetPlan.Entry
import NetPlan.Text.Quoted

/-!
# Faults

Why a request is turned down. A fault holds the data of its cause; the wording is in
`Fault.message` alone. `Fault.category` groups causes, and `Category.isRejection` marks the groups
that speak about the configuration or the archive at hand, as opposed to a wrong call, a number
that does not fit, a model that cannot be built or a file that is not there.
-/

namespace NetPlan

/-- A cause of failure. -/
inductive Fault where
  /-- The key of a declaration is not of the form `layer[A->B]` or `layer[+B]`. -/
  | malformedLink (key : String)
  /-- A declaration reaches a node beyond the largest one. -/
  | nodeOutOfRange (key : String)
  /-- The value of a declaration is not of the form `kind` or `kind:tag`. -/
  | malformedDesignation (value : String)
  /-- An input shape is not three numbers. -/
  | malformedShape
  /-- A dimension of an input shape is beyond the largest one. -/
  | dimensionOutOfRange (value : String)
  /-- A number is written with more digits than are read. -/
  | longNumeral (digits : Nat)
  /-- No kind has this name. -/
  | unknownKindName (name : String)
  /-- No kind has this code. -/
  | unknownKindCode (code : Int)
  /-- A shared layer names no tag. -/
  | missingTag
  /-- A shared layer names a tag that no earlier layer carries. -/
  | undefinedTag (tag : String)
  /-- A layer takes a tag that an earlier layer carries. -/
  | duplicateTag (tag : String)
  /-- A setting stands behind a shared layer. -/
  | sharedSetting (layer : Nat) (entry : Entry)
  /-- A declaration differs from the layer that is fixed at its place. -/
  | structureMismatch (layer : Nat) (entry : Entry)
  /-- Layers are declared on top of layers that are not fixed. -/
  | unfinishedStructure
  /-- A line is not of the form `name = value`. -/
  | notAnAssignment (line : Nat) (text : String)
  /-- A quoted value does not end with its quote. -/
  | unterminatedQuote (line : Nat)
  /-- The bytes of a text are not UTF-8. -/
  | invalidEncoding
  /-- There is no such file. -/
  | missingFile
  /-- An archive ends early, or its count of layers is negative. -/
  | invalidArchive
  /-- An archive has a format that is not known. -/
  | unsupportedVersion (version : Int)
  /-- A layer in an archive has a code that no kind has. -/
  | unknownArchiveKind (code : Int)
  /-- A sequence in an archive is longer than what can follow. -/
  | badSequenceLength
  /-- A header record is to be read from no bytes at all. -/
  | emptyRecord
  /-- The header does not count the layers that stand beside it. -/
  | layerCountMismatch
  /-- A number does not fit its field. -/
  | fieldOverflow
  /-- There is no layer with this index. -/
  | noSuchLayer
  /-- An index does not fit a signed word of 64 bits. -/
  | indexTooWide
  /-- There is no layer to remove. -/
  | noLayers
  /-- A size has no numbers. -/
  | emptySize
  /-- A text that is not a number stands where a size is needed. -/
  | textualSize (text : String)
  /-- A size is not a number. -/
  | undefinedSize
  /-- A size is infinite. -/
  | infiniteSize
  /-- A text does not write a floating-point number. -/
  | unreadableNumber (text : String)
  /-- An operator has no group at all. -/
  | noGroups
  /-- The channels that come in do not fall into groups of one size. -/
  | unevenInput
  /-- The channels that go out do not fall into groups of one size. -/
  | unevenOutput
  /-- A whole number is too large for a floating-point number. -/
  | oversizedNumber
  /-- A padding is named by a rule that there is not. -/
  | unknownPadding (name : String)
  /-- A padding that keeps the size is asked for with a stride. -/
  | stridedPadding
  /-- A probability is not between zero and one. -/
  | improbable (p : String)
  /-- A block of weights has an extent that is not a whole number of 64 bits. -/
  | improperExtent
  /-- A block of weights has a negative extent. -/
  | negativeExtent (extent : Int) (extents : List Int)
  /-- A block of weights is too large. -/
  | oversizedBlock (extents : List Int)
  /-- Neighbours in a block of weights are too far apart. -/
  | oversizedStride
  /-- A part of a model cannot have this name. -/
  | badPartName (name : String)
  /-- No module has been given this name. -/
  | unknownModule (name : String)
deriving DecidableEq, Repr

/-- The largest node index: the count of nodes, one more, must fit a signed word of 32 bits. -/
def maxNodeIndex : Int := 2147483646

/-- The largest dimension of an input: it must fit an unsigned word of 32 bits. -/
def maxDimension : Int := 4294967295

/-- The largest number of digits that a number may be written with. -/
def maxDigits : Nat := 4300

/-- The newest archive format. -/
def formatVersion : Int := 1

/-- The groups that causes fall into. -/
inductive Category where
  | declaration
  | kindName
  | tag
  | sharedSetting
  | mismatch
  | sheet
  | archive
  | state
  | value
  | index
  | overflow
  | encoding
  | file
  | numberType
  | extent
  | name
deriving DecidableEq, Repr

/-- Whether a failure of this group turns down the configuration or the archive at hand. -/
def Category.isRejection : Category → Bool
  | declaration | kindName | tag | sharedSetting | mismatch | sheet | archive => true
  | state | value | index | overflow | encoding | file | numberType | extent | name => false

namespace Fault

/-- The group of a cause. -/
def category : Fault → Category
  | malformedLink _ | nodeOutOfRange _ | malformedDesignation _ | malformedShape
  | dimensionOutOfRange _ => .declaration
  | unknownKindName _ => .kindName
  | missingTag | undefinedTag _ | duplicateTag _ => .tag
  | sharedSetting _ _ => .sharedSetting
  | structureMismatch _ _ => .mismatch
  | notAnAssignment _ _ | unterminatedQuote _ => .sheet
  | invalidArchive | unsupportedVersion _ | unknownArchiveKind _ | badSequenceLength => .archive
  | unfinishedStructure | layerCountMismatch => .state
  | longNumeral _ | unknownKindCode _ | textualSize _ | undefinedSize | unreadableNumber _
  | noGroups | unevenInput | unevenOutput | unknownPadding _ | stridedPadding
  | improbable _ => .value
  | emptyRecord | noSuchLayer | indexTooWide | noLayers | emptySize => .index
  | fieldOverflow | infiniteSize | oversizedNumber => .overflow
  | invalidEncoding => .encoding
  | missingFile => .file
  | improperExtent => .numberType
  | negativeExtent _ _ | oversizedBlock _ | oversizedStride => .extent
  | badPartName _ | unknownModule _ => .name

/-- Whether the configuration or the archive at hand is turned down. -/
def isRejection (f : Fault) : Bool :=
  f.category.isRejection

/-- The line of a sheet that a fault is about. -/
def line? : Fault → Option Nat
  | notAnAssignment n _ | unterminatedQuote n => some n
  | _ => none

/-- The text of the extents of a block. -/
def extentsText (extents : List Int) : String :=
  "[" ++ ", ".intercalate (extents.map toString) ++ "]"

/-- The wording of a fault. -/
def message : Fault → String
  | malformedLink key => s!"invalid layer format {key}"
  | nodeOutOfRange key => s!"node index out of range in {key}, at most {maxNodeIndex}"
  | malformedDesignation value =>
    s!"invalid layer value {Text.quoted value}, expected type or type:tag"
  | malformedShape =>
    "input_shape must be three consecutive integers without space example: 1,1,200"
  | dimensionOutOfRange value =>
    s!"input_shape dimension out of range in {Text.quoted value}, at most {maxDimension}"
  | longNumeral digits =>
    s!"Exceeds the limit ({maxDigits} digits) for integer string conversion: " ++
      s!"value has {digits} digits; use sys.set_int_max_str_digits() to increase the limit"
  | unknownKindName name => s!"unknown layer type: {Text.quoted name}"
  | unknownKindCode code => s!"{code} is not a valid LayerType"
  | missingTag => "shared layer must specify tag of layer to share with"
  | undefinedTag tag => s!"shared layer tag {tag} is not defined before"
  | duplicateTag tag => s!"layer tag {tag} is already defined"
  | sharedSetting layer entry =>
    "please do not set parameters in shared layer, set them in primary layer " ++
      s!"(layer {layer}, {entry.key} = {entry.value})"
  | structureMismatch layer entry =>
    s!"config setting does not match existing network structure at layer {layer} " ++
      s!"({entry.key} = {entry.value})"
  | unfinishedStructure => "NetConfig inconsistent"
  | notAnAssignment line text => s!"line {line}: expected name = value, got {Text.quoted text}"
  | unterminatedQuote line => s!"line {line}: unterminated quoted value"
  | invalidEncoding => "the text is not valid UTF-8"
  | missingFile => "there is no such file"
  | invalidArchive => "NetConfig: invalid model file"
  | unsupportedVersion version =>
    s!"NetConfig: unsupported model file version {version}, this build reads up to {formatVersion}"
  | unknownArchiveKind code => s!"NetConfig: invalid model file, unknown layer type tag {code}"
  | badSequenceLength => "NetConfig: invalid model file, bad sequence length"
  | emptyRecord => "index 0 is out of bounds for axis 0 with size 0"
  | layerCountMismatch => "model inconsistent"
  | fieldOverflow => "a number does not fit its field"
  | noSuchLayer => "list index out of range"
  | indexTooWide => "cannot fit 'int' into an index-sized integer"
  | noLayers => "pop from empty list"
  | emptySize => "tuple index out of range"
  | textualSize text => s!"invalid literal for int() with base 10: {Text.quoted text}"
  | undefinedSize => "cannot convert float NaN to integer"
  | infiniteSize => "cannot convert float infinity to integer"
  | unreadableNumber text => s!"could not convert string to float: {Text.quoted text}"
  | noGroups => "groups must be a positive integer"
  | unevenInput => "in_channels must be divisible by groups"
  | unevenOutput => "out_channels must be divisible by groups"
  | oversizedNumber => "int too large to convert to float"
  | unknownPadding name =>
    s!"Invalid padding string {Text.quoted name}, should be one of " ++ "\x7b'same', 'valid'\x7d"
  | stridedPadding => "padding='same' is not supported for strided convolutions"
  | improbable p => s!"dropout probability has to be between 0 and 1, but got {p}"
  | improperExtent => "an extent is not a whole number of 64 bits"
  | negativeExtent extent extents =>
    s!"Trying to create tensor with negative dimension {extent}: {extentsText extents}"
  | oversizedBlock extents =>
    s!"Storage size calculation overflowed with sizes={extentsText extents}"
  | oversizedStride => "Stride calculation overflowed"
  | badPartName name => s!"a part cannot be named {Text.quoted name}"
  | unknownModule name => s!"no module is named {Text.quoted name}"

end Fault

end NetPlan
