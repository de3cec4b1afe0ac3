import NetPlan.Layer.Kind
import NetPlan.Model.Number

/-!
# Operators

The leaves of a model. An operator has a class, which decides whether a kind of layer stands for it,
and attributes, some of which become settings of that layer. It also has a **body**: the steps that
it takes where it is looked into.
-/

namespace NetPlan

/-- A function that a model calls. -/
inductive Function where
  | relu
  | sigmoid
  | tanh
  | softplus
  | softmax
  | flatten
  /-- A function that no kind of layer stands for. -/
  | other (name : String)
deriving DecidableEq, Repr

/-- The kind of layer that stands for a function. -/
def Function.kind? : Function → Option Kind
  | relu => some .relu
  | sigmoid => some .sigmoid
  | tanh => some .tanh
  | softplus => some .softplus
  | softmax => some .softmax
  | flatten => some .flatten
  | other _ => none

/-- The name of a function. -/
def Function.name : Function → String
  | relu => "relu"
  | sigmoid => "sigmoid"
  | tanh => "tanh"
  | softplus => "softplus"
  | softmax => "softmax"
  | flatten => "flatten"
  | other name => name

/-- One step in the run of a model. -/
inductive Step where
  /-- Runs the part with a path. -/
  | call (path : String)
  /-- Calls a function. -/
  | function (f : Function)
  /-- Calls a method of the data. -/
  | method (name : String)
  /-- Decides by the data, which is not known while a model is traced. -/
  | branch
  /-- Fails with a given text. -/
  | fail (text : String)
deriving DecidableEq, Repr

/-- How a pooling operator sums its window up. -/
inductive Pooling where
  | greatest
  | average
  | power
deriving DecidableEq, Repr

/-- The attributes of a convolution. -/
structure Convolution where
  outChannels : Number
  kernel : Size
  stride : Size := .uniform (.whole 1)
  padding : Padding := .size (.uniform (.whole 0))
  groups : Number := .whole 1
  bias : Bool := true
deriving DecidableEq, Repr

/-- A leaf of a model. -/
inductive Operator where
  /-- A linear map, which may be quantized while it runs, or may not. -/
  | linear (quantizable : Bool) (outFeatures : Number) (bias : Bool)
  | conv1d (c : Convolution)
  | conv2d (c : Convolution)
  | pool2d (pooling : Pooling) (kernel stride : Size)
  /-- Puts single values out, or whole channels. -/
  | dropout (byChannel : Bool) (p : Number)
  | localResponseNorm (size alpha beta k : Number)
  | batchNorm2d (eps : Number)
  | leakyReLU (negativeSlope : Number)
  /-- An operator without attributes that matter, of a given class. -/
  | plain (className : String)
deriving DecidableEq, Repr

namespace Operator

/-- The class of an operator. -/
def className : Operator → String
  | linear true .. => "Linear"
  | linear false .. => "NonDynamicallyQuantizableLinear"
  | conv1d _ => "Conv1d"
  | conv2d _ => "Conv2d"
  | pool2d .greatest .. => "MaxPool2d"
  | pool2d .average .. => "AvgPool2d"
  | pool2d .power .. => "LPPool2d"
  | dropout false _ => "Dropout"
  | dropout true _ => "Dropout2d"
  | localResponseNorm .. => "LocalResponseNorm"
  | batchNorm2d .. => "BatchNorm2d"
  | leakyReLU .. => "LeakyReLU"
  | plain name => name

/-- The kind of layer that stands for an operator: the one that names its class. -/
def kind? (op : Operator) : Option Kind :=
  Kind.ofOperatorClass? op.className

/-- The setting that tells that there is no bias. -/
def biasSettings (bias : Bool) : List Entry :=
  if bias then [] else [⟨"no_bias", "1"⟩]

/-- The settings that a layer needs to stand for an operator; none if no kind stands for it. -/
def settings : Operator → Except Fault (List Entry)
  | linear true outFeatures bias =>
    return ⟨"nhidden", outFeatures.text⟩ :: biasSettings bias
  | conv2d c => do
    let kernel ← c.kernel.side
    let stride ← c.stride.side
    let pad ← c.padding.side
    return [⟨"nchannel", c.outChannels.text⟩, ⟨"kernel_size", toString kernel⟩,
      ⟨"stride", toString stride⟩, ⟨"pad", toString pad⟩, ⟨"ngroup", c.groups.text⟩] ++
      biasSettings c.bias
  | pool2d _ kernel stride => do
    let kernel ← kernel.side
    let stride ← stride.side
    return [⟨"kernel_size", toString kernel⟩, ⟨"stride", toString stride⟩]
  | dropout false p => return [⟨"threshold", p.text⟩]
  | localResponseNorm size alpha beta k =>
    return [⟨"local_size", size.text⟩, ⟨"alpha", alpha.text⟩, ⟨"beta", beta.text⟩,
      ⟨"knorm", k.text⟩]
  | batchNorm2d eps => return [⟨"eps", eps.text⟩]
  | leakyReLU negativeSlope => return [⟨"b", negativeSlope.text⟩]
  | linear false .. | conv1d _ | dropout true _ | plain _ => return []

/-- The steps that an operator takes where it is looked into; none if its inside is not known. -/
def body : Operator → List Step
  | linear .. => [.function (.other "linear")]
  | batchNorm2d .. => [.branch]
  | plain "ReLU" => [.function .relu]
  | plain "Sigmoid" => [.function .sigmoid]
  | plain "Tanh" => [.function .tanh]
  | plain "Softplus" => [.function .softplus]
  | plain "Softmax" => [.function .softmax]
  | plain "Flatten" => [.method "flatten"]
  | plain "GELU" => [.function (.other "gelu")]
  | _ => []

end Operator

end NetPlan
