/-!
# Layer kinds

The closed catalogue of layer kinds. A kind has a **name**, which declarations use, and a **code**,
which archives use. Codes have gaps and are never given out anew. `Kind.ofName?` knows one further
spelling, `share`, for shared layers. Some kinds name the class of operator that carries them out.
-/

namespace NetPlan

/-- A kind of layer. -/
inductive Kind where
  | shared
  | fullc
  | softmax
  | relu
  | sigmoid
  | tanh
  | softplus
  | flatten
  | dropout
  | conv
  | maxPooling
  | sumPooling
  | avgPooling
  | lrn
  | bias
  | concat
  | xelu
  | batchNorm
  | insanity
  | prelu
deriving DecidableEq, Repr

namespace Kind

/-- All kinds, by ascending code. -/
def all : List Kind :=
  [shared, fullc, softmax, relu, sigmoid, tanh, softplus, flatten, dropout, conv, maxPooling,
    sumPooling, avgPooling, lrn, bias, concat, xelu, batchNorm, insanity, prelu]

/-- The number that stands for a kind in an archive. -/
def code : Kind → Int
  | shared => 0
  | fullc => 1
  | softmax => 2
  | relu => 3
  | sigmoid => 4
  | tanh => 5
  | softplus => 6
  | flatten => 7
  | dropout => 8
  | conv => 10
  | maxPooling => 11
  | sumPooling => 12
  | avgPooling => 13
  | lrn => 15
  | bias => 17
  | concat => 18
  | xelu => 19
  | batchNorm => 20
  | insanity => 21
  | prelu => 22

/-- The name of a kind in declarations. -/
def name : Kind → String
  | shared => "shared"
  | fullc => "fullc"
  | softmax => "softmax"
  | relu => "relu"
  | sigmoid => "sigmoid"
  | tanh => "tanh"
  | softplus => "softplus"
  | flatten => "flatten"
  | dropout => "dropout"
  | conv => "conv"
  | maxPooling => "max_pooling"
  | sumPooling => "sum_pooling"
  | avgPooling => "avg_pooling"
  | lrn => "lrn"
  | bias => "bias"
  | concat => "concat"
  | xelu => "xelu"
  | batchNorm => "batch_norm"
  | insanity => "insanity"
  | prelu => "prelu"

/-- Whether a layer of this kind reuses the parameters of an earlier layer. -/
def isShared : Kind → Bool
  | shared => true
  | _ => false

/-- The names that declarations may use: each kind's own, and `share` for shared layers. -/
def names : List (String × Kind) :=
  all.map (fun k => (k.name, k)) ++ [("share", shared)]

/-- The kind that a declaration names. -/
def ofName? (s : String) : Option Kind :=
  (names.find? (·.1 = s)).map (·.2)

/-- The kind with a given code. -/
def ofCode? (n : Int) : Option Kind :=
  all.find? (·.code = n)

/-- The class of operator that carries out a kind. Shared layers, biases and concatenations have
none. -/
def operatorClass? : Kind → Option String
  | shared => none
  | fullc => some "Linear"
  | softmax => some "Softmax"
  | relu => some "ReLU"
  | sigmoid => some "Sigmoid"
  | tanh => some "Tanh"
  | softplus => some "Softplus"
  | flatten => some "Flatten"
  | dropout => some "Dropout"
  | conv => some "Conv2d"
  | maxPooling => some "MaxPool2d"
  | sumPooling => some "LPPool2d"
  | avgPooling => some "AvgPool2d"
  | lrn => some "LocalResponseNorm"
  | bias => none
  | concat => none
  | xelu => some "LeakyReLU"
  | batchNorm => some "BatchNorm2d"
  | insanity => some "RReLU"
  | prelu => some "PReLU"

/-- The kind that an operator of a given class carries out. -/
def ofOperatorClass? (className : String) : Option Kind :=
  all.find? (·.operatorClass? = some className)

end Kind

end NetPlan
