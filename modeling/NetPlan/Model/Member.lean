/-!
# Members

A module has members that belong to its class and not to the model: its attributes, its state, and
what can be done with it. Their names are taken, so a child cannot have such a name, and what they
name cannot be called as a child. Some members are **shared** by all classes, the others are a
class's **own**.
-/

namespace NetPlan.Model

/-- The names of the members of every module. -/
def sharedMembers : List String :=
  ["T_destination", "__annotations__", "__call__", "__class__", "__delattr__", "__dict__",
    "__dir__", "__doc__", "__eq__", "__format__", "__ge__", "__getattr__", "__getattribute__",
    "__getstate__", "__gt__", "__hash__", "__init__", "__init_subclass__", "__le__", "__lt__",
    "__module__", "__ne__", "__new__", "__reduce__", "__reduce_ex__", "__repr__", "__setattr__",
    "__setstate__", "__sizeof__", "__str__", "__subclasshook__", "__weakref__", "_apply",
    "_backward_hooks", "_backward_pre_hooks", "_buffers", "_call_impl", "_compiled_call_impl",
    "_forward_hooks", "_forward_hooks_always_called", "_forward_hooks_with_kwargs",
    "_forward_pre_hooks", "_forward_pre_hooks_with_kwargs", "_get_backward_hooks",
    "_get_backward_pre_hooks", "_get_name", "_is_full_backward_hook", "_load_from_state_dict",
    "_load_state_dict_post_hooks", "_load_state_dict_pre_hooks",
    "_maybe_warn_non_full_backward_hook", "_modules", "_named_members",
    "_non_persistent_buffers_set", "_parameters", "_register_load_state_dict_pre_hook",
    "_register_state_dict_hook", "_replicate_for_data_parallel", "_save_to_state_dict",
    "_slow_forward", "_state_dict_hooks", "_state_dict_pre_hooks", "_version",
    "_wrapped_call_impl", "add_module", "apply", "bfloat16", "buffers", "call_super_init",
    "children", "compile", "cpu", "cuda", "double", "dump_patches", "eval", "extra_repr", "float",
    "forward", "get_buffer", "get_extra_state", "get_parameter", "get_submodule", "half", "ipu",
    "load_state_dict", "modules", "mtia", "named_buffers", "named_children", "named_modules",
    "named_parameters", "parameters", "register_backward_hook", "register_buffer",
    "register_forward_hook", "register_forward_pre_hook", "register_full_backward_hook",
    "register_full_backward_pre_hook", "register_load_state_dict_post_hook",
    "register_load_state_dict_pre_hook", "register_module", "register_parameter",
    "register_state_dict_post_hook", "register_state_dict_pre_hook", "requires_grad_",
    "set_extra_state", "set_submodule", "share_memory", "state_dict", "to", "to_empty", "train",
    "training", "type", "xpu", "zero_grad"]

/-- The members that come with a list of fixed attributes. -/
def withConstants (names : List String) : List String :=
  "__constants__" :: names

/-- The members of linear maps. -/
def linearMembers : List String :=
  withConstants ["bias", "in_features", "out_features", "reset_parameters", "weight"]

/-- The members of convolutions. -/
def convolutionMembers : List String :=
  withConstants ["_conv_forward", "_reversed_padding_repeated_twice", "bias", "dilation", "groups",
    "in_channels", "kernel_size", "out_channels", "output_padding", "padding", "padding_mode",
    "reset_parameters", "stride", "transposed", "weight"]

/-- The members of operators that take the greatest value of a window. -/
def maxPoolMembers : List String :=
  withConstants ["ceil_mode", "dilation", "kernel_size", "padding", "return_indices", "stride"]

/-- The members of operators that bring a batch to one scale. -/
def batchNormMembers : List String :=
  withConstants ["_check_input_dim", "affine", "bias", "eps", "momentum", "num_batches_tracked",
    "num_features", "reset_parameters", "reset_running_stats", "running_mean", "running_var",
    "track_running_stats", "weight"]

/-- The names of the members that the modules of a class have beside the shared ones. -/
def ownMembers (className : String) : List String :=
  match className with
  | "Sequential" =>
    ["__add__", "__delitem__", "__getitem__", "__iadd__", "__imul__", "__iter__", "__len__",
      "__mul__", "__rmul__", "__setitem__", "_get_item_by_idx", "append", "extend", "insert", "pop"]
  | "Linear" | "NonDynamicallyQuantizableLinear" => linearMembers
  | "Conv1d" | "Conv2d" => convolutionMembers
  | "MaxPool1d" | "MaxPool2d" => maxPoolMembers
  | "AvgPool2d" =>
    withConstants ["ceil_mode", "count_include_pad", "divisor_override", "kernel_size", "padding",
      "stride"]
  | "LPPool2d" => withConstants ["ceil_mode", "kernel_size", "norm_type", "stride"]
  | "Dropout" | "Dropout2d" => withConstants ["inplace", "p"]
  | "LocalResponseNorm" => withConstants ["alpha", "beta", "k", "size"]
  | "BatchNorm1d" | "BatchNorm2d" => batchNormMembers
  | "LeakyReLU" => withConstants ["inplace", "negative_slope"]
  | "ReLU" => withConstants ["inplace"]
  | "Hardtanh" | "ReLU6" => withConstants ["inplace", "max_val", "min_val"]
  | "ELU" => withConstants ["alpha", "inplace"]
  | "GELU" => withConstants ["approximate"]
  | "Softplus" => withConstants ["beta", "threshold"]
  | "Softmax" => withConstants ["dim"]
  | "Flatten" => withConstants ["end_dim", "start_dim"]
  | "RReLU" => withConstants ["inplace", "lower", "upper"]
  | "PReLU" => withConstants ["init", "num_parameters", "reset_parameters", "weight"]
  | _ => []

/-- Whether the modules of a class have a member of this name. -/
def isMember (className name : String) : Bool :=
  sharedMembers.contains name || (ownMembers className).contains name

end NetPlan.Model
