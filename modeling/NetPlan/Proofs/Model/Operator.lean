import NetPlan.Model.Basic
import NetPlan.Proofs.Entry
import NetPlan.Proofs.Fault

/-!
# Layers of operators

A layer that stands for an operator or a function is not a shared one (`Model.isShared_of_kind?`,
`Function.isShared_of_kind?`), and what is written behind it are free settings, whatever their
values (`Model.role_of_settings`).
-/

namespace NetPlan

/-- No class of operators goes by the kind of shared layers. -/
theorem Kind.isShared_of_ofOperatorClass? {className : String} {k : Kind}
    (h : ofOperatorClass? className = some k) : k.isShared = false := by
  have hclass : k.operatorClass? = some className := by simpa using List.find?_some h
  cases k <;> first | rfl | cases hclass

theorem Function.isShared_of_kind? {f : Function} {k : Kind} (h : f.kind? = some k) :
    k.isShared = false := by
  cases f with
  | other name => cases h
  | _ => obtain rfl := Option.some.inj h; rfl

namespace Operator

/-- The keys of the settings of operators. -/
def settingKeys : List String :=
  ["nhidden", "no_bias", "nchannel", "kernel_size", "stride", "pad", "ngroup", "threshold",
    "local_size", "alpha", "beta", "knorm", "eps", "b"]

theorem key_mem_of_biasSettings {bias : Bool} : ∀ e ∈ biasSettings bias, e.key ∈ settingKeys := by
  cases bias <;> simp [biasSettings, settingKeys]

/-- The settings of any operator have keys from a fixed list, whatever their values. -/
theorem key_mem_of_settings {op : Operator} {es : List Entry} (h : op.settings = .ok es) :
    ∀ e ∈ es, e.key ∈ settingKeys := by
  unfold settings at h
  split at h
  case h_1 =>
    obtain rfl := pure_eq_ok_iff.mp h
    exact List.forall_mem_cons.mpr ⟨by simp [settingKeys], key_mem_of_biasSettings⟩
  case h_2 =>
    simp only [bind_eq_ok_iff, pure_eq_ok_iff] at h
    obtain ⟨kernel, -, stride, -, pad, -, rfl⟩ := h
    exact List.forall_mem_append.mpr ⟨by simp [settingKeys], key_mem_of_biasSettings⟩
  case h_3 =>
    simp only [bind_eq_ok_iff, pure_eq_ok_iff] at h
    obtain ⟨kernel, -, stride, -, rfl⟩ := h
    simp [settingKeys]
  all_goals
    obtain rfl := pure_eq_ok_iff.mp h
    simp [settingKeys]

/-- What is written behind the layer of an operator are free settings: none of the keys is
reserved. -/
theorem role_of_settings {op : Operator} {es : List Entry} (h : op.settings = .ok es) :
    ∀ e ∈ es, e.role = .setting := by
  intro e he
  have hfree : ∀ key ∈ settingKeys,
      key ∉ [inputShapeKey, updaterKey, blockKey] ∧ isLayerKey key = false := by decide
  exact Entry.role_eq_setting_iff.mpr (hfree e.key (key_mem_of_settings h e he))

end Operator

namespace Model

variable {m : Model}

/-- Leaf or composite, no model goes by the kind of shared layers. -/
theorem isShared_of_kind? {k : Kind} (h : m.kind? = some k) : k.isShared = false := by
  cases m with
  | leaf id op => exact Kind.isShared_of_ofOperatorClass? h
  | composite id wiring children => cases h

/-- What is written behind the layer of a model are free settings. -/
theorem role_of_settings {es : List Entry} (h : m.settings = .ok es) :
    ∀ e ∈ es, e.role = .setting := by
  cases m with
  | leaf id op => exact Operator.role_of_settings h
  | composite id wiring children =>
    obtain rfl := Except.ok.inj h
    simp

end Model

end NetPlan
