import NetPlan.Entry

/-!
# Entries and their roles

Shapes, updaters and layers are told by their key alone. `withoutShapes` leaves the shapes of a list
out, and `lastUpdater?` is the updater that a list names last.
-/

namespace NetPlan

/-! ### Roles by key -/

/-- An entry gives the shape of the input if its key is the one for shapes. -/
theorem Entry.role_eq_inputShape_iff {e : Entry} :
    e.role = .inputShape ↔ e.key = inputShapeKey := by
  unfold Entry.role
  split
  · simp_all
  · repeat' split
    all_goals simp_all

/-- An entry names the updater if its key is the one for updaters. -/
theorem Entry.role_eq_updater_iff {e : Entry} : e.role = .updater ↔ e.key = updaterKey := by
  unfold Entry.role
  split
  · rename_i hkey
    rw [hkey]
    decide
  · repeat' split
    all_goals simp_all

/-- An entry declares a layer if its key begins as keys of layers do. -/
theorem Entry.role_eq_layer_iff {e : Entry} : e.role = .layer ↔ isLayerKey e.key = true := by
  unfold Entry.role
  split
  · rename_i hkey
    rw [hkey]
    decide
  · split
    · rename_i hkey
      rw [hkey]
      decide
    · split
      · rename_i hkey
        rw [hkey]
        repeat' split
        all_goals decide
      · split <;> simp_all

/-- Any other key is that of a free setting, except for the one of block markers. -/
theorem Entry.role_eq_setting_iff {e : Entry} :
    e.role = .setting ↔
      e.key ∉ [inputShapeKey, updaterKey, blockKey] ∧ isLayerKey e.key = false := by
  unfold Entry.role
  repeat' split
  all_goals simp_all

/-! ### Entries without shapes -/

/-- The entries that give no shape. -/
def withoutShapes (es : List Entry) : List Entry :=
  es.filter (·.key ≠ inputShapeKey)

theorem withoutShapes_cons_of_role_eq {e : Entry} (he : e.role = .inputShape) (es : List Entry) :
    withoutShapes (e :: es) = withoutShapes es := by
  simp [withoutShapes, Entry.role_eq_inputShape_iff.mp he]

theorem withoutShapes_cons_of_role_ne {e : Entry} (he : e.role ≠ .inputShape) (es : List Entry) :
    withoutShapes (e :: es) = e :: withoutShapes es := by
  simp [withoutShapes, mt Entry.role_eq_inputShape_iff.mpr he]

/-! ### The updater -/

/-- The updater that a list of entries names last. -/
def lastUpdater? (es : List Entry) : Option String :=
  (es.filter (·.role = .updater)).getLast?.map (·.value)

@[simp]
theorem lastUpdater?_nil : lastUpdater? [] = none := rfl

/-- The updater of the first entry counts only if no later entry names one. -/
theorem lastUpdater?_cons (e : Entry) (es : List Entry) :
    lastUpdater? (e :: es) =
      (lastUpdater? es).or (if e.role = .updater then some e.value else none) := by
  by_cases he : e.role = .updater
  · simp only [lastUpdater?, he, decide_true, List.filter_cons_of_pos, List.getLast?_cons, if_true]
    cases (es.filter (·.role = .updater)).getLast? <;> rfl
  · simp [lastUpdater?, he]

theorem lastUpdater?_append (es fs : List Entry) :
    lastUpdater? (es ++ fs) = (lastUpdater? fs).or (lastUpdater? es) := by
  induction es with
  | nil => simp
  | cons e es ih => rw [List.cons_append, lastUpdater?_cons, ih, lastUpdater?_cons, Option.or_assoc]

/-- Shapes have no part in the choice of the updater. -/
theorem lastUpdater?_withoutShapes (es : List Entry) :
    lastUpdater? (withoutShapes es) = lastUpdater? es := by
  induction es with
  | nil => rfl
  | cons e es ih =>
    by_cases he : e.role = .inputShape
    · rw [withoutShapes_cons_of_role_eq he, ih, lastUpdater?_cons]
      simp [he]
    · rw [withoutShapes_cons_of_role_ne he, lastUpdater?_cons, ih, lastUpdater?_cons]

/-- An updater is named if its key comes up. -/
theorem isSome_lastUpdater? (es : List Entry) :
    (lastUpdater? es).isSome = es.any (·.key = updaterKey) := by
  induction es with
  | nil => rfl
  | cons e es ih =>
    rw [lastUpdater?_cons, Option.isSome_or, ih, List.any_cons, Bool.or_comm]
    by_cases he : e.key = updaterKey
    · simp [he, Entry.role_eq_updater_iff.mpr he]
    · simp [he, mt Entry.role_eq_updater_iff.mp he]

end NetPlan
