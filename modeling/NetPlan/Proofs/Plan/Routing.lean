import NetPlan.Proofs.Plan.Structure
import NetPlan.Proofs.Plan.Unfinished

/-!
# Where settings go

A setting belongs to the layer that is declared last before it, unless a block has been opened
since; before the first layer it is global. `ownerBehind` says so of the entries before the setting,
by position and without a pass, and `settingsOf` collects the settings of a layer or the global
ones.

A pass keeps this as it goes (`Pass.Completes.owner?_eq`, `Pass.Completes.settingsAt_eq`): one entry
adds to the settings of its owner and to no others. So an accepted configuration leaves each layer
the settings that belong to it, and a configuration whose structural entries are accepted fails only
for a setting that belongs to a shared layer (`Plan.configure_routes`).
-/

namespace NetPlan

/-! ### Owners by position -/

/-- An entry that decides where the settings behind it go. -/
def Entry.IsMark (e : Entry) : Prop :=
  e.role = .layer ∨ e.role = .blockStart ∨ e.role = .blockEnd

instance (e : Entry) : Decidable e.IsMark :=
  inferInstanceAs (Decidable (_ ∨ _))

/-- What the last of the entries is that decide where settings go. -/
def lastMark? (es : List Entry) : Option Role :=
  (es.filter (·.IsMark)).getLast?.map (·.role)

/-- The layer that a setting behind some entries belongs to; `none` if it is a global one. -/
def ownerBehind (before : List Entry) : Option Nat :=
  let declared := before.countP (·.role = .layer)
  if 0 < declared ∧ lastMark? before ≠ some .blockStart then some (declared - 1) else none

/-- The settings among some entries that belong to a layer, or the global ones, in order. -/
def settingsOf (es : List Entry) (owner : Option Nat) : List Entry :=
  (es.zipIdx.filter fun (e, i) => e.role = .setting ∧ ownerBehind (es.take i) = owner).map (·.1)

variable {es taken left : List Entry} {e : Entry} {owner : Option Nat} {k : Nat}

theorem lastMark?_concat (es : List Entry) (e : Entry) :
    lastMark? (es ++ [e]) = if e.IsMark then some e.role else lastMark? es := by
  unfold lastMark?
  rw [List.filter_append]
  by_cases he : e.IsMark
  · simp [he]
  · simp [he]

theorem exists_lastMark? (h : 0 < es.countP (·.role = .layer)) : ∃ r, lastMark? es = some r := by
  obtain ⟨e, he, hrole⟩ := List.countP_pos_iff.mp h
  have hmark : e ∈ es.filter (·.IsMark) :=
    List.mem_filter.mpr ⟨he, decide_eq_true (.inl (of_decide_eq_true hrole))⟩
  refine Option.ne_none_iff_exists'.mp fun hnone => List.ne_nil_of_mem hmark ?_
  rwa [lastMark?, Option.map_eq_none_iff, List.getLast?_eq_none_iff] at hnone

/-- The owner of an entry does not hang on what comes behind. -/
theorem settingsOf_append (es fs : List Entry) (owner : Option Nat) :
    settingsOf (es ++ fs) owner = settingsOf es owner ++
      ((fs.zipIdx es.length).filter fun (e, i) =>
        e.role = .setting ∧ ownerBehind ((es ++ fs).take i) = owner).map (·.1) := by
  have hbefore : (es.zipIdx.filter fun (e, i) =>
      e.role = .setting ∧ ownerBehind ((es ++ fs).take i) = owner) =
        es.zipIdx.filter fun (e, i) => e.role = .setting ∧ ownerBehind (es.take i) = owner := by
    refine List.filter_congr fun (e, i) hmem => ?_
    have hi : i < es.length := by simpa using List.snd_lt_of_mem_zipIdx hmem
    dsimp only
    rw [List.take_append_of_le_length (Nat.le_of_lt hi)]
  rw [settingsOf, List.zipIdx_append, List.filter_append, List.map_append, hbefore, Nat.zero_add]
  rfl

/-- A setting at the end belongs to the owner that the entries before it give. -/
theorem settingsOf_concat (es : List Entry) (e : Entry) (owner : Option Nat) :
    settingsOf (es ++ [e]) owner =
      settingsOf es owner ++ if e.role = .setting ∧ ownerBehind es = owner then [e] else [] := by
  rw [settingsOf_append]
  congr 1
  by_cases h : e.role = .setting ∧ ownerBehind es = owner
  · simp [h]
  · simp [h]

/-- A setting belongs to an owner if it stands behind entries that give it this owner. -/
theorem mem_settingsOf_iff :
    e ∈ settingsOf es owner ↔
      e.role = .setting ∧ ∃ taken left, es = taken ++ e :: left ∧ ownerBehind taken = owner := by
  simp only [settingsOf, List.mem_map, List.mem_filter, decide_eq_true_eq, Prod.exists]
  constructor
  · rintro ⟨e, i, ⟨hmem, hrole, howner⟩, rfl⟩
    have hi := List.mk_mem_zipIdx_iff_getElem?.mp hmem
    obtain ⟨hlt, rfl⟩ := List.getElem?_eq_some_iff.mp hi
    exact ⟨hrole, es.take i, es.drop (i + 1), by simp, howner⟩
  · rintro ⟨hrole, taken, left, rfl, howner⟩
    refine ⟨e, taken.length, ⟨List.mk_mem_zipIdx_iff_getElem?.mpr (by simp), hrole, ?_⟩, rfl⟩
    rwa [List.take_left]

/-- Behind the opening of a block, settings are global again until a layer is declared. -/
example :
    settingsOf [⟨"eta", "1"⟩, ⟨"layer[0->1]", "fullc"⟩, ⟨"nhidden", "3"⟩, ⟨"netconfig", "start"⟩,
      ⟨"eta", "2"⟩] none = [⟨"eta", "1"⟩, ⟨"eta", "2"⟩] := by
  decide

/-! ### Owners in a pass -/

/-- Where a pass stands behind an entry that decides where settings go. -/
def Mode.behind : Role → Mode
  | .blockStart => .blockStarted
  | _ => .layerSeen

theorem Mode.behind_eq_layerSeen_iff {r : Role} : behind r = .layerSeen ↔ r ≠ .blockStart := by
  cases r <;> simp [behind]

namespace Pass

variable {base : Outline} {p p' q q' : Pass} {plan : Plan}

/-- The settings that a pass has collected for a layer, or the global ones. -/
def settingsAt (p : Pass) : Option Nat → List Entry
  | none => p.globals
  | some k => p.locals[k]?.getD []

namespace Advances

/-- Where a pass stands changes at entries that decide where settings go, and nowhere else. -/
theorem mode_eq (h : Advances base p e p') :
    p'.mode = if e.IsMark then Mode.behind e.role else p.mode := by
  cases h with
  | layer hrole | blockStart hrole | blockEnd hrole => simp [Entry.IsMark, hrole, Mode.behind]
  | shapeIgnored hrole | shape hrole | updater hrole | blockMarker hrole | globalSetting hrole
  | ownSetting hrole => simp [Entry.IsMark, hrole, note]

/-- An entry adds to the settings of its owner, and only if it is a setting. -/
theorem settingsAt_eq (h : Advances base p e p') (owner : Option Nat) :
    p'.settingsAt owner =
      p.settingsAt owner ++ if e.role = .setting ∧ p.owner? = owner then [e] else [] := by
  cases h with
  | shapeIgnored hrole | shape hrole | updater hrole | blockStart hrole | blockEnd hrole
  | blockMarker hrole =>
    rw [if_neg (by simp [hrole]), List.append_nil]
    cases owner <;> rfl
  | layer hrole =>
    rw [if_neg (by simp [hrole]), List.append_nil]
    cases owner with
    | none => rfl
    | some k =>
      -- the new layer has no settings, as if it were not there
      simp only [settingsAt, locals, List.reverse_cons, List.map_append, List.map_cons,
        List.map_nil]
      rw [List.getElem?_append]
      split
      · rfl
      · rename_i hk
        rw [List.getElem?_eq_none (Nat.le_of_not_lt hk), List.getElem?_singleton]
        split <;> rfl
  | globalSetting hrole hplace =>
    rw [owner?_eq_none_iff.mpr hplace]
    cases owner with
    | none => simp [settingsAt, hrole]
    | some k => simp [settingsAt, locals]
  | @ownSetting slot older hrole hmode hslots =>
    rw [owner?_eq_some_iff.mpr ⟨hmode, slot, older, hslots, rfl⟩]
    cases owner with
    | none => simp [settingsAt]
    | some k =>
      simp only [settingsAt, locals, hslots, hrole, List.reverse_cons, List.map_append,
        List.map_cons, List.map_nil, true_and, Option.some.injEq]
      rcases Nat.lt_trichotomy k older.length with hk | rfl | hk
      · -- an older layer keeps its settings
        rw [List.getElem?_append_left (by simpa using hk),
          List.getElem?_append_left (by simpa using hk), if_neg (by omega), List.append_nil]
      · simp
      · rw [List.getElem?_eq_none (by simp; omega), List.getElem?_eq_none (by simp; omega),
          if_neg (by omega)]
        rfl

end Advances

namespace Completes

theorem unique (h : Completes base p es q) (h' : Completes base p es q') : q = q' :=
  congrArg Prod.fst (h.symm.trans h')

/-- Where a pass stands is told by the last entry that decides where settings go. -/
theorem mode_eq (h : Completes base p es q) :
    q.mode = ((lastMark? es).map Mode.behind).getD p.mode := by
  -- the last mark counts, so the list is taken apart at its end
  induction es using List.reverseRecOn generalizing q with
  | nil =>
    obtain rfl := completes_nil_iff.mp h
    rfl
  | append_singleton es e ih =>
    obtain ⟨r, hr, hlast⟩ := completes_append_iff.mp h
    obtain ⟨q', hmove, hnil⟩ := completes_cons_iff.mp hlast
    obtain rfl := completes_nil_iff.mp hnil
    rw [hmove.mode_eq, ih hr, lastMark?_concat]
    split <;> rfl

/-- A pass knows the owner that its entries give the next setting. -/
theorem owner?_eq (h : Completes base (start plan) es q) : q.owner? = ownerBehind es := by
  have hlength : q.slots.length = es.countP (·.role = .layer) := by
    simpa using h.length_layers
  have hslots : q.slots ≠ [] ↔ 0 < es.countP (·.role = .layer) := by
    rw [← hlength, List.length_pos_iff]
  simp only [owner?, ownerBehind, hlength, hslots]
  refine if_congr ?_ rfl rfl
  rw [and_comm]
  refine and_congr_right fun hpos => ?_
  -- a declaration is a mark, so the mode at the start of the pass no longer counts
  obtain ⟨r, hr⟩ := exists_lastMark? hpos
  rw [h.mode_eq, hr]
  simp [Mode.behind_eq_layerSeen_iff]

/-- What a pass has collected is what the entries give each owner. -/
theorem settingsAt_eq (h : Completes base (start plan) es q) (owner : Option Nat) :
    q.settingsAt owner = settingsOf es owner := by
  induction es using List.reverseRecOn generalizing q with
  | nil =>
    obtain rfl := completes_nil_iff.mp h
    cases owner <;> rfl
  | append_singleton es e ih =>
    obtain ⟨r, hr, hlast⟩ := completes_append_iff.mp h
    obtain ⟨q', hmove, hnil⟩ := completes_cons_iff.mp hlast
    obtain rfl := completes_nil_iff.mp hnil
    rw [hmove.settingsAt_eq, ih hr, hr.owner?_eq, settingsOf_concat]

/-- A setting that a pass takes belongs to a layer that is not shared, if it belongs to a layer. -/
theorem isShared_eq_false (h : Completes base (start plan) es q) (he : e ∈ settingsOf es (some k)) :
    ∃ l, q.layers[k]? = some l ∧ l.isShared = false := by
  obtain ⟨hrole, taken, left, rfl, howner⟩ := mem_settingsOf_iff.mp he
  obtain ⟨r, htaken, hrest⟩ := completes_append_iff.mp h
  obtain ⟨r', hmove, -⟩ := completes_cons_iff.mp hrest
  rw [← htaken.owner?_eq] at howner
  cases hmove with
  | globalSetting _ hplace =>
    rw [owner?_eq_none_iff.mpr hplace] at howner
    cases howner
  | @ownSetting slot older _ _ hslots hshared =>
    obtain ⟨-, slot', older', hslots', rfl⟩ := owner?_eq_some_iff.mp howner
    obtain ⟨rfl, rfl⟩ := List.cons.inj (hslots.symm.trans hslots')
    exact ⟨_, hrest.layers_prefix.getElem?_eq_some (getElem?_layers_of_slots hslots), hshared⟩
  | shapeIgnored hrole' | shape hrole' | updater hrole' | blockStart hrole' | blockEnd hrole'
  | blockMarker hrole' | layer hrole' => simp [hrole] at hrole'

/-- If the structural entries are taken, the others stop a pass only at a setting that belongs to a
shared layer. -/
theorem sharedSetting_of_run {f : Fault} (h : Completes base (start plan) (structural es) q)
    (hstop : (run base (start plan) es).2 = some f) :
    ∃ k e l, f = .sharedSetting k e ∧ e ∈ settingsOf es (some k) ∧ q.layers[k]? = some l ∧
      l.isShared = true := by
  obtain ⟨taken, e, left, r, k, rfl, htaken, hrole, ⟨howner, l, hl, hshared⟩, rfl⟩ | hcore :=
    run_snd_structural hstop (SameGraph.refl _)
  · -- the layers behind the entries that are taken begin those behind the structural ones
    obtain ⟨r', htaken', hsame⟩ := htaken.exists_sameGraph (SameGraph.refl _)
    rw [structural_append] at h
    obtain ⟨r'', htaken'', hrest⟩ := completes_append_iff.mp h
    obtain rfl := htaken'.unique htaken''
    rw [hsame.layers] at hl
    rw [htaken.owner?_eq] at howner
    exact ⟨k, e, l, rfl, mem_settingsOf_iff.mpr ⟨hrole, taken, left, rfl, howner⟩,
      hrest.layers_prefix.getElem?_eq_some hl, hshared⟩
  · rw [show run base (start plan) (structural es) = (q, none) from h] at hcore
    cases hcore

/-- The layers that a pass has declared begin those that it leaves. -/
theorem layers_prefix_plan (h : Completes base (start plan) es q) :
    q.layers <+: (q.plan base).layers := by
  cases hfin : base.header.finalized with
  | true =>
    rw [plan_of_finalized hfin]
    exact h.prefix_of_finalized hfin List.nil_prefix
  | false =>
    by_cases hlayers : base.layers = []
    · rw [plan_of_unfinished hfin hlayers]
      exact List.prefix_rfl
    · -- on layers that are not fixed, none can be declared
      obtain ⟨-, hslots, -⟩ := h.leaves hfin hlayers rfl
      rw [Pass.layers, hslots]
      exact List.nil_prefix

/-- A pass leaves each layer the settings that belong to it. -/
theorem locals_plan_eq (h : Completes base (start plan) es q) :
    (q.plan base).locals =
      (List.range (q.plan base).layers.length).map fun k => settingsOf es (some k) := by
  have hsettings (k : Nat) : q.locals[k]?.getD [] = settingsOf es (some k) :=
      h.settingsAt_eq (some k)
  refine List.ext_getElem? fun k => ?_
  have hle : q.locals.length ≤ (q.plan base).layers.length := by
    simpa using h.layers_prefix_plan.length_le
  rw [locals_plan, List.getElem?_map, List.rightpad, List.getElem?_append]
  simp only [← hsettings]
  split
  · rename_i hk
    rw [List.getElem?_range (by omega), Option.map_some, List.getElem?_eq_getElem hk]
    rfl
  · rename_i hk
    -- these layers are fixed and not declared again
    rw [List.getElem?_replicate]
    split
    · rw [List.getElem?_range (by omega), Option.map_some, List.getElem?_eq_none (by omega)]
      rfl
    · rw [List.getElem?_eq_none (by simp; omega)]
      rfl

end Completes

end Pass

namespace Plan

open Pass

/-- The settings that a layer sees are the global ones and then its own, for an index that can be
looked up. -/
theorem layerSettings_of_locals {p : Plan} {k : Nat} {own : List Entry}
    (hk : (k : Int) ≤ indexBounds.2) (h : p.locals[k]? = some own) :
    p.layerSettings k = .ok (p.globals ++ own) := by
  have hwide : ¬((k : Int) < indexBounds.1 ∨ indexBounds.2 < k) := by
    simp only [indexBounds] at hk ⊢
    omega
  simp only [layerSettings, if_neg (Int.not_lt.mpr (Int.natCast_nonneg k)), if_neg hwide,
    Int.toNat_natCast, h]

/-- **Where settings go.** On any plan, an accepted configuration leaves the global settings of its
entries and to each layer the settings that belong to it, in order and without loss; a layer sees
the former and then the latter, as far as an index can name it. If the structural entries alone are
accepted, all entries are turned down if and only if a setting belongs to a shared layer, and then
for such a setting. -/
theorem configure_routes (p : Plan) (es : List Entry) :
    let outcome := p.configure (.ofList es)
    let core := p.configure (.ofList (structural es))
    (outcome.fault = none →
      outcome.plan.globals = settingsOf es none ∧
      outcome.plan.locals =
        (List.range outcome.plan.layers.length).map (fun k => settingsOf es (some k)) ∧
      (∀ k, outcome.plan.layers.length ≤ k → settingsOf es (some k) = []) ∧
      ∀ k : Nat, k < outcome.plan.layers.length → (k : Int) ≤ indexBounds.2 →
        outcome.plan.layerSettings k = .ok (settingsOf es none ++ settingsOf es (some k))) ∧
    (core.fault = none →
      (outcome.fault ≠ none ↔ ∃ k l, core.plan.layers[k]? = some l ∧ l.isShared = true ∧
        settingsOf es (some k) ≠ []) ∧
      ∀ f, outcome.fault = some f →
        ∃ k e, f = .sharedSetting k e ∧ e ∈ settingsOf es (some k)) := by
  intro outcome core
  refine ⟨fun h => ?_, fun hcore => ?_⟩
  · obtain ⟨q, -, hq, heq⟩ := completes_of_configure h
    rw [show outcome = _ from heq]
    have hglobals : (q.plan p.outline).globals = settingsOf es none := hq.settingsAt_eq none
    have hlocals := hq.locals_plan_eq
    refine ⟨hglobals, hlocals, fun k hk => ?_, fun k hk hbound => ?_⟩
    · have hsettings : q.locals[k]?.getD [] = settingsOf es (some k) := hq.settingsAt_eq (some k)
      have hle : q.locals.length ≤ (q.plan p.outline).layers.length := by
        simpa using hq.layers_prefix_plan.length_le
      rw [← hsettings, List.getElem?_eq_none (hle.trans hk)]
      rfl
    · rw [← hglobals]
      refine layerSettings_of_locals hbound ?_
      rw [hlocals, List.getElem?_map, List.getElem?_range hk]
      rfl
  · obtain ⟨c, -, hc, heq⟩ := completes_of_configure hcore
    rw [show core = _ from heq]
    have hstops (f : Fault) (hf : outcome.fault = some f) :=
      hc.sharedSetting_of_run ((fault_configure_ofList p es).symm.trans hf)
    refine ⟨⟨fun h => ?_, fun ⟨k, l, hl, hshared, hne⟩ h => ?_⟩, fun f hf => ?_⟩
    · obtain ⟨f, hf⟩ := Option.ne_none_iff_exists'.mp h
      obtain ⟨k, e, l, -, he, hl, hshared⟩ := hstops f hf
      exact ⟨k, l, hc.layers_prefix_plan.getElem?_eq_some hl, hshared, List.ne_nil_of_mem he⟩
    · -- a pass that takes all entries has the same layers, and this one is not shared
      obtain ⟨q, -, hq, -⟩ := completes_of_configure h
      obtain ⟨c', hc', hsame⟩ := hq.exists_sameGraph (SameGraph.refl _)
      obtain rfl := hc.unique hc'
      obtain ⟨e, he⟩ := List.exists_mem_of_ne_nil _ hne
      obtain ⟨l', hl', hplain⟩ := hq.isShared_eq_false he
      rw [hsame.layers] at hl'
      have := (hc.layers_prefix_plan.getElem?_eq_some hl').symm.trans hl
      obtain rfl := Option.some.inj this
      rw [hplain] at hshared
      cases hshared
    · obtain ⟨k, e, l, rfl, he, -⟩ := hstops f hf
      exact ⟨k, e, rfl, he⟩

end Plan

end NetPlan
