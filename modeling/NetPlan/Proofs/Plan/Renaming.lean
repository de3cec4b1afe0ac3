import NetPlan.Proofs.Declaration.Renaming
import NetPlan.Proofs.Plan.Advance

/-!
# Configurations with renamed tags

Tags are names and nothing else: a configuration with all tags renamed gives the same plan, but for
the names in its registry, and it is turned down where the configuration is, with the same fault,
but for the tag that it is about (`Plan.configure_rename`).

A pass moves over a renamed entry as it moves over the entry (`Pass.Advances.rename`), and stops
there if it stops at the entry (`Pass.StopsAt.rename`). What carries both over a whole pass is that
all tags taken so far are words (`Pass.Advances.holdsWords`), and this holds of any pass, since a
pass starts with no tags at all.
-/

namespace NetPlan

variable {r : Renaming}

namespace Pass

variable {base : Outline} {p p' : Pass} {e : Entry} {f : Fault}

/-- The pass with all tags renamed that have been taken. -/
def rename (r : Renaming) (p : Pass) : Pass :=
  { p with tags := p.tags.rename r }

theorem Advances.holdsWords (h : Advances base p e p') (hp : p.tags.HoldsWords) :
    p'.tags.HoldsWords := by
  cases h with
  | layer _ hread => exact Declaration.holdsWords_of_read hread hp
  | shapeIgnored | shape | updater | blockStart | blockEnd | blockMarker | globalSetting
  | ownSetting => exact hp

/-- A move over an entry is a move over the renamed entry. -/
theorem Advances.rename (h : Advances base p e p') (hp : p.tags.HoldsWords) :
    Advances base (p.rename r) (e.rename r) (p'.rename r) := by
  by_cases hlayer : e.role = .layer
  · have hrole : (e.rename r).role = .layer := Entry.role_rename_of_role_eq hlayer
    cases h with
    | layer _ hread hadmits =>
      refine .layer hrole (Declaration.read_rename_of_ok hlayer hp hread) ?_
      -- the layer is the same, and the outline admits it whatever the entry
      exact Outline.admit_eq_ok_iff.mpr (Outline.admit_eq_ok_iff.mp hadmits)
    | shapeIgnored hother | shape hother | updater hother | blockStart hother | blockEnd hother
    | blockMarker hother | globalSetting hother | ownSetting hother => simp [hlayer] at hother
  · -- other entries stay as they are, and no tag is looked at
    rw [Entry.rename_of_role_ne hlayer]
    cases h with
    | shapeIgnored hrole hfin => exact .shapeIgnored hrole hfin
    | shape hrole hfin hread => exact .shape hrole hfin hread
    | updater hrole => exact .updater hrole
    | blockStart hrole => exact .blockStart hrole
    | blockEnd hrole => exact .blockEnd hrole
    | blockMarker hrole => exact .blockMarker hrole
    | layer hrole => exact absurd hrole hlayer
    | globalSetting hrole hplace => exact .globalSetting hrole hplace
    | ownSetting hrole hmode hslots hshared => exact .ownSetting hrole hmode hslots hshared

/-- A pass that stops at an entry stops at the renamed one. -/
theorem StopsAt.rename (h : StopsAt base p e f) (hp : p.tags.HoldsWords) :
    StopsAt base (p.rename r) (e.rename r) (f.rename r) := by
  cases h with
  | shape hrole hfin hread =>
    rw [Entry.rename_of_role_ne (by simp [hrole])]
    obtain ⟨-, rfl⟩ | ⟨n, -, rfl⟩ | ⟨-, -, rfl⟩ := Shape.read_eq_error_iff.mp hread
    all_goals exact .shape hrole hfin hread
  | declaration hrole hread =>
    have hread' := Declaration.read_rename_of_error (r := r) hrole hp hread
    exact .declaration (Entry.role_rename_of_role_eq hrole) hread'
  | place hrole hread hadmits =>
    have hread' := Declaration.read_rename_of_ok (r := r) hrole hp hread
    refine .place (Entry.role_rename_of_role_eq hrole) hread' (Outline.admit_eq_error_iff.mpr ?_)
    obtain ⟨hfin, hlayer, rfl⟩ | ⟨hfin, hlayers, rfl⟩ := Outline.admit_eq_error_iff.mp hadmits
    · exact .inl ⟨hfin, hlayer, rfl⟩
    · exact .inr ⟨hfin, hlayers, rfl⟩
  | sharedSetting hrole hmode hslots hshared =>
    rw [Entry.rename_of_role_ne (by simp [hrole])]
    exact .sharedSetting hrole hmode hslots hshared

/-- A pass over renamed entries is the renamed pass, and stops with the renamed fault. -/
theorem run_rename (r : Renaming) (base : Outline) (hp : p.tags.HoldsWords) (es : List Entry) :
    run base (p.rename r) (es.map (Entry.rename r)) =
      ((run base p es).1.rename r, (run base p es).2.map (Fault.rename r)) := by
  induction es generalizing p with
  | nil => rfl
  | cons e es ih =>
    rw [List.map_cons, run, run]
    cases hstep : step base p e with
    | error f =>
      have hstop : StopsAt base (p.rename r) (e.rename r) (f.rename r) :=
        (step_eq_error_iff.mp hstep).rename hp
      rw [step_eq_error_iff.mpr hstop]
      rfl
    | ok p' =>
      have hmove : Advances base p e p' := step_eq_ok_iff.mp hstep
      rw [step_eq_ok_iff.mpr (hmove.rename hp)]
      -- behind the move the tags are words again
      exact ih (hmove.holdsWords hp)

end Pass

namespace Plan

open Pass

/-- **Tags are only names.** On any plan, entries with their tags renamed are accepted if and only
if the entries are, and turned down with the same fault, but for the tag that it is about. What is
accepted gives the same plan, with the tags of its registry renamed. -/
theorem configure_rename (r : Renaming) (p : Plan) (es : List Entry) :
    let outcome := p.configure (.ofList es)
    let renamed := p.configure (.ofList (es.map (Entry.rename r)))
    renamed.fault = outcome.fault.map (Fault.rename r) ∧
    renamed.fault.map Fault.category = outcome.fault.map Fault.category ∧
    renamed.notices = outcome.notices ∧
    (outcome.fault = none →
      renamed.plan = { outcome.plan with tags := outcome.plan.tags.rename r }) ∧
    (outcome.fault ≠ none → renamed.plan = outcome.plan) := by
  intro outcome renamed
  have hstart : (start p).tags.HoldsWords := List.forall_mem_nil _
  have hrun : run p.outline (start p) (es.map (Entry.rename r)) =
      ((run p.outline (start p) es).1.rename r,
        (run p.outline (start p) es).2.map (Fault.rename r)) := run_rename r p.outline hstart es
  simp only [renamed, outcome, configure, Feed.entries_ofList, Feed.fault_ofList, Option.or_none,
    hrun]
  cases (run p.outline (start p) es).2 with
  | none => exact ⟨rfl, rfl, rfl, fun _ => rfl, fun h => absurd rfl h⟩
  | some f =>
    refine ⟨rfl, ?_, rfl, fun h => ?_, fun _ => rfl⟩
    · simp
    · cases h

/-- Two layers that share under a tag with a colon, and a setting whose key is that tag as well. -/
def colonEntries : List Entry :=
  [⟨"layer[0->1]", " fullc:a:b "⟩, ⟨"a:b", "1"⟩, ⟨"layer[+1]", "share:a:b"⟩]

/-- With a word set before each tag, the registry has the new tag, and the key of the setting
stays. -/
theorem configure_rename_behind :
    let renamed := ({} : Plan).configure
      (.ofList (colonEntries.map (Entry.rename (.behind "x:" (by decide)))))
    renamed.fault = none ∧ renamed.plan.tags = [("x:a:b", 0)] ∧
      renamed.plan.locals = [[⟨"a:b", "1"⟩], []] := by
  intro renamed
  have haccepted : (({} : Plan).configure (.ofList colonEntries)).fault = none := by decide
  obtain ⟨hfault, -, -, hplan, -⟩ := configure_rename (.behind "x:" (by decide)) {} colonEntries
  rw [haccepted] at hfault
  refine ⟨hfault, ?_, ?_⟩
  · rw [hplan haccepted]
    decide
  · rw [hplan haccepted]
    decide

end Plan

end NetPlan
