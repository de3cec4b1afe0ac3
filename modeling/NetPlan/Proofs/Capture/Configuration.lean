import Mathlib.Data.List.Nodup
import NetPlan.Proofs.Capture.Node
import NetPlan.Proofs.Capture.Pass

/-!
# Configuration with a capture

What a capture writes is taken by a new plan, unless two paths that take a tag give the same one;
then the configuration stops with that tag (`Plan.configure_capture_cases`). Tags are made from
paths by putting underscores for dots, so this can only happen where names of parts have underscores
themselves (`Plan.fault_configure_capture_of_names`).
-/

namespace NetPlan

open Text

/-- The numbers by which a shape is given to a capture. -/
def Shape.numbers (s : Shape) : List Number :=
  [.whole s.channels, .whole s.height, .whole s.width]

/-- The shape and the start of the block bring no layer and no tag. -/
theorem Pass.completes_head {shape : Option Shape} {head : List Entry}
    (hshape : ∀ s ∈ shape, s.InRange)
    (hhead : Capture.shapeEntries (shape.map Shape.numbers) = .ok head) :
    Completes {} (start {}) (head ++ [⟨blockKey, blockStartWord⟩])
      { shape := shape.getD ⟨0, 0, 0⟩, updater := "sgd", mode := .blockStarted } := by
  cases shape with
  | none =>
    obtain rfl := Except.ok.inj hhead
    exact completes_cons_iff.mpr ⟨_, .blockStart (by decide), completes_nil_iff.mpr rfl⟩
  | some s =>
    obtain rfl := Except.ok.inj hhead
    have hread := Shape.read_intercalate (hshape s rfl)
    refine completes_cons_iff.mpr ⟨_, .shape (Entry.role_eq_inputShape_iff.mpr rfl) rfl hread, ?_⟩
    exact completes_cons_iff.mpr ⟨_, .blockStart (by decide), completes_nil_iff.mpr rfl⟩

namespace Plan

open Pass

section

variable {m : Model} {shape : Option Shape} {c : Capturer}

/-- A new plan takes what a capture gives, and then all paths that take a tag are told apart by
their tags; or it stops with a tag that two of them give. -/
theorem configure_capture_cases (hwords : ∀ a ∈ m.taggedPaths, IsWord a)
    (hshape : ∀ s ∈ shape, s.InRange)
    (hcapture : ({} : Capturer).capture m (shape.map Shape.numbers) = (c, none))
    (hcount : c.declarations.countP (·.role = .layer) < 2 ^ 31 - 1) :
    ((({} : Plan).configure (.ofList c.declarations)).fault = none ∧
      ∀ a ∈ m.taggedPaths, ∀ b ∈ m.taggedPaths, tagOfPath a = tagOfPath b → a = b) ∨
    ∃ a ∈ m.taggedPaths, ∃ b ∈ m.taggedPaths, a ≠ b ∧ tagOfPath a = tagOfPath b ∧
      (({} : Plan).configure (.ofList c.declarations)).fault =
        some (.duplicateTag (tagOfPath a)) := by
  obtain ⟨head, es, hhead, hwrites, hdeclarations⟩ := Capturer.writes_of_capture hcapture
  obtain ⟨p, hp, hslots, htags⟩ : ∃ p, Completes {} (start {})
      (head ++ [⟨blockKey, blockStartWord⟩]) p ∧ p.slots = [] ∧ p.tags = [] :=
    ⟨_, completes_head hshape hhead, rfl, rfl⟩
  have htagWords : ∀ e ∈ c.tags, IsWord e.2 := by
    intro e he
    obtain ⟨a, ha, rfl⟩ := (hwrites.mem_tags_iff e).mp he
    exact isWord_tagOfPath (hwords a ha)
  have hroom : (es.countP (·.role = .layer) : Int) ≤ maxNodeIndex := by
    rw [hdeclarations, List.countP_append, List.countP_cons, List.countP_append] at hcount
    simp only [maxNodeIndex]
    omega
  have hblock : c.declarations =
      (head ++ [⟨blockKey, blockStartWord⟩]) ++ (es ++ [⟨blockKey, blockEndWord⟩]) := by
    rw [hdeclarations, List.append_assoc, List.singleton_append]
  cases meets_of_writes hwrites hslots htags htagWords hroom with
  | @taken q hfollows =>
    have hall : Completes {} (start {}) c.declarations { q with mode := .layerSeen } := by
      rw [hblock]
      refine completes_append_iff.mpr ⟨p, hp, completes_append_iff.mpr ⟨q, hfollows.completes, ?_⟩⟩
      exact completes_cons_iff.mpr ⟨_, .blockEnd (by decide), completes_nil_iff.mpr rfl⟩
    refine .inl ⟨by rw [configure_of_completes rfl hall], fun a ha b hb htag => ?_⟩
    have hmem := (hwrites.mem_tags_iff (a, tagOfPath a)).mpr ⟨a, ha, rfl⟩
    have hmem' := (hwrites.mem_tags_iff (b, tagOfPath b)).mpr ⟨b, hb, rfl⟩
    exact congrArg Prod.fst (List.inj_on_of_nodup_map hfollows.nodup hmem hmem' htag)
  | @stopped a b tag hmem hmem' hne hstop =>
    obtain ⟨a, ha, heq⟩ := (hwrites.mem_tags_iff _).mp hmem
    obtain ⟨b, hb, heq'⟩ := (hwrites.mem_tags_iff _).mp hmem'
    obtain ⟨rfl, rfl⟩ := Prod.mk.inj heq
    obtain ⟨rfl, htag⟩ := Prod.mk.inj heq'
    refine .inr ⟨a, ha, b, hb, hne, htag, ?_⟩
    rw [fault_configure, Feed.entries_ofList, hblock]
    exact Option.or_eq_some_iff.mpr (.inl (hp.run_snd_append (run_snd_append_of_eq_some hstop _)))

/-- If no name of a part has an underscore, a new plan takes what a capture gives. -/
theorem fault_configure_capture_of_names
    (hnames : ∀ part ∈ m.parts, IsWord part.1 ∧ '_' ∉ part.1.toList)
    (hself : ∀ part ∈ m.parts, part.2.id ≠ m.id) (hshape : ∀ s ∈ shape, s.InRange)
    (hcapture : ({} : Capturer).capture m (shape.map Shape.numbers) = (c, none))
    (hcount : c.declarations.countP (·.role = .layer) < 2 ^ 31 - 1) :
    (({} : Plan).configure (.ofList c.declarations)).fault = none := by
  have hwords : ∀ a ∈ m.taggedPaths, IsWord a := fun a =>
    Model.of_mem_taggedPaths Path.isWord_join (fun part hpart => (hnames part hpart).1) hself
  have hplain : ∀ a ∈ m.taggedPaths, '_' ∉ a.toList := fun a =>
    Model.of_mem_taggedPaths not_mem_underscore_join (fun part hpart => (hnames part hpart).2) hself
  obtain ⟨hfault, -⟩ | ⟨a, ha, b, hb, hne, htag, -⟩ :=
    configure_capture_cases hwords hshape hcapture hcount
  · exact hfault
  · exact absurd (eq_of_tagOfPath_eq (hplain a ha) (hplain b hb) htag) hne

/-- **When a capture is configurable.** Let the names of all parts of a model be words, and let no
part be the model itself. What a capture gives is then taken by a new plan if and only if the paths
that take a tag are told apart by their tags; otherwise the configuration fails with a tag that two
of them give. -/
theorem fault_configure_capture_eq_none_iff (hnames : ∀ part ∈ m.parts, IsWord part.1)
    (hself : ∀ part ∈ m.parts, part.2.id ≠ m.id) (hshape : ∀ s ∈ shape, s.InRange)
    (hcapture : ({} : Capturer).capture m (shape.map Shape.numbers) = (c, none))
    (hcount : c.declarations.countP (·.role = .layer) < 2 ^ 31 - 1) :
    ((({} : Plan).configure (.ofList c.declarations)).fault = none ↔
      ∀ a ∈ m.taggedPaths, ∀ b ∈ m.taggedPaths, tagOfPath a = tagOfPath b → a = b) ∧
    ∀ f, (({} : Plan).configure (.ofList c.declarations)).fault = some f →
      ∃ a ∈ m.taggedPaths, ∃ b ∈ m.taggedPaths, a ≠ b ∧ tagOfPath a = tagOfPath b ∧
        f = .duplicateTag (tagOfPath a) := by
  have hwords : ∀ a ∈ m.taggedPaths, IsWord a := fun a =>
    Model.of_mem_taggedPaths Path.isWord_join hnames hself
  obtain ⟨hfault, hapart⟩ | ⟨a, ha, b, hb, hne, htag, hfault⟩ :=
    configure_capture_cases hwords hshape hcapture hcount
  · rw [hfault]
    exact ⟨iff_of_true rfl hapart, fun f hf => nomatch hf⟩
  · rw [hfault]
    refine ⟨iff_of_false (by simp) fun hapart => hne (hapart a ha b hb htag), fun f hf => ?_⟩
    exact ⟨a, ha, b, hb, hne, htag, (Option.some.inj hf).symm⟩

end

/-- A model with a part that runs one linear map twice. -/
def repeating : Model :=
  let fc : Model := .leaf 2 (.linear true (.whole 4) true)
  .composite 0 (.steps [.call "body", .call "head", .function .relu])
    [("body", .composite 1 .inOrder [("0", fc), ("1", fc)]),
      ("head", .leaf 3 (.linear true (.whole 2) false))]

theorem remarkedGraph_repeating :
    repeating.remarkedGraph = ([], .ok (repeating.nodesOf repeating.trace.calls)) :=
  Model.remarkedGraph_eq_ok (k := 0) rfl rfl (by decide +kernel) (by decide +kernel)
    (by decide +kernel) rfl rfl rfl

/-- What the capture of that model gives, with a shape. -/
def repeatingCapture : Capturer :=
  { declarations :=
      [⟨"input_shape", "1,28,28"⟩, ⟨"netconfig", "start"⟩, ⟨"layer[+1]", "fullc:body_0"⟩,
        ⟨"nhidden", "4"⟩, ⟨"layer[+1]", "shared:body_0"⟩, ⟨"layer[+1]", "fullc"⟩,
        ⟨"nhidden", "2"⟩, ⟨"no_bias", "1"⟩, ⟨"layer[+1]", "relu"⟩, ⟨"netconfig", "end"⟩]
    tags := [("body.0", "body_0")] }

/-- That capture is taken by a new plan: the two calls are of one path, so there is one tag. -/
theorem fault_configure_capture_repeating :
    (∀ part ∈ repeating.parts, IsWord part.1) ∧
      (∀ part ∈ repeating.parts, part.2.id ≠ repeating.id) ∧
      ({} : Capturer).capture repeating (some (Shape.numbers ⟨1, 28, 28⟩)) =
        (repeatingCapture, none) ∧
      repeatingCapture.declarations.countP (·.role = .layer) < 2 ^ 31 - 1 ∧
      repeating.taggedPaths = ["body.0", "body.0"] ∧
      (({} : Plan).configure (.ofList repeatingCapture.declarations)).fault = none := by
  have hnames : ∀ part ∈ repeating.parts, IsWord part.1 := by decide
  have hself : ∀ part ∈ repeating.parts, part.2.id ≠ repeating.id := by decide
  have hshape : ∀ s ∈ some (⟨1, 28, 28⟩ : Shape), s.InRange := by
    rintro s ⟨⟩
    exact ⟨by decide, by decide, by decide⟩
  have hcapture : ({} : Capturer).capture repeating (some (Shape.numbers ⟨1, 28, 28⟩)) =
      (repeatingCapture, none) := by
    unfold Capturer.capture Capture.model Capture.recordNodes
    rw [remarkedGraph_repeating]
    rfl
  have hcount : repeatingCapture.declarations.countP (·.role = .layer) < 2 ^ 31 - 1 := by decide
  have hpaths : repeating.taggedPaths = ["body.0", "body.0"] := by
    unfold Model.taggedPaths Model.capturedNodes Model.graph
    rw [remarkedGraph_repeating]
    rfl
  have hapart : ∀ a ∈ repeating.taggedPaths, ∀ b ∈ repeating.taggedPaths,
      tagOfPath a = tagOfPath b → a = b := by
    rw [hpaths]
    decide
  exact ⟨hnames, hself, hcapture, hcount, hpaths,
    (fault_configure_capture_eq_none_iff hnames hself hshape hcapture hcount).1.mpr hapart⟩

/-- A model that calls two linear maps twice each, one of them below a part. Their paths `a.0` and
`a_0` give one tag. -/
def clashing : Model :=
  .composite 0 (.steps [.call "a", .call "a", .call "a_0", .call "a_0"])
    [("a", .composite 1 .inOrder [("0", .leaf 2 (.linear true (.whole 4) true))]),
      ("a_0", .leaf 3 (.linear true (.whole 4) true))]

theorem remarkedGraph_clashing :
    clashing.remarkedGraph = ([], .ok (clashing.nodesOf clashing.trace.calls)) :=
  Model.remarkedGraph_eq_ok (k := 0) rfl rfl (by decide +kernel) (by decide +kernel)
    (by decide +kernel) rfl rfl rfl

/-- What the capture of that model gives. -/
def clashingCapture : Capturer :=
  { declarations :=
      [⟨"netconfig", "start"⟩, ⟨"layer[+1]", "fullc:a_0"⟩, ⟨"nhidden", "4"⟩,
        ⟨"layer[+1]", "shared:a_0"⟩, ⟨"layer[+1]", "fullc:a_0"⟩, ⟨"nhidden", "4"⟩,
        ⟨"layer[+1]", "shared:a_0"⟩, ⟨"netconfig", "end"⟩]
    tags := [("a.0", "a_0"), ("a_0", "a_0")] }

/-- A capture that goes well need not be configurable, though all names are words without dots. -/
theorem fault_configure_capture_clashing :
    (∀ part ∈ clashing.parts, IsWord part.1 ∧ '.' ∉ part.1.toList) ∧
      (∀ part ∈ clashing.parts, part.2.id ≠ clashing.id) ∧
      ({} : Capturer).capture clashing none = (clashingCapture, none) ∧
      clashingCapture.declarations.countP (·.role = .layer) < 2 ^ 31 - 1 ∧
      (({} : Plan).configure (.ofList clashingCapture.declarations)).fault =
        some (.duplicateTag "a_0") := by
  have hcapture : ({} : Capturer).capture clashing none = (clashingCapture, none) := by
    unfold Capturer.capture Capture.model Capture.recordNodes
    rw [remarkedGraph_clashing]
    rfl
  exact ⟨by decide, by decide, hcapture, by decide, by decide⟩

end Plan

end NetPlan
