import NetPlan.Proofs.Plan.Failure
import NetPlan.Proofs.Sheet.Line

/-!
# Configuration from a sheet

A plan is configured from a sheet line by line, so that a bad line comes up where the pass has got
to, or from a sheet that is read in full before the pass starts. The two come out alike if all lines
are good. If there is a bad line, the first way gives the entries before it their chance to fail,
and leaves the notices of these entries; the second way gives the fault of the line and does nothing
else (`Plan.configure_sheet`).
-/

namespace NetPlan

open Text

namespace Plan

open Pass

variable {p : Plan} {es : List Entry} {f : Fault}

/-- A pass over a feed that breaks off leaves what the pass over its entries leaves, and no
settings; its fault is that of the entries, and the one of the feed if they have none. -/
theorem configure_of_feed_fault (p : Plan) (es : List Entry) (f : Fault) :
    p.configure { entries := es, fault := some f } =
      { plan := p.clearSettings
        notices := (p.configure (.ofList es)).notices
        fault := (p.configure (.ofList es)).fault.or (some f) } := by
  simp only [configure, Feed.entries_ofList, Feed.fault_ofList]
  cases hrun : run p.outline (start p) es with
  | mk q fault => cases fault <;> rfl

/-- **Line by line or in full.** On any plan and for any text: if the text can be read, it does not
matter whether the pass goes over its lines or over the entries that are read first. If it cannot,
there is a first bad line. The pass over the lines then fails as the entries of the lines before do
by themselves, with their notices, and if they do not fail, with the fault of the bad line, which
gives its number. The text that is read first always gives this fault, with no notice, and leaves
the plan as it was. -/
theorem configure_sheet (p : Plan) (text : String) :
    let lines := splitLines text.toList
    let gradual := p.configure (Sheet.feed text)
    let outright := p.configureText text
    (∀ es, Sheet.parse text = .ok es →
      (∀ line ∈ lines, Sheet.IsGood line) ∧ es = lines.filterMap Sheet.written? ∧
        gradual = p.configure (.ofList es) ∧ outright = gradual) ∧
    (∀ f, Sheet.parse text = .error f →
      ∃ good bad rest, lines = good ++ bad :: rest ∧ (∀ line ∈ good, Sheet.IsGood line) ∧
        ¬Sheet.IsGood bad ∧ f.line? = some (good.length + 1) ∧ f.category = .sheet ∧
        (let before := p.configure (.ofList (good.filterMap Sheet.written?))
        gradual.fault = before.fault.or (some f) ∧ gradual.notices = before.notices ∧
          gradual.plan = p.clearSettings) ∧
        outright = { plan := p, notices := [], fault := some f }) := by
  intro lines gradual outright
  have hfeed : Sheet.feed text = Sheet.feedLines 1 lines := rfl
  obtain ⟨hgood, hlines⟩ | ⟨good, bad, rest, f, hlines, hgood, hbad, hread, hbroken⟩ :=
    Sheet.feedLines_cases 1 lines
  · -- every line is good, so there is no fault to be given
    have hparse : Sheet.parse text = .ok (lines.filterMap Sheet.written?) := by
      rw [Sheet.parse, hfeed, hlines]
      rfl
    refine ⟨fun es h => ?_, fun f h => ?_⟩
    · obtain rfl := Except.ok.inj (hparse.symm.trans h)
      have hgradual : gradual = p.configure (.ofList (lines.filterMap Sheet.written?)) :=
        congrArg p.configure hlines
      have houtright : outright = p.configure (.ofList (lines.filterMap Sheet.written?)) := by
        change p.configureText text = _
        rw [configureText, hparse]
      exact ⟨hgood, rfl, hgradual, houtright.trans hgradual.symm⟩
    · rw [hparse] at h
      cases h
  · have hparse : Sheet.parse text = .error f := by
      rw [Sheet.parse, hfeed, hbroken]
      rfl
    refine ⟨fun es h => ?_, fun f' h => ?_⟩
    · rw [hparse] at h
      cases h
    · obtain rfl := Except.error.inj (hparse.symm.trans h)
      obtain ⟨f', hread', hnumber, hsheet⟩ := Sheet.readLine_of_not_isGood hbad (1 + good.length)
      obtain rfl := Except.error.inj (hread.symm.trans hread')
      rw [Nat.add_comm] at hnumber
      have hgradual : gradual = _ :=
        (congrArg p.configure hbroken).trans (configure_of_feed_fault p _ f)
      have houtright : outright = { plan := p, fault := some f } := by
        change p.configureText text = _
        rw [configureText, hparse]
      refine ⟨good, bad, rest, hlines, hgood, hbad, hnumber, hsheet, ?_, houtright⟩
      rw [hgradual]
      exact ⟨rfl, rfl, rfl⟩

end Plan

end NetPlan
