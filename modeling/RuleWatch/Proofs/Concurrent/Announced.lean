import RuleWatch.Proofs.Concurrent.Valid

/-!
# Every change is announced

The detector keeps up with the rules only if it is told of each change after the change has been
kept. Each request sees to its own change: among its deeds the one that changes a rule comes first,
and the one that tells the detector after it, whatever other requests do in between. So once all
requests have come to their ends nothing is left that the detector has not been told of, although it
may have refused to listen.

* `Crowd.exists_announcement`: a change is followed by the announcement of the request that made it.
* `Crowd.countP_announces`: there are as many announcements as changes.
-/

namespace RuleWatch

open Detector (ruleSetChanged)
open Service (Mutation)

namespace Deed

/-- The deed has changed a rule. -/
def changesRules (d : Deed) : Bool :=
  d.changed?.any fun row ↦ row.1 == .rule

theorem changesRules_of_changed? {d : Deed} {id : Int} (h : d.changed? = some (.rule, id)) :
    d.changesRules := by
  simp [changesRules, h]

theorem exists_changed? {d : Deed} (h : d.changesRules) : ∃ id, d.changed? = some (.rule, id) := by
  obtain ⟨⟨entity, id⟩, hrow, hentity⟩ := Option.any_eq_true _ _ |>.mp h
  obtain rfl : entity = .rule := beq_iff_eq.mp hentity
  exact ⟨id, hrow⟩

theorem isEffect_of_changesRules {d : Deed} (h : d.changesRules) : d.isEffect := by
  obtain ⟨id, hid⟩ := exists_changed? h
  simp [isEffect, hid]

theorem isEffect_of_announces {d : Deed} (h : d.announces) : d.isEffect := by
  simp [isEffect, h]

/-- What changes a row is no announcement. -/
theorem announces_of_changed? {d : Deed} {row : Store.Entity × Int} (h : d.changed? = some row) :
    d.announces = false := by
  obtain ⟨s, answer⟩ := d
  cases s with
  | store op => rfl
  | _ => contradiction

end Deed

/-- Effects are counted among the effects. -/
theorem countP_effects {p : Deed → Bool} (hp : ∀ d, p d → d.isEffect) (deeds : List Deed) :
    (effects deeds).countP p = deeds.countP p := by
  rw [effects, List.countP_filter]
  refine List.countP_congr fun d _ ↦ ?_
  simp only [Bool.and_eq_true, and_iff_left_iff_imp]
  exact hp d

namespace Service.Mutation.Ends

variable {deeds : List Deed} {result : Except Failure (Option Rule)}

/-- A request that has come to its end has announced as much as it has changed. -/
theorem countP_announces (h : Ends deeds result) :
    deeds.countP Deed.announces = deeds.countP Deed.changesRules := by
  rw [← countP_effects fun _ ↦ Deed.isEffect_of_announces,
    ← countP_effects fun _ ↦ Deed.isEffect_of_changesRules]
  cases h with
  | refused h => rw [h.1]; rfl
  | @announced id kept hid h =>
    obtain ⟨write, answer, hwrite, heffects, -⟩ := h
    have hquiet : write.announces = false := Deed.announces_of_changed? hwrite
    have htold : (⟨.ask ruleSetChanged, answer⟩ : Deed).announces := rfl
    have hkept : (⟨.ask ruleSetChanged, answer⟩ : Deed).changesRules = false := rfl
    simp [heffects, hquiet, htold, hkept, Deed.changesRules_of_changed? hwrite]
  | @deleted write id hwrite heffects hresult =>
    have hquiet : write.announces = false := Deed.announces_of_changed? hwrite
    have hother : write.changesRules = false := by simp [Deed.changesRules, hwrite]
    simp [heffects, hquiet, hother]

/-- A change of a rule is followed by the announcement. -/
theorem exists_announcement (h : Ends deeds result) {before after : List Deed} {write : Deed}
    (hdeeds : deeds = before ++ write :: after) (hwrite : write.changesRules) :
    ∃ answer, ⟨.ask ruleSetChanged, answer⟩ ∈ after := by
  have heffects : effects deeds = effects before ++ write :: effects after := by
    rw [hdeeds, effects_append, effects_cons_of_isEffect (Deed.isEffect_of_changesRules hwrite)]
  obtain ⟨id, hid⟩ := Deed.exists_changed? hwrite
  cases h with
  | refused h =>
    rw [h.1] at heffects
    exact absurd heffects (by simp)
  | @announced id' kept _ h =>
    obtain ⟨first, answer, -, hannounced, -⟩ := h
    rw [hannounced] at heffects
    -- the change is the first of the two effects, since the second changes nothing
    cases hbefore : effects before with
    | nil =>
      rw [hbefore, List.nil_append, List.cons.injEq] at heffects
      have hmem : (⟨.ask ruleSetChanged, answer⟩ : Deed) ∈ effects after := by
        simp [← heffects.2]
      exact ⟨answer, List.mem_of_mem_filter hmem⟩
    | cons d rest =>
      rw [hbefore, List.cons_append, List.cons.injEq] at heffects
      have hmem : write ∈ [(⟨.ask ruleSetChanged, answer⟩ : Deed)] := by
        simp [heffects.2]
      rw [List.mem_singleton.mp hmem] at hid
      contradiction
  | @deleted other id' hother hdeleted _ =>
    have hmem : write ∈ [other] := by simp [← hdeleted, heffects]
    rw [List.mem_singleton.mp hmem, hother] at hid
    simp at hid

/-- A request that has failed without a change has not told the detector. -/
theorem effects_eq_nil {failure : Failure} (h : Ends deeds (.error failure))
    (hfailure : ∀ id f, failure ≠ .unannounced id f) : effects deeds = [] := by
  cases h with
  | refused h => exact h.1
  | @announced id kept _ h =>
    obtain ⟨write, answer, -, -, hresult⟩ := h
    rw [Service.announced] at hresult
    cases hanswer : Detector.acknowledge ruleSetChanged answer with
    | ok data => simp [hanswer] at hresult
    | error f =>
      rw [hanswer] at hresult
      exact absurd (Except.error.inj hresult) (hfailure id f)
  | deleted _ _ hresult => contradiction

/-- A request that has changed a rule succeeds, or fails with the news that the detector has not
been told of this rule. -/
theorem result_of_changed? (h : Ends deeds result) {write : Deed} {id : Int} (hmem : write ∈ deeds)
    (hwrite : write.changed? = some (.rule, id)) :
    (∃ kept : Option Rule, result = .ok kept ∧ ∀ rule ∈ kept, rule.id = id) ∨
      ∃ f, result = .error (.unannounced id f) := by
  have heffect : write ∈ effects deeds :=
    List.mem_filter.mpr ⟨hmem, Deed.isEffect_of_changesRules (Deed.changesRules_of_changed? hwrite)⟩
  cases h with
  | refused h => simp [h.1] at heffect
  | @announced id' kept hid h =>
    obtain ⟨first, answer, hfirst, heffects, hresult⟩ := h
    have hsame : write = first := by
      rw [heffects] at heffect
      rcases List.mem_cons.mp heffect with hsame | hother
      · exact hsame
      · rw [List.mem_singleton.mp hother] at hwrite
        contradiction
    obtain rfl : id' = id := by
      rw [hsame, hfirst] at hwrite
      simpa using hwrite
    rw [Service.announced] at hresult
    cases hanswer : Detector.acknowledge ruleSetChanged answer with
    | ok data => exact .inl ⟨kept, by rw [hresult, hanswer], hid⟩
    | error f => exact .inr ⟨f, by rw [hresult, hanswer]⟩
  | @deleted other id' hother heffects _ =>
    rw [heffects, List.mem_singleton] at heffect
    rw [heffect, hother] at hwrite
    simp at hwrite

end Service.Mutation.Ends

namespace Crowd

variable {gate : Expression.Gate} {c : Crowd Mutation (Except Failure (Option Rule))}

/-- The detector has been told that the rules have changed, and has been asked for nothing else. -/
def TellsOnly (history : List (Nat × Deed)) : Prop :=
  ∀ entry ∈ history, ∀ call, entry.2.step.call? = some call → call = ruleSetChanged

theorem invariant_tellsOnly :
    Invariant (Mutation.May gate) fun _ _ history ↦ TellsOnly history where
  arrival _ h := h
  clock _ h := h
  episode _ h := h
  step {_ _ history place _ s} _ hmay h := by
    intro entry hentry call hcall
    rcases List.mem_append.mp hentry with hold | hnew
    · exact h entry hold call hcall
    · rw [List.mem_singleton.mp hnew] at hcall
      cases s with
      | ask asked =>
        rw [← Option.some.inj hcall]
        exact hmay
      | _ => contradiction

namespace TellsOnly

variable {history : List (Nat × Deed)}

theorem announces_eq (h : TellsOnly history) {entry : Nat × Deed} (hentry : entry ∈ history) :
    entry.2.announces = entry.2.step.call?.isSome := by
  rw [Deed.announces]
  cases hcall : entry.2.step.call? with
  | none => rfl
  | some call => simp [h entry hentry call hcall]

/-- All requests to the detector are announcements. -/
theorem filterMap_call? (h : TellsOnly history) :
    (history.filterMap fun entry ↦ entry.2.step.call?) =
      List.replicate (history.countP fun entry ↦ entry.2.announces) ruleSetChanged := by
  refine List.eq_replicate_iff.mpr ⟨?_, fun call hcall ↦ ?_⟩
  · rw [List.length_filterMap_eq_countP]
    exact List.countP_congr fun entry hentry ↦ by rw [h.announces_eq hentry]
  · obtain ⟨entry, hentry, heq⟩ := List.mem_filterMap.mp hcall
    exact h entry hentry call heq

/-- A request without effects has not called the detector. -/
theorem call?_eq_none (h : TellsOnly history) {place : Nat}
    (hnone : effects (deedsOf history place) = []) {deed : Deed}
    (hdeed : deed ∈ deedsOf history place) : deed.step.call? = none := by
  have hentry := h.announces_eq (mem_deedsOf.mp hdeed)
  have heffect : ¬ deed.isEffect := List.filter_eq_nil_iff.mp hnone deed hdeed
  have hsilent : deed.announces = false :=
    Bool.eq_false_iff.mpr fun htells ↦ heffect (Deed.isEffect_of_announces htells)
  simpa [hsilent] using hentry

end TellsOnly

/-- Once all requests have come to their ends, there are as many announcements as changes. -/
theorem countP_announces (h : c.Obeys (Mutation.May gate) fun _ ↦ Mutation.Ends)
    (hsettled : c.isSettled) :
    (c.history.countP fun entry ↦ entry.2.announces) =
      c.history.countP fun entry ↦ entry.2.changesRules := by
  rw [← sum_countP_deedsOf Deed.announces h.known, ← sum_countP_deedsOf Deed.changesRules h.known]
  refine Finset.sum_congr rfl fun place hplace ↦ ?_
  obtain ⟨request, result, hdone⟩ := exists_done hsettled (Finset.mem_range.mp hplace)
  exact (h.keeps hdone).countP_announces

/-- Once all requests have come to their ends, each change has been followed by the announcement of
the request that made it. -/
theorem exists_announcement (h : c.Obeys (Mutation.May gate) fun _ ↦ Mutation.Ends)
    (hsettled : c.isSettled) {before after : List (Nat × Deed)} {who : Nat} {write : Deed}
    (hhistory : c.history = before ++ (who, write) :: after) (hwrite : write.changesRules) :
    ∃ answer, (who, ⟨.ask ruleSetChanged, answer⟩) ∈ after := by
  have hlt : who < c.members.length := h.known (who, write) (by simp [hhistory])
  obtain ⟨request, result, hdone⟩ := exists_done hsettled hlt
  have hdeeds : deedsOf c.history who = deedsOf before who ++ write :: deedsOf after who := by
    simp [hhistory]
  obtain ⟨answer, hanswer⟩ := (h.keeps hdone).exists_announcement hdeeds hwrite
  exact ⟨answer, mem_deedsOf.mp hanswer⟩

end Crowd

namespace Crowd

/-- The detector has been told of all changes, counted from the calls that it had got before. -/
structure IsAnnounced (calls : List Detector.Call)
    (c : Crowd Mutation (Except Failure (Option Rule))) : Prop where
  /-- The detector has been told as often as a rule was changed, and asked for nothing else. -/
  calls_eq : c.world.calls = calls ++
    List.replicate (c.history.countP fun entry ↦ entry.2.changesRules) ruleSetChanged
  /-- A change is followed by the announcement of its own request. -/
  followed : ∀ before who write after, c.history = before ++ (who, write) :: after →
    write.changesRules → ∃ answer, (who, ⟨.ask ruleSetChanged, answer⟩) ∈ after
  /-- No change comes after the last announcement. -/
  last : ∀ before who call after, c.history = before ++ (who, call) :: after → call.announces →
    (∀ later ∈ after, later.2.announces = false) → ∀ later ∈ after, later.2.changesRules = false
  /-- A request that fails without a change has not called the detector. -/
  refused : ∀ place request failure,
    c.members[place]? = some (request, .done (.error failure)) →
      (∀ id f, failure ≠ .unannounced id f) →
        ∀ deed ∈ deedsOf c.history place, deed.step.call? = none
  /-- A request that has changed a rule succeeds, or says of this rule that the detector does not
  know of it. -/
  kept : ∀ place request result, c.members[place]? = some (request, .done result) →
    ∀ deed ∈ deedsOf c.history place, ∀ id, deed.changed? = some (.rule, id) →
      (∃ rule? : Option Rule, result = .ok rule? ∧ ∀ rule ∈ rule?, rule.id = id) ∨
        ∃ f, result = .error (.unannounced id f)

/-- If each change is followed by an announcement, none comes after the last announcement. -/
theorem changesRules_eq_false_of_last {history before after : List (Nat × Deed)}
    {entry : Nat × Deed} (hhistory : history = before ++ entry :: after)
    (hfollowed : ∀ before who write after, history = before ++ (who, write) :: after →
      write.changesRules → ∃ answer, (who, ⟨.ask ruleSetChanged, answer⟩) ∈ after)
    (hlast : ∀ later ∈ after, later.2.announces = false) :
    ∀ later ∈ after, later.2.changesRules = false := by
  intro later hlater
  by_contra hwrite
  obtain ⟨first, rest, hafter⟩ := List.append_of_mem hlater
  have hsplit : history = (before ++ entry :: first) ++ later :: rest := by
    rw [hhistory, hafter]
    simp
  obtain ⟨answer, hanswer⟩ := hfollowed _ later.1 later.2 rest hsplit (by simpa using hwrite)
  have hsilent := hlast (later.1, ⟨.ask ruleSetChanged, answer⟩) (by simp [hafter, hanswer])
  contradiction

end Crowd

/-- Whatever requests are served side by side, and in whatever order their steps are done: once they
have all come to their ends, all changes have been announced. -/
theorem announced_of_run (gate : Expression.Gate) (world : World)
    (events : List (Crowd.Event Mutation)) :
    let crowd := (Crowd.start world).run (fun q ↦ (q.serve gate).run) events
    crowd.isSettled → crowd.IsAnnounced world.calls := by
  intro crowd hsettled
  have hobeys : crowd.Obeys (Mutation.May gate) fun _ ↦ Mutation.Ends :=
    (Crowd.obeys_start world).run (Mutation.keeps_serve_ends gate) events
  have hcalls : crowd.world.calls = world.calls ++
      crowd.history.filterMap fun entry ↦ entry.2.step.call? :=
    (Crowd.Invariant.calls world.calls).run (Mutation.keeps_serve gate) (by simp) events
  have htold : Crowd.TellsOnly crowd.history :=
    Crowd.invariant_tellsOnly.run (Mutation.keeps_serve gate) (by simp [Crowd.TellsOnly]) events
  have hfollowed : ∀ before who write after, crowd.history = before ++ (who, write) :: after →
      write.changesRules → ∃ answer, (who, ⟨.ask ruleSetChanged, answer⟩) ∈ after :=
    fun _ _ _ _ ↦ Crowd.exists_announcement hobeys hsettled
  constructor
  case calls_eq => rw [hcalls, htold.filterMap_call?, Crowd.countP_announces hobeys hsettled]
  case followed => exact hfollowed
  case last =>
    exact fun _ _ _ _ hhistory _ ↦ Crowd.changesRules_eq_false_of_last hhistory hfollowed
  case refused =>
    intro place request failure hdone hfailure deed hdeed
    exact htold.call?_eq_none ((hobeys.keeps hdone).effects_eq_nil hfailure) hdeed
  case kept =>
    intro place request result hdone deed hdeed id hchanged
    exact (hobeys.keeps hdone).result_of_changed? hdeed hchanged

namespace Race

/-- The detector acknowledges the first announcement and answers to no other. -/
def world : World :=
  .fresh 0
    (fun n _ ↦ if n = 0 then some (Text.toBytes "\x7b\"status\":200\x7d") else none)
    fun _ ↦ .replicate drawLength 0

/-- A rule is made. Then it is to be raised and to be deleted at the same time: the change has read
the rule when it goes, and comes too late. -/
def events : List (Crowd.Event Mutation) :=
  [.arrival (.createRule StaleWrite.disk), .turn 0, .turn 0, .turn 0, .turn 0,
    .arrival (.updateRule 1 StaleWrite.raise), .arrival (.deleteRule 1), .turn 1, .turn 2, .turn 1,
    .turn 2, .turn 2, .turn 2, .turn 2]

end Race

open Race in
/-- Two of three requests change something, and the detector is told twice, of which it acknowledges
one. -/
theorem announced_of_race :
    let gate := StaleWrite.gate
    let crowd := (Crowd.start world).run (fun q : Mutation ↦ (q.serve gate).run) events
    crowd.isSettled ∧
      (crowd.members.map fun member ↦ match member.2 with
        | .done (.ok _) => "kept"
        | .done (.error failure) => failure.message
        | .step .. => "") =
        ["kept", "Engine: rule not found (id=1)",
          "Engine: rule 1 saved but the detector was not notified: "
            ++ "Detector: HTTP request failed: no answer"] ∧
      (crowd.history.countP fun entry ↦ entry.2.changesRules) = 2 ∧
      crowd.IsAnnounced [] :=
  ⟨by decide +kernel, by decide +kernel, by decide +kernel,
    announced_of_run StaleWrite.gate world events (by decide +kernel)⟩

end RuleWatch
