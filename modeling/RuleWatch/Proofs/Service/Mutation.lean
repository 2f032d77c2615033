import RuleWatch.Proofs.Work.Effect
import RuleWatch.Service.Analyses
import RuleWatch.Service.Rules

/-!
# Requests that change something

A request to change what is kept is refused without an effect, or it changes one row. A change of a
rule is announced to the detector after it has been kept, once, and the request succeeds if the
detector acknowledges. This is how `Service.Rules` and `Service.Analyses` conduct themselves,
whatever happens in the world between their steps; the `keeps_` lemmas below say so for each kind of
request.
-/

namespace RuleWatch.Service

open Detector (acknowledge ruleSetChanged)
open Work

variable {α : Type} {may : List Deed → Step → Prop} {deeds : List Deed}

/-! ## Steps -/

section Steps

variable {β : Type} {gate : Expression.Gate} {draft : Rule.Draft} {id : Int}

theorem run_log_bind {event : Journal.Event} {f : Unit → Attempt β} :
    (log event >>= f).run = .step (.log event) fun _ ↦ (f ()).run := rfl

theorem run_store_bind {op : Store.Operation} {f : op.Answer → Attempt β} :
    (store op >>= f).run = .step (.store op) fun answer ↦ (f answer).run := rfl

theorem run_ask_bind {call : Detector.Call} {f : Option Bytes → Attempt β} :
    (ask call >>= f).run = .step (.log (.callingDetector call.params.length)) fun _ ↦
      .step (.ask call) fun answer ↦ (f answer).run := rfl

theorem ofStore_ok_bind {a : α} {f : α → Attempt β} : ofStore (.ok a) >>= f = f a := rfl

theorem ofStore_error_bind {failure : Store.Failure} {f : α → Attempt β} :
    ofStore (.error failure) >>= f = throw (.ofStore failure) := rfl

theorem Rules.check_bind_of_ok {f : Unit → Attempt β} (h : draft.checkBy gate = .ok ()) :
    Rules.check gate draft >>= f = f () := by
  rw [Rules.check, h]
  rfl

theorem Rules.check_bind_of_error {f : Unit → Attempt β} {reason : Rule.Invalid}
    (h : draft.checkBy gate = .error reason) :
    Rules.check gate draft >>= f = throw (.invalidRule reason) := by
  rw [Rules.check, h]
  rfl

theorem Rules.run_get_bind {f : Rule → Attempt β} :
    (Rules.get id >>= f).run = .step (.store (.findRule id)) fun answer ↦
      match answer with
      | some rule => (f rule).run
      | none => .done (.error (.notFound .rule id)) := by
  refine congrArg (Work.step _) (funext fun answer ↦ ?_)
  cases answer <;> rfl

theorem Rules.run_announce :
    (Rules.announce id).run =
      .step (.log (.callingDetector ruleSetChanged.params.length)) fun _ ↦
        .step (.ask ruleSetChanged) fun answer ↦
          match acknowledge ruleSetChanged answer with
          | .ok _ => .done (.ok ())
          | .error failure =>
            .step (.log (.notificationFailed id failure.message)) fun _ ↦
              .done (.error (.unannounced id failure)) := by
  rw [Rules.announce, run_ask_bind]
  refine congrArg (Work.step _) (funext fun _ ↦ congrArg (Work.step _) (funext fun answer ↦ ?_))
  cases acknowledge ruleSetChanged answer <;> rfl

end Steps

/-! ## Requests -/

/-- A request to change what is kept. -/
inductive Mutation
  | createRule (draft : Rule.Draft)
  | updateRule (id : Int) (changes : Rule.Changes)
  | deleteRule (id : Int)
  | deleteAnalysis (id : Int)

namespace Mutation

/-- What is done for a request; a rule that was written comes back. -/
def serve (gate : Expression.Gate) : Mutation → Attempt (Option Rule)
  | .createRule draft => some <$> Rules.create gate draft
  | .updateRule id changes => some <$> Rules.update gate id changes
  | .deleteRule id => (fun _ ↦ none) <$> Rules.delete id
  | .deleteAnalysis id => (fun _ ↦ none) <$> Analyses.delete id

/-- The draft is what the request, after these deeds of its own, wants to be kept, and it has passed
the check: what the request came with, normalized, or what a rule that it has read becomes under its
changes. -/
def HasChecked (gate : Expression.Gate) (q : Mutation) (deeds : List Deed) (d : Rule.Draft) :
    Prop :=
  d.checkBy gate = .ok () ∧
    match q with
    | .createRule draft => d = draft.normalize
    | .updateRule id changes =>
      ∃ row : Rule, ⟨.store (.findRule id), some row⟩ ∈ deeds ∧ d = row.merged changes
    | _ => False

/-- The conduct of a request: it changes nothing but what it is about, brings nothing to the store
but what it has checked, and tells the detector nothing but that the rules have changed. -/
def May (gate : Expression.Gate) (q : Mutation) (deeds : List Deed) : Step → Prop
  | .store (.insertRule d) => (∃ draft, q = .createRule draft) ∧ q.HasChecked gate deeds d
  | .store (.updateRule id changes d) => q = .updateRule id changes ∧ q.HasChecked gate deeds d
  | .store (.deleteRule id) => q = .deleteRule id
  | .store (.deleteAnalysis id) => q = .deleteAnalysis id
  | .ask call => call = ruleSetChanged
  | _ => True

end Mutation

/-! ## Ends -/

/-- Nothing has come of the work, and the detector has nothing to do with that. -/
def Refused (deeds : List Deed) (result : Except Failure α) : Prop :=
  effects deeds = [] ∧ ∃ failure, result = .error failure ∧ ∀ id f, failure ≠ .unannounced id f

/-- What the detector's answer to the announcement of a change makes of its result. -/
def announced (id : Int) (answer : Option Bytes) (a : α) : Except Failure α :=
  match acknowledge ruleSetChanged answer with
  | .ok _ => .ok a
  | .error failure => .error (.unannounced id failure)

theorem map_announced {β : Type} (f : α → β) (id : Int) (answer : Option Bytes) (a : α) :
    f <$> announced id answer a = announced id answer (f a) := by
  rw [announced, announced]
  cases acknowledge ruleSetChanged answer <;> rfl

theorem announced_eq_map (id : Int) (answer : Option Bytes) (a : α) :
    announced id answer a = (fun _ ↦ a) <$> announced id answer () :=
  (map_announced (fun _ ↦ a) id answer ()).symm

/-- The work has changed a rule, has then told the detector, and has had no other effect. -/
def Announced (deeds : List Deed) (id : Int) (a : α) (result : Except Failure α) : Prop :=
  ∃ write answer, write.changed? = some (.rule, id) ∧
    effects deeds = [write, ⟨.ask ruleSetChanged, answer⟩] ∧ result = announced id answer a

theorem Refused.map {β : Type} {result : Except Failure α} (h : Refused deeds result) (f : α → β) :
    Refused deeds (f <$> result) := by
  obtain ⟨heffects, failure, rfl, hfailure⟩ := h
  exact ⟨heffects, failure, rfl, hfailure⟩

theorem Announced.map {β : Type} {id : Int} {a : α} {result : Except Failure α}
    (h : Announced deeds id a result) (f : α → β) : Announced deeds id (f a) (f <$> result) := by
  obtain ⟨write, answer, hwrite, heffects, rfl⟩ := h
  exact ⟨write, answer, hwrite, heffects, map_announced ..⟩

theorem refused_ofStore {failure : Store.Failure} (h : effects deeds = []) :
    Refused deeds (.error (.ofStore failure) : Except Failure α) := by
  refine ⟨h, _, rfl, fun id f ↦ ?_⟩
  cases failure <;> simp [Failure.ofStore]

namespace Rules

variable {gate : Expression.Gate} {draft : Rule.Draft} {changes : Rule.Changes} {id : Int}
  {q : Mutation}

/-- Telling the detector adds to the deeds that it was asked, whatever it answers, and nothing else
that has an effect. -/
theorem keeps_announce_of {may : List Deed → Step → Prop}
    (hlog : ∀ deeds event, may deeds (.log event))
    (hask : ∀ deeds, may deeds (.ask ruleSetChanged)) :
    Keeps may
      (fun deeds' result ↦ ∃ before answer after,
        deeds' = deeds ++ (before ++ ⟨.ask ruleSetChanged, answer⟩ :: after) ∧
          effects before = [] ∧ effects after = [] ∧ result = announced id answer ())
      deeds (announce id).run := by
  rw [run_announce]
  refine ⟨hlog .., fun _ ↦ ⟨hask _, fun world ↦ ?_⟩⟩
  generalize (world.perform (.ask ruleSetChanged)).1 = answer
  let calling : Deed := ⟨.log (.callingDetector ruleSetChanged.params.length), ()⟩
  cases hanswer : acknowledge ruleSetChanged answer with
  | ok data =>
    simp only [hanswer, keeps_done]
    exact ⟨[calling], answer, [], by simp [calling], rfl, rfl, by rw [announced, hanswer]⟩
  | error failure =>
    simp only [hanswer, keeps_step, keeps_done]
    let failed : Deed := ⟨.log (.notificationFailed id failure.message), ()⟩
    exact ⟨hlog .., fun _ ↦
      ⟨[calling], answer, [failed], by simp [calling, failed], rfl, rfl,
        by rw [announced, hanswer]⟩⟩

/-- The detector is told once, whatever it answers. -/
theorem keeps_announce :
    Keeps (q.May gate)
      (fun deeds' result ↦ ∃ answer,
        effects deeds' = effects deeds ++ [⟨.ask ruleSetChanged, answer⟩] ∧
          result = announced id answer ())
      deeds (announce id).run := by
  refine Keeps.imp (keeps_announce_of (fun _ _ ↦ trivial) fun _ ↦ rfl) fun deeds' result hend ↦ ?_
  obtain ⟨before, answer, after, rfl, hbefore, hafter, hresult⟩ := hend
  have htold : (⟨.ask ruleSetChanged, answer⟩ : Deed).isEffect := rfl
  exact ⟨answer, by simp [htold, hbefore, hafter], hresult⟩

/-- What is left to do once a change of a rule has been kept. -/
theorem keeps_announce_kept {write : Deed} {event : Journal.Event} {a : α}
    (hwrite : write.changed? = some (.rule, id)) (h : effects deeds = []) :
    Keeps (q.May gate) (fun deeds result ↦ Announced deeds id a result) (deeds ++ [write])
      (do log event; announce id; return a : Attempt α).run := by
  rw [run_log_bind]
  refine ⟨trivial, fun _ ↦ ?_⟩
  have heffect : write.isEffect := by simp [Deed.isEffect, hwrite]
  refine keeps_announce.bind (fun deeds' u hend ↦ ?_) (fun deeds' failure hend ↦ ?_)
  all_goals
    obtain ⟨answer, hdeeds, hresult⟩ := hend
    refine ⟨write, answer, hwrite, by simpa [h, heffect] using hdeeds, ?_⟩
    rw [announced_eq_map, ← hresult]
    rfl

/-- How a request that writes a rule ends. -/
def Settled (deeds : List Deed) (result : Except Failure Rule) : Prop :=
  Refused deeds result ∨ ∃ rule : Rule, Announced deeds rule.id rule result

theorem keeps_create (h : effects deeds = []) :
    Keeps (Mutation.May gate (.createRule draft)) Settled deeds (create gate draft).run := by
  unfold create
  cases hcheck : draft.normalize.checkBy gate with
  | error reason =>
    rw [check_bind_of_error hcheck]
    exact .inl ⟨h, _, rfl, by simp⟩
  | ok _ =>
    rw [check_bind_of_ok hcheck, run_store_bind, keeps_step]
    refine ⟨⟨⟨draft, rfl⟩, hcheck, rfl⟩, fun world ↦ ?_⟩
    cases (world.perform (.store (.insertRule draft.normalize))).1 with
    | error failure =>
      rw [ofStore_error_bind]
      exact .inl (refused_ofStore (by rw [effects_append, h]; rfl))
    | ok rule =>
      rw [ofStore_ok_bind]
      exact (keeps_announce_kept rfl h).imp fun _ _ hend ↦ .inr ⟨rule, hend⟩

theorem keeps_update (h : effects deeds = []) :
    Keeps (Mutation.May gate (.updateRule id changes)) Settled deeds
      (update gate id changes).run := by
  unfold update
  rw [run_get_bind, keeps_step]
  refine ⟨trivial, fun world ↦ ?_⟩
  cases hread : (world.perform (.store (.findRule id))).1 with
  | none => exact .inl ⟨by simp [h], _, rfl, by simp⟩
  | some row =>
    have hquiet : effects (deeds ++ [⟨.store (.findRule id), some row⟩]) = [] := by simp [h]
    cases hcheck : (row.merged changes).checkBy gate with
    | error reason =>
      simp only [check_bind_of_error hcheck]
      exact .inl ⟨hquiet, _, rfl, by simp⟩
    | ok _ =>
      simp only [check_bind_of_ok hcheck]
      refine ⟨⟨rfl, hcheck, row, by simp, rfl⟩, fun world ↦ ?_⟩
      cases hanswer : (world.perform (.store (.updateRule id changes (row.merged changes)))).1 with
      | error failure => exact .inl (refused_ofStore (by rw [effects_append, hquiet]; rfl))
      | ok rule =>
        have hid : rule.id = id := Store.id_of_updateRule hanswer
        refine (keeps_announce_kept ?_ hquiet).imp fun _ _ hend ↦
          .inr ⟨rule, hend⟩
        rw [hid]
        rfl

theorem keeps_delete (gate : Expression.Gate) (h : effects deeds = []) :
    Keeps (Mutation.May gate (.deleteRule id))
      (fun deeds result ↦ Refused deeds result ∨ Announced deeds id () result) deeds
      (delete id).run := by
  unfold delete
  rw [run_store_bind, keeps_step]
  refine ⟨rfl, fun world ↦ ?_⟩
  cases (world.perform (.store (.deleteRule id))).1 with
  | error failure =>
    rw [ofStore_error_bind]
    exact .inl (refused_ofStore (by rw [effects_append, h]; rfl))
  | ok _ =>
    rw [ofStore_ok_bind, run_log_bind, keeps_step]
    refine ⟨trivial, fun _ ↦ keeps_announce.imp fun deeds' result hend ↦ ?_⟩
    obtain ⟨answer, hdeeds, hresult⟩ := hend
    have hdeleted : (⟨.store (.deleteRule id), .ok ()⟩ : Deed).isEffect := rfl
    exact .inr ⟨⟨.store (.deleteRule id), .ok ()⟩, answer, rfl,
      by simpa [h, hdeleted] using hdeeds, hresult⟩

end Rules

/-- Deleting an analysis result is no business of the detector. -/
theorem Analyses.keeps_delete {id : Int} (gate : Expression.Gate) (h : effects deeds = []) :
    Keeps (Mutation.May gate (.deleteAnalysis id))
      (fun deeds result ↦ Refused deeds result ∨
        result = .ok () ∧ ∃ write : Deed, write.changed? = some (.analysis, id) ∧
          effects deeds = [write]) deeds
      (Analyses.delete id).run := by
  unfold Analyses.delete
  rw [run_store_bind, keeps_step]
  refine ⟨rfl, fun world ↦ ?_⟩
  cases (world.perform (.store (.deleteAnalysis id))).1 with
  | error failure =>
    rw [ofStore_error_bind]
    exact .inl (refused_ofStore (by rw [effects_append, h]; rfl))
  | ok _ =>
    rw [ofStore_ok_bind]
    refine ⟨trivial, fun _ ↦ .inr ⟨rfl, ⟨.store (.deleteAnalysis id), .ok ()⟩, rfl, ?_⟩⟩
    rw [effects_append, effects_append, h]
    rfl

/-- How a request ends: it is refused without an effect, or it has changed a rule and announced
that, or it has deleted an analysis result. -/
inductive Mutation.Ends (deeds : List Deed) (result : Except Failure (Option Rule)) : Prop
  | refused (h : Refused deeds result)
  | announced {id : Int} {kept : Option Rule} (hid : ∀ rule ∈ kept, rule.id = id)
    (h : Announced deeds id kept result)
  | deleted {write : Deed} {id : Int} (hwrite : write.changed? = some (.analysis, id))
    (heffects : effects deeds = [write]) (hresult : result = .ok none)

/-- Every request keeps to its conduct, up to its end. -/
theorem Mutation.keeps_serve_ends (gate : Expression.Gate) (q : Mutation) :
    Keeps (q.May gate) Ends [] (q.serve gate).run := by
  have hsettled : ∀ deeds (result : Except Failure Rule), Rules.Settled deeds result →
      Ends deeds (some <$> result) := by
    rintro deeds result (hrefused | ⟨rule, hannounced⟩)
    · exact .refused (hrefused.map some)
    · exact .announced (by simp) (hannounced.map some)
  cases q with
  | createRule draft => exact (Rules.keeps_create effects_nil).map hsettled
  | updateRule id changes => exact (Rules.keeps_update effects_nil).map hsettled
  | deleteRule id =>
    refine (Rules.keeps_delete gate effects_nil).map fun deeds result hend ↦ ?_
    rcases hend with hrefused | hannounced
    · exact .refused (hrefused.map _)
    · exact .announced (by simp) (hannounced.map _)
  | deleteAnalysis id =>
    refine (Analyses.keeps_delete gate effects_nil).map fun deeds result hend ↦ ?_
    rcases hend with hrefused | ⟨rfl, write, hwrite, heffects⟩
    · exact .refused (hrefused.map _)
    · exact .deleted hwrite heffects rfl

/-- Every request keeps to its conduct. -/
theorem Mutation.keeps_serve (gate : Expression.Gate) (q : Mutation) :
    Keeps (q.May gate) (fun _ _ ↦ True) [] (q.serve gate).run :=
  (keeps_serve_ends gate q).imp fun _ _ _ ↦ trivial

end RuleWatch.Service
