import RuleWatch.Api.Handler
import RuleWatch.Proofs.Service.Quiet

/-!
# Handlers without effects

A request that only asks for something changes no row, and does not tell the detector that rules
have changed.
-/

namespace RuleWatch

open Listing

namespace Api.Context

open Http (Form Response)

variable {α : Type} {gate : Expression.Gate} {ctx : Context gate}

/-- What is left to do once there is a result: an entry in the journal for some failures, and the
reply. -/
def conclude (ctx : Context gate) : Except Failure Json → Work Response
  | .ok data => return respond (.success ctx.trace data)
  | .error failure => do
    match Reply.eventOfFailure? ctx.trace failure with
    | some event => Work.perform (.log event)
    | none => pure ()
    return respond (.ofFailure ctx.trace failure)

theorem answer_eq_bind (ctx : Context gate) (work : Attempt Json) :
    ctx.answer work = work.run >>= ctx.conclude :=
  congrArg (work.run >>= ·) (funext fun result ↦ by cases result <;> rfl)

theorem isQuiet_answer {work : Attempt Json} (h : work.run.IsQuiet) :
    (ctx.answer work).IsQuiet := by
  rw [answer_eq_bind]
  refine h.bind fun result ↦ ?_
  cases result with
  | ok data => exact .pure
  | error failure =>
    rw [conclude]
    cases Reply.eventOfFailure? ctx.trace failure with
    | none => exact .pure
    | some event => exact (Work.IsQuiet.perform Step.isQuiet_log).bind fun _ ↦ .pure

theorem isQuiet_answerQuery {toJson : α → Json} {q : Detector.Query α}
    (h : (Step.ask q.call).isQuiet) : (ctx.answerQuery toJson q).IsQuiet :=
  isQuiet_answer ((Service.isQuiet_query h).run_bind fun _ ↦ .run_pure)

theorem isQuiet_withForm {read : Form → Except Form.Fault α} {next : α → Work Response}
    (h : ∀ a, (next a).IsQuiet) : (ctx.withForm read next).IsQuiet := by
  unfold withForm
  split
  · exact h _
  · exact .pure

theorem isQuiet_withExpression {expression : String} {next : Work Response} (h : next.IsQuiet) :
    (ctx.withExpression expression next).IsQuiet := by
  unfold withExpression
  split
  · exact h
  · exact .pure

theorem isQuiet_rangeQuery {range : TimeRange} {toJson : α → Json} {q : Detector.Query α}
    (h : (Step.ask q.call).isQuiet) : (ctx.rangeQuery range toJson q).IsQuiet := by
  unfold rangeQuery withRange
  split
  · exact isQuiet_answerQuery h
  · exact .pure

theorem isQuiet_listRows {φ ρ : Type} [Column φ ρ] {toJson : ρ → Json}
    {work : Option String → Order φ → Page → Attempt (List ρ × Nat)}
    (h : ∀ needle order page, (work needle order page).run.IsQuiet) :
    (ctx.listRows toJson work).IsQuiet := by
  refine isQuiet_withForm fun params ↦ ?_
  split
  · exact .pure
  · split
    · exact .pure
    · exact isQuiet_answer ((h _ _ _).run_bind fun _ ↦ .run_pure)

/-- An endpoint that is no mutation has no effects. -/
theorem isQuiet_handle {e : Endpoint} (h : e.isMutation = false) : (ctx.handle e).IsQuiet := by
  cases e with
  | createRule | updateRule | deleteRule | deleteAnalysis => contradiction
  | health => exact (Work.IsQuiet.perform rfl).bind fun _ ↦ .pure
  | listRules | listAnalyses =>
    exact isQuiet_listRows fun _ _ _ ↦
      (Service.isQuiet_store rfl).run_bind fun _ ↦ Service.isQuiet_ofStore
  | ruleDetail =>
    exact isQuiet_withForm fun id ↦ isQuiet_answer
      (Service.Rules.isQuiet_get.run_bind fun _ ↦ .run_pure)
  | rawData =>
    exact isQuiet_withForm fun id ↦ isQuiet_answer
      (Service.Analyses.isQuiet_rawData.run_bind fun _ ↦ .run_pure)
  | targets => exact isQuiet_answerQuery rfl
  | nodeInfo | nodeStatus | nodeContainerStatus =>
    exact isQuiet_withForm fun _ ↦ isQuiet_answerQuery rfl
  | nodeResources | clusterResources | clusterContainerStatus =>
    exact isQuiet_withForm fun _ ↦ isQuiet_rangeQuery rfl
  | query =>
    refine isQuiet_withForm fun (expression, time) ↦ isQuiet_withExpression ?_
    cases time with
    | some time => exact isQuiet_answerQuery rfl
    | none => exact (Work.IsQuiet.perform rfl).bind fun _ ↦ isQuiet_answerQuery rfl
  | queryRange =>
    exact isQuiet_withForm fun _ ↦ isQuiet_withExpression (isQuiet_rangeQuery rfl)
  | queryValidate => exact isQuiet_withForm fun _ ↦ isQuiet_withExpression .pure
  | description => exact .pure

end Api.Context

end RuleWatch
