import RuleWatch.Proofs.Api.Question
import RuleWatch.Proofs.Api.Reachable
import RuleWatch.Proofs.TimeRange

/-!
# One gate for all expressions

Expressions come in at five places: with rules and their changes, with queries, and to be looked at
for their own sake. At each of them the same gate decides, so what comes to the detector has passed
it: it is the expression of the request, or that of a rule that is kept.
-/

namespace RuleWatch

open Api (Context Endpoint Reply)
open Detector (Query)
open Http (Form Request Response)
open Result
open Service (Rules.create Rules.update)

/-! ## What is asked -/

namespace Api

variable {gate : Expression.Gate} {store : Store} {now : Int} {form : Form} {expression : String}
  {range : TimeRange}

theorem Params.expression_of_instant {time : Option Int}
    (h : instant form = .ok (expression, time)) : Params.expression form = .ok expression := by
  simp only [instant, bind_eq_ok_iff, pure, Except.pure, Except.ok.injEq, Prod.mk.injEq] at h
  obtain ⟨_, hexpression, _, -, rfl, -⟩ := h
  exact hexpression

theorem Params.expression_of_window (h : window form = .ok (expression, range)) :
    Params.expression form = .ok expression := by
  simp only [window, bind_eq_ok_iff, pure, Except.pure, Except.ok.injEq, Prod.mk.injEq] at h
  obtain ⟨_, hexpression, _, -, rfl, -⟩ := h
  exact hexpression

/-- The expression that is to be queried for an endpoint: that of the request, or that of the rule
behind an analysis result. -/
inductive Endpoint.HasExpression (store : Store) (form : Form) (expression : String) :
    Endpoint → Prop
  | query (h : Params.expression form = .ok expression) : HasExpression store form expression .query
  | queryRange (h : Params.expression form = .ok expression) :
    HasExpression store form expression .queryRange
  | rawData {id : Int} {analysis : Analysis} {rule : Rule} (hid : Params.id form = .ok id)
    (hanalysis : store.findAnalysis id = some analysis)
    (hrule : store.findRule analysis.ruleId = some rule) (h : rule.expression = expression) :
    HasExpression store form expression .rawData

/-- The paths under which the detector is asked to evaluate an expression. -/
def isQueryPath (path : String) : Bool :=
  path == "/api/v1/prometheus/query" || path == "/api/v1/prometheus/query_range"

/-- What is asked under these paths has passed the gate. -/
theorem Endpoint.exists_expression {e : Endpoint} {q : Query Json}
    (hsound : store.Sound gate) (hasked : e.asks? gate store now form = some q)
    (hpath : isQueryPath q.call.path) :
    ∃ expression, q.call.params.lookup "query" = some expression ∧
      gate expression = .ok () ∧ e.HasExpression store form expression := by
  cases e with
  | query =>
    obtain ⟨expression, time, hparams, hcheck, rfl⟩ := asks?_query_eq_some_iff.mp hasked
    exact ⟨expression, rfl, hcheck, .query (Params.expression_of_instant hparams)⟩
  | queryRange =>
    obtain ⟨expression, range, hparams, hcheck, -, rfl⟩ := asks?_queryRange_eq_some_iff.mp hasked
    exact ⟨expression, rfl, hcheck, .queryRange (Params.expression_of_window hparams)⟩
  | rawData =>
    obtain ⟨id, analysis, rule, hid, hanalysis, hrule, rfl⟩ := asks?_rawData_eq_some_iff.mp hasked
    have hgate := hsound.drafts rule (Store.mem_of_findRule hrule) .expression
    exact ⟨rule.expression, rfl, hgate, .rawData hid hanalysis hrule rfl⟩
  | targets =>
    cases hasked
    contradiction
  | nodeInfo | nodeStatus | nodeContainerStatus =>
    simp only [asks?, Option.bind_eq_bind, Option.pure_def, Option.bind_eq_some_iff] at hasked
    obtain ⟨machine, -, hq⟩ := hasked
    cases hq
    contradiction
  | nodeResources | clusterResources | clusterContainerStatus =>
    simp only [asks?, Option.bind_eq_bind, Option.pure_def, Option.bind_eq_some_iff] at hasked
    obtain ⟨params, -, _, -, hq⟩ := hasked
    cases hq
    contradiction
  | _ => contradiction

/-! ## Refusals -/

namespace Context

variable {ctx : Context gate} {time : Option Int} {fault : Expression.Fault}

/-- The handler refuses the request at once. -/
def Refuses (ctx : Context gate) (e : Endpoint) : Prop :=
  ∃ message, ctx.handle e = ctx.refuse message

theorem refuses_queryValidate
    (hparams : Params.expression (Form.ofText ctx.request.formText) = .ok expression)
    (hcheck : gate expression = .error fault) : ctx.Refuses .queryValidate :=
  ⟨"invalid expression: " ++ fault.message,
    by simp only [handle, queryValidate, withForm, hparams, withExpression, hcheck]⟩

theorem refuses_query
    (hparams : Params.instant (Form.ofText ctx.request.formText) = .ok (expression, time))
    (hcheck : gate expression = .error fault) : ctx.Refuses .query :=
  ⟨"invalid expression: " ++ fault.message,
    by simp only [handle, query, withForm, hparams, withExpression, hcheck]⟩

theorem refuses_queryRange
    (hparams : Params.window (Form.ofText ctx.request.formText) = .ok (expression, range))
    (h : gate expression ≠ .ok () ∨ range.check ≠ .ok ()) :
    ctx.Refuses .queryRange := by
  simp only [Refuses, handle, queryRange, withForm, hparams, withExpression]
  cases hcheck : gate expression with
  | error fault => exact ⟨_, rfl⟩
  | ok _ =>
    simp only [rangeQuery, withRange]
    cases hrange : range.check with
    | error fault => exact ⟨_, rfl⟩
    | ok _ => exact absurd h (by simp [hcheck, hrange])

end Context

end Api

/-! ## The gate -/

namespace Server

/-- The request is refused as a bad one, and the detector is not asked. -/
def IsRefused (served : Response × World) (world : World) : Prop :=
  (∃ reply : Reply, served.1.Carries reply ∧ reply.status = 400 ∧ reply.code = 1001) ∧
    served.2.calls = world.calls

/-- The detector is asked to evaluate the expression, and nothing else. -/
def Evaluates (served : Response × World) (world : World) (path expression : String) : Prop :=
  ∃ call, served.2.calls = world.calls ++ [call] ∧ call.path = path ∧
    call.params.lookup "query" = some expression

variable {gate : Expression.Gate} {server : Server gate} {store : Store} {expression : String}
  {r : Request} {world : World}

/-- A request that its handler refuses is refused. -/
theorem isRefused_of_refuses {e : Endpoint} (he : e.isMutation = false) (hmethod : r.method = .get)
    (hpath : r.path = e.path) (h : ∀ trace, (server.context trace r).Refuses e) :
    IsRefused ((server.serve r).run world) world := by
  obtain ⟨trace, before, hbefore, hstatus, hbody, -, hcalls⟩ :=
    exists_run_serve_get server he hmethod hpath world
  obtain ⟨message, hrefuse⟩ := h trace
  rw [hrefuse] at hstatus hbody hcalls
  exact ⟨⟨_, ⟨hstatus, hbody⟩, rfl, rfl⟩, hcalls.trans hbefore.calls⟩

/-- What is refused is not evaluated. -/
theorem IsRefused.not_evaluates {served : Response × World} {path : String}
    (h : IsRefused served world) : ¬ Evaluates served world path expression := by
  rintro ⟨call, hcalls, -⟩
  rw [h.2] at hcalls
  simp at hcalls

/-- What is to be asked is asked. -/
theorem calls_of_asks? {e : Endpoint} {q : Query Json} (he : e.relays) (hmethod : r.method = .get)
    (hpath : r.path = e.path)
    (hasked : e.asks? gate world.store world.clock (Form.ofText r.formText) = some q) :
    ((server.serve r).run world).2.calls = world.calls ++ [q.call] := by
  obtain ⟨trace, handled, hhandled, -, -, -, hcalls⟩ :=
    exists_relays_get server he hmethod hpath world
  rw [hasked] at hhandled
  cases hhandled with
  | asked hafter => exact hcalls.trans hafter.calls

/-- What the gate says of an expression decides wherever the expression comes in. -/
structure Gated (server : Server gate) (store : Store) (expression : String) : Prop where
  validate : ∀ (r : Request) (world : World), world.store = store → r.method = .get →
    r.path = Endpoint.queryValidate.path →
    Api.Params.expression (Form.ofText r.formText) = .ok expression →
      let served := (server.serve r).run world
      ((∃ reply, served.1.Carries reply ∧ reply.status = 200 ∧ reply.code = 0) ↔
        gate expression = .ok ()) ∧
      (gate expression ≠ .ok () → IsRefused served world)
  query : ∀ (r : Request) (world : World) (time : Option Int), world.store = store →
    r.method = .get → r.path = Endpoint.query.path →
    Api.Params.instant (Form.ofText r.formText) = .ok (expression, time) →
      let served := (server.serve r).run world
      (Evaluates served world "/api/v1/prometheus/query" expression ↔
        gate expression = .ok ()) ∧
      (gate expression ≠ .ok () → IsRefused served world)
  queryRange : ∀ (r : Request) (world : World) (range : TimeRange), world.store = store →
    r.method = .get → r.path = Endpoint.queryRange.path →
    Api.Params.window (Form.ofText r.formText) = .ok (expression, range) →
      let served := (server.serve r).run world
      (0 < range.step ∧ range.start ≤ range.finish →
        (Evaluates served world "/api/v1/prometheus/query_range" expression ↔
          gate expression = .ok ())) ∧
      (gate expression ≠ .ok () ∨ range.step ≤ 0 ∨ range.finish < range.start →
        IsRefused served world)
  /-- The draft is good but for its expression. -/
  create : ∀ (draft : Rule.Draft) (other : String) (world : World), world.store = store →
    draft.expression = expression →
    { draft with expression := other }.normalize.checkBy gate = .ok () →
      ((∀ reason, ((Rules.create gate draft).run.run world).1 ≠
          .error (.invalidRule reason)) ↔ gate expression = .ok ())
  update : ∀ (id : Int) (rule : Rule) (world : World), world.store = store →
    store.findRule id = some rule →
      ((∀ reason, ((Rules.update gate id
          { Rule.Changes.none with expression := some expression }).run.run world).1 ≠
            .error (.invalidRule reason)) ↔ gate expression = .ok ())

theorem gated_of_sound (server : Server gate) (hsound : store.Sound gate)
    (expression : String) : server.Gated store expression where
  validate r world hstore hmethod hpath hparams := by
    cases hcheck : gate expression with
    | error fault =>
      have hrefused : IsRefused ((server.serve r).run world) world :=
        isRefused_of_refuses rfl hmethod hpath fun trace ↦
          Context.refuses_queryValidate hparams hcheck
      refine ⟨iff_of_false ?_ (by simp), fun _ ↦ hrefused⟩
      rintro ⟨reply, hcarries, hstatus, -⟩
      obtain ⟨⟨reply', hcarries', hstatus', -⟩, -⟩ := hrefused
      have : 200 = 400 := by rw [← hstatus, ← hstatus', ← hcarries.1, hcarries'.1]
      contradiction
    | ok _ =>
      refine ⟨iff_of_true ?_ rfl, fun h ↦ absurd rfl h⟩
      obtain ⟨trace, before, -, hstatus, hbody, -⟩ :=
        exists_run_serve_get server rfl hmethod hpath world
      simp only [Context.handle, Context.queryValidate, Context.withForm, context_request, hparams,
        Context.withExpression, hcheck] at hstatus hbody
      exact ⟨_, ⟨hstatus, hbody⟩, rfl, rfl⟩
  query r world time hstore hmethod hpath hparams := by
    cases hcheck : gate expression with
    | error fault =>
      have hrefused : IsRefused ((server.serve r).run world) world :=
        isRefused_of_refuses rfl hmethod hpath fun trace ↦ Context.refuses_query hparams hcheck
      exact ⟨iff_of_false hrefused.not_evaluates (by simp), fun _ ↦ hrefused⟩
    | ok _ =>
      have hasked : Endpoint.query.asks? gate world.store world.clock (Form.ofText r.formText) =
          some (.instant expression (time.getD world.clock)) :=
        Endpoint.asks?_query_eq_some_iff.mpr ⟨expression, time, hparams, hcheck, rfl⟩
      refine ⟨iff_of_true ?_ rfl, fun h ↦ absurd rfl h⟩
      exact ⟨_, calls_of_asks? rfl hmethod hpath hasked, rfl, rfl⟩
  queryRange r world range hstore hmethod hpath hparams := by
    by_cases hpasses : gate expression = .ok () ∧ range.check = .ok ()
    · obtain ⟨hcheck, hrange⟩ := hpasses
      have hasked : Endpoint.queryRange.asks? gate world.store world.clock
          (Form.ofText r.formText) = some (.window expression range) :=
        Endpoint.asks?_queryRange_eq_some_iff.mpr ⟨expression, range, hparams, hcheck, hrange, rfl⟩
      refine ⟨fun _ ↦ iff_of_true ⟨_, calls_of_asks? rfl hmethod hpath hasked, rfl, rfl⟩ hcheck, ?_⟩
      rintro (hfails | hrange')
      · contradiction
      · have := TimeRange.check_eq_ok_iff.mp hrange
        omega
    · have hrefused : IsRefused ((server.serve r).run world) world :=
        isRefused_of_refuses rfl hmethod hpath fun trace ↦
          Context.refuses_queryRange hparams (not_and_or.mp hpasses)
      refine ⟨fun hrange ↦ iff_of_false hrefused.not_evaluates fun hcheck ↦ ?_, fun _ ↦ hrefused⟩
      exact hpasses ⟨hcheck, TimeRange.check_eq_ok_iff.mpr hrange⟩
  create draft other world hstore hexpression hother := by
    have hparts : ∀ p : Rule.Part, p ≠ .expression →
        draft.normalize.part p = { draft with expression := other }.normalize.part p := by
      intro p hp
      cases p with
      | expression => exact absurd rfl hp
      | _ => rfl
    rw [Service.Rules.create_isValid_iff, Rule.Draft.checkBy_eq_ok_iff_gate hother hparts]
    exact hexpression ▸ Iff.rfl
  update id rule world hstore hfound := by
    subst hstore
    have hrule := hsound.drafts rule (Store.mem_of_findRule hfound)
    have hparts : ∀ p : Rule.Part, p ≠ .expression →
        (rule.merged { Rule.Changes.none with expression := some expression }).part p =
          rule.part p := by
      intro p hp
      refine Rule.part_merged hrule ?_
      cases p with
      | expression => exact absurd rfl hp
      | _ => rfl
    rw [Service.Rules.update_isValid_iff _ _ hfound,
      Rule.Draft.checkBy_eq_ok_iff_gate hrule.checkBy_eq hparts]
    rfl

end Server

end RuleWatch
