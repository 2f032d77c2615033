import RuleWatch.Proofs.Concurrent.Valid
import RuleWatch.Proofs.Store.Write

/-!
# The last write to a part

Requests that change one rule at the same time may each have read it before the other wrote. Still
no part of a rule is ever a mixture: it is as it was in the draft that was checked for the last
write to it. The history of a crowd tells which write that was, who did it, and what that request
had done before.
-/

namespace RuleWatch

open Service (Mutation)

/-- The draft from which the deed has written a part of the rule with an id. -/
def Deed.written? (id : Int) (p : Rule.Part) : Deed → Option Rule.Draft
  | ⟨.store op, answer⟩ => op.written? id p answer
  | _ => none

/-- The request creates a rule, or it changes the rule with this id and names the part. -/
def Service.Mutation.Names (id : Int) (p : Rule.Part) : Mutation → Prop
  | .createRule _ => True
  | .updateRule target changes => target = id ∧ changes.names p
  | _ => False

namespace Crowd

variable {gate : Expression.Gate} {requests : List Mutation} {history : List (Nat × Deed)}
  {id : Int} {p : Rule.Part} {value : p.Value}

/-- The value of a part of the rule with an id comes from the last write to it: the request that did
it creates the rule or names the part, and had checked the draft before. -/
def ComesFromLastWrite (gate : Expression.Gate) (requests : List Mutation)
    (history : List (Nat × Deed)) (id : Int) (p : Rule.Part) (value : p.Value) : Prop :=
  ∃ before who deed after request draft,
    history = before ++ (who, deed) :: after ∧
    deed.written? id p = some draft ∧
    (∀ later ∈ after, later.2.written? id p = none) ∧
    requests[who]? = some request ∧
    request.Names id p ∧
    request.HasChecked gate (deedsOf before who) draft ∧
    p.Equal value (draft.part p)

/-- One more request does not matter. -/
theorem ComesFromLastWrite.arrival {request : Mutation}
    (h : ComesFromLastWrite gate requests history id p value) :
    ComesFromLastWrite gate (requests ++ [request]) history id p value := by
  obtain ⟨before, who, deed, after, writer, draft, hhistory, hwritten, hafter, hwriter, hrest⟩ := h
  have hlt : who < requests.length := (List.getElem?_eq_some_iff.mp hwriter).1
  refine ⟨before, who, deed, after, writer, draft, hhistory, hwritten, hafter, ?_, hrest⟩
  rwa [List.getElem?_append_left hlt]

/-- A deed that does not write the part does not matter. -/
theorem ComesFromLastWrite.append {entry : Nat × Deed}
    (h : ComesFromLastWrite gate requests history id p value)
    (hentry : entry.2.written? id p = none) :
    ComesFromLastWrite gate requests (history ++ [entry]) id p value := by
  obtain ⟨before, who, deed, after, writer, draft, rfl, hwritten, hafter, hrest⟩ := h
  refine ⟨before, who, deed, after ++ [entry], writer, draft, by simp, hwritten, ?_, hrest⟩
  intro later hlater
  rcases List.mem_append.mp hlater with hold | hnew
  · exact hafter later hold
  · rw [List.mem_singleton.mp hnew]
    exact hentry

end Crowd

namespace Service.Mutation

/-- What a request writes it names, and has checked. -/
theorem May.of_written? {gate : Expression.Gate} {q : Mutation} {deeds : List Deed}
    {op : Store.Operation} {answer : op.Answer} {id : Int} {p : Rule.Part} {draft : Rule.Draft}
    (h : q.May gate deeds (.store op)) (hwritten : op.written? id p answer = some draft) :
    q.Names id p ∧ q.HasChecked gate deeds draft := by
  cases op with
  | insertRule d =>
    obtain ⟨⟨source, rfl⟩, hchecked⟩ := h
    cases answer with
    | error failure => contradiction
    | ok rule =>
      obtain ⟨-, hdraft⟩ := Option.ite_none_right_eq_some.mp hwritten
      exact ⟨trivial, Option.some.inj hdraft ▸ hchecked⟩
  | updateRule target changes d =>
    obtain ⟨rfl, hchecked⟩ := h
    cases answer with
    | error failure => contradiction
    | ok rule =>
      obtain ⟨hnames, hdraft⟩ := Option.ite_none_right_eq_some.mp hwritten
      exact ⟨hnames, Option.some.inj hdraft ▸ hchecked⟩
  | _ => contradiction

/-- A step of a change leaves all rules there, and all parts that it does not name as they are. -/
theorem May.exists_part {gate : Expression.Gate} {deeds : List Deed} {id : Int}
    {changes : Rule.Changes} {s : Step} (h : (updateRule id changes).May gate deeds s)
    {world : World} (hsound : world.store.Sound gate) {old : Rule}
    (hold : old ∈ world.store.rules.rows)
    {p : Rule.Part} (hp : old.id = id → changes.names p = false) :
    ∃ new ∈ (world.perform s).2.store.rules.rows, new.id = old.id ∧ new.part p = old.part p := by
  cases s with
  | store op =>
    cases op with
    | insertRule d =>
      obtain ⟨⟨draft, hother⟩, -⟩ := h
      contradiction
    | updateRule target changes' d =>
      obtain ⟨heq, -⟩ := h
      cases heq
      exact Store.exists_part_updateRule hsound hold hp
    | deleteRule target => contradiction
    | deleteAnalysis target => contradiction
    | _ => exact ⟨old, hold, rfl, rfl⟩
  | _ => exact ⟨old, hold, rfl, rfl⟩

end Service.Mutation

namespace Crowd

/-- Each step keeps the store sound, and each part of each rule explained by the last write to
it. -/
theorem invariant_lastWrite {gate : Expression.Gate} :
    Invariant (Mutation.May gate) fun requests world history ↦
      world.store.Sound gate ∧ ∀ rule ∈ world.store.rules.rows, ∀ p : Rule.Part,
        ComesFromLastWrite gate requests history rule.id p (rule.part p) where
  arrival _ h := ⟨h.1, fun rule hrule p ↦ (h.2 rule hrule p).arrival⟩
  clock _ h := h
  episode _ h := ⟨h.1.of_rules_eq rfl, h.2⟩
  step {requests world history place request s} hrequest hmay h := by
    obtain ⟨hsound, hparts⟩ := h
    cases s with
    | store op =>
      refine ⟨hsound.perform hmay.isSound, fun rule hrule p ↦ ?_⟩
      obtain ⟨draft, hwritten, hequal⟩ | ⟨hnone, old, hold, hid, hpart⟩ :=
        Store.isWrittenOrKept_perform (p := p) hsound hmay.isSound hrule
      · obtain ⟨hnames, hchecked⟩ := hmay.of_written? hwritten
        exact ⟨history, place, _, [], request, draft, rfl, hwritten, by simp, hrequest,
          hnames, hchecked, hequal⟩
      · rw [← hpart, ← hid]
        rw [← hid] at hnone
        exact (hparts old hold p).append hnone
    | _ => exact ⟨hsound, fun rule hrule p ↦ (hparts rule hrule p).append rfl⟩

end Crowd

/-- Whatever requests are served side by side, from a store without rules, and in whatever order
their steps are done: at every point each part of each rule is as the last write to it has left it,
and the next step of a change takes no rule away and leaves the parts alone that the change does not
name. -/
theorem part_of_last_write (gate : Expression.Gate) {world : World}
    (h : world.store.rules.rows = []) (events : List (Crowd.Event Mutation)) :
    let serve := fun q : Mutation ↦ (q.serve gate).run
    let crowd := (Crowd.start world).run serve events
    (∀ rule ∈ crowd.world.store.rules.rows, ∀ p : Rule.Part,
      Crowd.ComesFromLastWrite gate crowd.requests crowd.history rule.id p (rule.part p)) ∧
    ∀ place id changes, crowd.requests[place]? = some (.updateRule id changes) →
      ∀ old ∈ crowd.world.store.rules.rows, ∀ p : Rule.Part,
        (old.id = id → changes.names p = false) →
          ∃ new ∈ (crowd.next serve (.turn place)).world.store.rules.rows,
            new.id = old.id ∧ new.part p = old.part p := by
  intro serve crowd
  have hnone : world.store.Sound gate ∧ ∀ rule ∈ world.store.rules.rows, ∀ p : Rule.Part,
      Crowd.ComesFromLastWrite gate [] [] rule.id p (rule.part p) :=
    ⟨.of_rows_eq_nil h, by simp [h]⟩
  obtain ⟨hsound, hparts⟩ :=
    Crowd.invariant_lastWrite.run (Mutation.keeps_serve gate) hnone events
  have hobeys : crowd.Obeys (Mutation.May gate) fun _ _ _ ↦ True :=
    (Crowd.obeys_start world).run (Mutation.keeps_serve gate) events
  refine ⟨hparts, fun place id changes hrequest old hold p hp ↦ ?_⟩
  obtain heq | ⟨request, s, rest, hplace⟩ := Crowd.next_turn_cases serve crowd place
  · rw [heq]
    exact ⟨old, hold, rfl, rfl⟩
  · rw [Crowd.next_turn hplace]
    have hsame : request = .updateRule id changes := by
      simpa [Crowd.requests, hplace] using hrequest
    subst hsame
    exact (hobeys.keeps hplace).1.exists_part hsound hold hp

open StaleWrite in
/-- The rule that is written late has its fault condition from the first request, and its name from
the second. -/
theorem part_of_last_write_of_staleWrite :
    let serve := fun q : Mutation ↦ (q.serve gate).run
    let crowd := (Crowd.start world).run serve events
    world.store.rules.rows = [] ∧
      (crowd.world.store.rules.rows.map fun rule ↦ (rule.name, rule.fault)) =
        [("spare", ⟨some "gt", some (.ofInt 90)⟩)] ∧
      (∀ rule ∈ crowd.world.store.rules.rows, ∀ p : Rule.Part,
        Crowd.ComesFromLastWrite gate crowd.requests crowd.history rule.id p (rule.part p)) ∧
      ∀ place id changes, crowd.requests[place]? = some (.updateRule id changes) →
        ∀ old ∈ crowd.world.store.rules.rows, ∀ p : Rule.Part,
          (old.id = id → changes.names p = false) →
            ∃ new ∈ (crowd.next serve (.turn place)).world.store.rules.rows,
              new.id = old.id ∧ new.part p = old.part p :=
  ⟨rfl, by decide +kernel, part_of_last_write gate rfl events⟩

end RuleWatch
