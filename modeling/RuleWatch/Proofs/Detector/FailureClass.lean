import RuleWatch.Proofs.Detector.Relay

/-!
# How the detector fails

The detector fails in two ways. It is unavailable when it does not acknowledge: when no answer
comes, when what comes is no envelope, and when the envelope has another status than 200, with
whatever message. Its data are undecodable when it acknowledges, and the data are not of the kind
that is due under the path. Which of the two it is decides what is read of an answer, up to the
words in it (`FailureClass.Covers.exists_read`).
-/

namespace RuleWatch.Detector

open Json (Decoder)

/-! ## Answers that do not acknowledge -/

/-- The detector does not acknowledge with this answer. -/
inductive IsUnavailable : Option Bytes → Prop
  /-- The connection was dropped. -/
  | dropped : IsUnavailable none
  /-- The body is no envelope. -/
  | malformed {body : Bytes} (h : ∀ status data, ¬ Says body status data) :
    IsUnavailable (some body)
  /-- The envelope has another status. -/
  | refused {body : Bytes} {status : Int} {data : Json} (h : Says body status data)
    (hstatus : status ≠ 200) : IsUnavailable (some body)

theorem IsUnavailable.exists_acknowledge {answer : Option Bytes} (h : IsUnavailable answer)
    (call : Call) :
    ∃ failure, acknowledge call answer = .error failure ∧ failure.isUndecodable = false := by
  cases hanswer : acknowledge call answer with
  | error failure => exact ⟨failure, rfl, isUndecodable_of_acknowledge hanswer⟩
  | ok data =>
    cases h with
    | dropped => contradiction
    | malformed hnone => exact absurd ((acknowledge_some_eq_ok_iff ..).mp hanswer) (hnone 200 data)
    | refused hsays hstatus =>
      obtain ⟨message, hparts⟩ := hsays
      obtain ⟨message', hparts'⟩ := (acknowledge_some_eq_ok_iff ..).mp hanswer
      exact absurd (congrArg Prod.fst (Except.ok.inj (hparts.symm.trans hparts'))) hstatus

/-! ## Data that are due -/

/-- The data are of the kind that is due under the path. -/
def isDue (path : String) (data : Json) : Bool :=
  match path with
  | "/api/v1/monitor/targets" => (Monitor.Targets.record.decoder.ofJson data).isOk
  | "/api/v1/monitor/node_info" => (Monitor.NodeInfo.record.decoder.list.ofJson data).isOk
  | "/api/v1/monitor/node_status" => (Monitor.NodeStatus.record.decoder.list.ofJson data).isOk
  | "/api/v1/monitor/node_resources" | "/api/v1/monitor/node_container_status"
  | "/api/v1/monitor/cluster_resources" | "/api/v1/monitor/cluster_container_status" =>
    (Metric.Sample.record.decoder.list.ofJson data).isOk
  | _ => true

/-- The query reads the data that are due under its path, and no others. -/
def Query.ReadsDue {α : Type} (q : Query α) : Prop :=
  ∀ data, isDue q.call.path data = (q.decode data).isOk

/-! ## Classes -/

/-- The ways in which the detector fails. What fails to acknowledge a notification is unavailable
for it. -/
inductive FailureClass
  | unavailable
  | undecodable

namespace FailureClass

/-- The detector acknowledges, and only its data could not be read. -/
def isUndecodable : FailureClass → Bool
  | .unavailable => false
  | .undecodable => true

/-- The answer to a call is a failure of the class. -/
def Covers : FailureClass → Call → Option Bytes → Prop
  | .unavailable, _, answer => IsUnavailable answer
  | .undecodable, call, answer => ∃ body data,
    answer = some body ∧ Says body 200 data ∧ data ≠ .null ∧ isDue call.path data = false

/-- A query fails as its answer does. -/
theorem Covers.exists_read {α : Type} {c : FailureClass} {q : Query α} {answer : Option Bytes}
    (h : c.Covers q.call answer) (hq : q.ReadsDue) :
    ∃ failure, q.read answer = .error failure ∧ failure.isUndecodable = c.isUndecodable := by
  cases c with
  | unavailable =>
    obtain ⟨failure, hanswer, hfailure⟩ := IsUnavailable.exists_acknowledge h q.call
    exact ⟨failure, by rw [Query.read, hanswer]; rfl, hfailure⟩
  | undecodable =>
    obtain ⟨body, data, rfl, hsays, hnull, hdue⟩ := h
    have hanswer := (acknowledge_some_eq_ok_iff q.call body data).mpr hsays
    have hread : q.read (some body) = (q.decode data).mapError (.undecodable q.call.path) := by
      rw [← q.ofData_of_ne_null hnull, Query.read, hanswer]
      rfl
    rw [hq data] at hdue
    rw [hread]
    cases hdecode : q.decode data with
    | ok a => simp [hdecode, Except.isOk, Except.toBool] at hdue
    | error fault => exact ⟨_, rfl, rfl⟩

end FailureClass

end RuleWatch.Detector
