import RuleWatch.Proofs.Detector.Acknowledge
import RuleWatch.Proofs.Json.Reads
import RuleWatch.Work.World

/-!
# What an answer to a query brings

An answer to a query is read in two stages: first it has to acknowledge, and then its data have to
be of the kind that was asked for. Only the second stage makes an answer undecodable. A list is read
item by item, each of them for itself, and one item that cannot be read spoils the whole list.
-/

namespace RuleWatch

open Result

namespace Detector

/-! ## Answers over HTTP -/

/-- An answer of the detector as it comes over HTTP. -/
structure HttpAnswer where
  status : Nat
  body : Bytes

/-- How a detector behaves that answers over HTTP: nothing is looked at but the bodies of its
answers. -/
def Behaviour.ofHttp (answers : Nat → Call → Option HttpAnswer) : Behaviour :=
  fun n call ↦ (answers n call).map HttpAnswer.body

/-! ## Reading -/

/-- What does not acknowledge is not undecodable. -/
theorem isUndecodable_of_acknowledge {call : Call} {answer : Option Bytes} {failure : Failure}
    (h : acknowledge call answer = .error failure) : failure.isUndecodable = false := by
  cases answer with
  | none =>
    cases h
    rfl
  | some body =>
    change (Envelope.parse call.path body >>= Envelope.data call.path) = _ at h
    rw [Envelope.parse] at h
    cases hparse : Json.Decoder.ofBytes Envelope.record.decoder body with
    | error fault =>
      rw [hparse] at h
      cases h
      rfl
    | ok envelope =>
      rw [hparse] at h
      cases envelope with
      | success data => contradiction
      | failure status message =>
        cases h
        rfl

namespace Query

variable {α β : Type}

/-- A query whose data are told in another way. -/
def map (f : α → β) (q : Query α) : Query β :=
  ⟨q.call, fun v ↦ f <$> q.decode v, f q.empty⟩

/-- What data come to that an answer brings. -/
def ofData (q : Query α) (data : Json) : Except Failure α :=
  decodeData q.call.path q.decode q.empty data

theorem ofData_of_ne_null (q : Query α) {data : Json} (h : data ≠ .null) :
    q.ofData data = (q.decode data).mapError (.undecodable q.call.path) := by
  cases data with
  | null => exact absurd rfl h
  | _ => rfl

theorem ofData_map (f : α → β) (q : Query α) (data : Json) :
    (q.map f).ofData data = f <$> q.ofData data := by
  by_cases hnull : data = .null
  · subst hnull
    rfl
  · rw [ofData_of_ne_null _ hnull, ofData_of_ne_null _ hnull]
    simp only [map]
    cases q.decode data <;> rfl

theorem read_map (f : α → β) (q : Query α) (answer : Option Bytes) :
    (q.map f).read answer = f <$> q.read answer := by
  change (acknowledge q.call answer >>= (q.map f).ofData) =
    f <$> (acknowledge q.call answer >>= q.ofData)
  cases acknowledge q.call answer with
  | error failure => rfl
  | ok data => exact q.ofData_map f data

/-- What is read of the body of an answer. -/
inductive Reads (q : Query α) (body : Bytes) : Except Failure α → Prop
  | unavailable {failure : Failure} (h : ∀ data, ¬ Says body 200 data)
    (hfailure : failure.isUndecodable = false) : q.Reads body (.error failure)
  | undecodable {data : Json} {fault : Json.Fault} (h : Says body 200 data) (hnull : data ≠ .null)
    (hdecode : q.decode data = .error fault) :
    q.Reads body (.error (.undecodable q.call.path fault))
  | empty (h : Says body 200 .null) : q.Reads body (.ok q.empty)
  | decoded {data : Json} {a : α} (h : Says body 200 data) (hnull : data ≠ .null)
    (hdecode : q.decode data = .ok a) : q.Reads body (.ok a)

theorem reads_read (q : Query α) (body : Bytes) : q.Reads body (q.read (some body)) := by
  change q.Reads body (acknowledge q.call (some body) >>= _)
  cases hanswer : acknowledge q.call (some body) with
  | error failure =>
    refine .unavailable (fun data htells ↦ ?_) (isUndecodable_of_acknowledge hanswer)
    rw [(acknowledge_some_eq_ok_iff ..).mpr htells] at hanswer
    contradiction
  | ok data =>
    have htells := (acknowledge_some_eq_ok_iff ..).mp hanswer
    change q.Reads body (q.ofData data)
    by_cases hnull : data = .null
    · subst hnull
      exact .empty htells
    · rw [q.ofData_of_ne_null hnull]
      cases hdecode : q.decode data with
      | error fault => exact .undecodable htells hnull hdecode
      | ok a => exact .decoded htells hnull hdecode

end Query

end Detector

end RuleWatch
