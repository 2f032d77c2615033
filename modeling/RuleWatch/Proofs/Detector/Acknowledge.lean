import RuleWatch.Detector.Query

/-!
# What acknowledges a request

The detector acknowledges a request with an envelope whose status is the integer 200, whatever else
the envelope says. An answer that is no envelope acknowledges nothing, and neither does no answer.
-/

namespace RuleWatch

namespace Json

variable {α β : Type}

/-- A record of the same fields that makes something else of them reads the same texts. -/
theorem Record.decoder_eq_map {r : Record α} {r' : Record β} (f : α → β)
    (hfields : r'.fields = r.fields) (hbuild : ∀ found, r'.build found = f <$> r.build found)
    (o : Outline) : r'.decoder o = f <$> r.decoder o := by
  cases o with
  | object entries whole =>
    simp only [decoder, ofEntries, hfields]
    cases findEntries r.fields whole [] entries with
    | error fault => rfl
    | ok found => exact hbuild found
  | array items whole =>
    simp only [decoder, hfields]
    cases findItems whole r.fields items with
    | error fault => rfl
    | ok found => exact hbuild found
  | _ => rfl

theorem Decoder.ofBytes_eq_map {d : Decoder α} {d' : Decoder β} (f : α → β)
    (h : ∀ o, d' o = f <$> d o) (bytes : Bytes) : ofBytes d' bytes = f <$> ofBytes d bytes := by
  unfold ofBytes
  generalize scan bytes = scanned
  obtain ⟨outline, whole⟩ := scanned
  simp only [h]
  cases d outline with
  | error fault => rfl
  | ok a => cases whole <;> rfl

end Json

namespace Detector

open Json

namespace Envelope

/-- The parts of an envelope: its status, its message and its data. -/
def parts : Record (Int × Option String × Json) :=
  (fun status message data ↦ (status, message, data)) <$> .required "status" .int64
    <*> .defaulted "message" [] Decoder.string.nullable none
    <*> .defaulted "data" [] Decoder.member Json.null

/-- An envelope is read part by part. -/
theorem ofBytes_record (body : Bytes) :
    Decoder.ofBytes record.decoder body =
      (fun p ↦ ofParts p.1 p.2.1 p.2.2) <$> Decoder.ofBytes parts.decoder body := by
  have hbuild : ∀ found,
      record.build found = (fun p ↦ ofParts p.1 p.2.1 p.2.2) <$> parts.build found := by
    intro found
    simp only [record, parts, Seq.seq, Functor.map]
    cases (Record.required "status" Decoder.int64).build found with
    | error fault => rfl
    | ok status =>
      cases (Record.defaulted "message" [] Decoder.string.nullable none).build found with
      | error fault => rfl
      | ok message => cases (Record.defaulted "data" [] Decoder.member null).build found <;> rfl
  have hfields : record.fields = parts.fields := rfl
  exact Decoder.ofBytes_eq_map _ (Record.decoder_eq_map _ hfields hbuild) body

/-- An envelope gives its data if its status is 200. -/
theorem data_ofParts_eq_ok_iff {endpoint : String} {status : Int} {message : Option String}
    {data data' : Json} :
    (ofParts status message data).data endpoint = .ok data' ↔ status = 200 ∧ data = data' := by
  by_cases h : status = statusOk
  · rw [ofParts, if_pos h, Envelope.data, Except.ok.injEq]
    exact (and_iff_right h).symm
  · rw [ofParts, if_neg h, Envelope.data]
    exact iff_of_false (by simp) fun ⟨hstatus, _⟩ ↦ h hstatus

end Envelope

/-- The body of an answer is an envelope with this status and these data; data that are left out
are null. -/
def Says (body : Bytes) (status : Int) (data : Json) : Prop :=
  ∃ message, Decoder.ofBytes Envelope.parts.decoder body = .ok (status, message, data)

/-- An envelope says one thing. -/
theorem Says.data_eq {body : Bytes} {status : Int} {data data' : Json} (h : Says body status data)
    (h' : Says body status data') : data = data' := by
  obtain ⟨message, heq⟩ := h
  obtain ⟨message', heq'⟩ := h'
  have hparts := Except.ok.inj (heq.symm.trans heq')
  exact (Prod.mk.inj (Prod.mk.inj hparts).2).2

/-- The answer is an envelope with this status. -/
def HasStatus (answer : Option Bytes) (status : Int) : Prop :=
  ∃ body message data, answer = some body ∧
    Decoder.ofBytes Envelope.parts.decoder body = .ok (status, message, data)

/-- The status 200 acknowledges, and nothing else does. -/
theorem acknowledge_some_eq_ok_iff (call : Call) (body : Bytes) (data : Json) :
    acknowledge call (some body) = .ok data ↔ Says body 200 data := by
  have hread : acknowledge call (some body) =
      ((fun p ↦ Envelope.ofParts p.1 p.2.1 p.2.2) <$> Decoder.ofBytes Envelope.parts.decoder body
        |>.mapError (.malformed call.path)) >>= Envelope.data call.path := by
    rw [← Envelope.ofBytes_record]
    rfl
  rw [hread, Says]
  cases hparts : Decoder.ofBytes Envelope.parts.decoder body with
  | error fault => exact iff_of_false (fun hd ↦ by contradiction) fun ⟨_, h⟩ ↦ by contradiction
  | ok p =>
    obtain ⟨status, message, data'⟩ := p
    refine Envelope.data_ofParts_eq_ok_iff.trans ?_
    simp [and_comm, eq_comm]

/-- Nothing but the status 200 acknowledges. -/
theorem acknowledge_isOk_iff (call : Call) (answer : Option Bytes) :
    (∃ data, acknowledge call answer = .ok data) ↔ HasStatus answer 200 := by
  cases answer with
  | none => simp [acknowledge, HasStatus]
  | some body =>
    simp only [acknowledge_some_eq_ok_iff, Says, HasStatus, Option.some.injEq]
    constructor
    · rintro ⟨data, message, hparts⟩
      exact ⟨body, message, data, rfl, hparts⟩
    · rintro ⟨body', message, data, rfl, hparts⟩
      exact ⟨data, message, hparts⟩

end Detector

end RuleWatch
