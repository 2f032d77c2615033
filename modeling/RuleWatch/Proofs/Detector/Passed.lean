import RuleWatch.Proofs.Detector.Relay
import RuleWatch.Proofs.Json.Buffered
import RuleWatch.Proofs.Json.Reread

/-!
# Data that are passed on

What has been read of an answer can be written as a text and brought by another answer. Then the
same data are brought, but for the order of members and for what the reader of numerals makes of the
doubles (`exists_says_bringing`).
-/

namespace RuleWatch

open Json Result

namespace Json.Record

variable {whole : Bool} {fields : List Field} {found found' : Found}

/-- What is found in an object are its values. -/
theorem mem_of_findEntries {entries : List Entry}
    (h : findEntries fields whole found entries = .ok found') :
    ∀ x ∈ found', x ∈ found ∨ ∃ e ∈ entries, e.2 = x.2 := by
  induction entries generalizing found with
  | nil =>
    unfold findEntries at h
    split at h
    next => exact fun x hx ↦ .inl (Except.ok.inj h ▸ hx)
    next => contradiction
  | cons e entries ih =>
    intro x hx
    obtain ⟨_ | key, o⟩ := e
    · contradiction
    · simp only [findEntries] at h
      cases hfield : field? fields key with
      | none =>
        simp only [hfield] at h
        split at h
        next =>
          obtain hfound | ⟨e, he, heq⟩ := ih h x hx
          · exact .inl hfound
          · exact .inr ⟨e, .tail _ he, heq⟩
        next => contradiction
      | some f =>
        simp only [hfield] at h
        split at h
        next => contradiction
        next =>
          obtain ⟨-, -, hrest⟩ := bind_eq_ok_iff.mp h
          obtain hfound | ⟨e, he, heq⟩ := ih hrest x hx
          · obtain rfl | hfound := List.mem_cons.mp hfound
            · exact .inr ⟨_, .head _, rfl⟩
            · exact .inl hfound
          · exact .inr ⟨e, .tail _ he, heq⟩

/-- What is found in an array are its items. -/
theorem mem_of_findItems {items : List Outline} (h : findItems whole fields items = .ok found') :
    ∀ x ∈ found', x.2 ∈ items := by
  induction fields generalizing items found' with
  | nil =>
    cases items with
    | nil =>
      unfold findItems at h
      split at h
      next =>
        obtain rfl := Except.ok.inj h
        exact fun x hx ↦ absurd hx List.not_mem_nil
      next => contradiction
    | cons o items => contradiction
  | cons f fields ih =>
    intro x hx
    cases items with
    | nil =>
      unfold findItems at h
      split at h
      next => contradiction
      next =>
        split at h
        next => exact ih h x hx
        next => contradiction
    | cons o items =>
      obtain ⟨-, -, h⟩ := bind_eq_ok_iff.mp h
      obtain ⟨rest, hrest, h⟩ := bind_eq_ok_iff.mp h
      obtain rfl := Except.ok.inj h
      obtain rfl | hx := List.mem_cons.mp hx
      · exact .head _
      · exact .tail _ (ih hrest x hx)

end Json.Record

namespace Detector

variable {body : Bytes} {data : Json}

/-- The data are read of what has been found under their key. -/
theorem Envelope.data_of_build {found : Found} {status : Int} {message : Option String}
    (h : Envelope.parts.build found = .ok (status, message, data)) :
    data = .null ∨ ∃ x ∈ found, Decoder.member x.2 = .ok data := by
  obtain ⟨g, hg, h⟩ := bind_eq_ok_iff.mp h
  obtain ⟨x, hx, h⟩ := bind_eq_ok_iff.mp h
  obtain ⟨g', hg', hg⟩ := bind_eq_ok_iff.mp hg
  obtain ⟨message', -, hg⟩ := bind_eq_ok_iff.mp hg
  obtain ⟨_, ⟨⟩, hg'⟩ := bind_eq_ok_iff.mp hg'
  obtain ⟨status', -, hg'⟩ := bind_eq_ok_iff.mp hg'
  obtain rfl := Except.ok.inj hg'
  obtain rfl := Except.ok.inj hg
  obtain rfl : x = data := (Prod.mk.inj (Prod.mk.inj (Except.ok.inj h)).2).2
  change Record.fieldValue "data" Decoder.member (.ok .null) found = .ok x at hx
  unfold Record.fieldValue at hx
  split at hx
  next o hlookup =>
    obtain ⟨before, after, rfl, -⟩ := List.lookup_eq_some_iff.mp hlookup
    exact .inr ⟨("data", o), by simp, hx⟩
  next => exact .inl (Except.ok.inj hx).symm

/-- The numbers of data that an answer brings fit. -/
theorem Says.fitsWords {status : Int} (h : Says body status data) : data.FitsWords := by
  obtain ⟨message, hread⟩ := h
  have hscan := fitsWords_scan body
  unfold Decoder.ofBytes at hread
  generalize scan body = scanned at hscan hread
  obtain ⟨o, whole⟩ := scanned
  obtain ⟨parts, hparts, hwhole⟩ := bind_eq_ok_iff.mp hread
  obtain rfl : parts = (status, message, data) := by
    split at hwhole
    next => exact Except.ok.inj hwhole
    next => contradiction
  dsimp only at hscan hparts
  have hfrom {found : Found} (hfound : ∀ x ∈ found, x.2.FitsWords)
      (hbuild : Envelope.parts.build found = .ok (status, message, data)) : data.FitsWords := by
    obtain rfl | ⟨x, hx, hmember⟩ := Envelope.data_of_build hbuild
    · exact .null
    · exact fitsWords_of_value hmember (hfound x hx)
  cases o with
  | object entries whole =>
    obtain ⟨found, hfound, hbuild⟩ := bind_eq_ok_iff.mp hparts
    refine hfrom (fun x hx ↦ ?_) hbuild
    cases hscan with
    | object hentries =>
      obtain hnone | ⟨e, he, heq⟩ := Record.mem_of_findEntries hfound x hx
      · exact absurd hnone List.not_mem_nil
      · exact heq ▸ hentries e he
  | array items whole =>
    obtain ⟨found, hfound, hbuild⟩ := bind_eq_ok_iff.mp hparts
    refine hfrom (fun x hx ↦ ?_) hbuild
    cases hscan with
    | array hitems => exact hitems x.2 (Record.mem_of_findItems hfound x hx)
  | _ => contradiction

/-- The body of an answer that acknowledges a request and brings these data. -/
def bringing (data : Json) : Bytes :=
  Text.toBytes (Json.toText (.object [("status", .ofInt 200), ("data", data)]))

/-- What it says, if the data are none that a text could not give. -/
theorem exists_says_bringing (hwords : data.FitsWords) (hfits : data.Fits (Decoder.maxDepth - 1)) :
    ∃ data', Says (bringing data) 200 data' ∧ (data.mapDoubles Double.reread).Rearranges data' := by
  have hobject : (Json.object [("status", .ofInt 200), ("data", data)]).FitsWords := by
    refine .object ?_
    simp only [List.forall_mem_cons]
    exact ⟨.number ⟨by decide, by decide⟩, hwords, by simp⟩
  obtain ⟨data', hmember, hrearranged⟩ := (hfits.mapDoubles Double.reread).exists_value
  refine ⟨data', ⟨none, ?_⟩, hrearranged⟩
  rw [bringing, Decoder.ofBytes_toText hobject]
  change Envelope.parts.ofEntries [(some "status", .number (some (.int 200))),
    (some "data", .ofJson (data.mapDoubles Double.reread))] true = _
  have hchecked : Decoder.member (.ofJson (data.mapDoubles Double.reread)) = .ok data' := hmember
  generalize Outline.ofJson (data.mapDoubles Double.reread) = o at hchecked
  have hfound : Record.findEntries Envelope.parts.fields true []
      [(some "status", .number (some (.int 200))), (some "data", o)] =
        .ok [("data", o), ("status", .number (some (.int 200)))] := by
    change (Except.map (fun _ ↦ ()) (Decoder.member o) >>= fun _ ↦
      pure [("data", o), ("status", .number (some (.int 200)))]) = _
    rw [hchecked]
    rfl
  rw [Record.ofEntries, hfound]
  change (Decoder.member o >>= fun data ↦ pure ((200 : Int), (none : Option String), data)) = _
  rw [hchecked]
  rfl

end Detector

end RuleWatch
