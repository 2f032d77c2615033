import RuleWatch.Proofs.Api.Relay
import RuleWatch.Proofs.Detector.Passed
import RuleWatch.Proofs.Json.Plain
import RuleWatch.Proofs.Metric
import RuleWatch.Proofs.Monitor

/-!
# Passing views on a second time

What a client is told of the machines has the form of data that the detector could have brought. If
it comes back as such, with its members in any order, the same is read of it and the same is told
again. If it comes back as the text that it was told in, the same is told but for the doubles, each
of which is what the reader of numerals makes of its text (`Api.views_settle`); and that is not
always the same double (`Api.views_drift`).
-/

namespace RuleWatch

open Api (Endpoint Reply)
open Detector (Query bringing)
open Http (Form Request Response)
open Json (Decoder IsList)
open RuleWatch.Metric (IsSample Sample)
open Monitor (Capacity Containers Cpu IsNodeInfo IsNodeStatus IsTargets NodeInfo NodeStatus Target
  Targets)
open Result

/-! ## Queries -/

namespace Detector.Query

variable {α : Type} {q : Query α} {write : α → Json} {map : (Double → Double) → α → α}
  {R : Json → α → Prop}

/-- What data come to is what a relation says of them, and nothing if they are null. It is written
as data that come to the same; so they do, and are written in the same way, when they have been a
member of an answer. When they have been the text of one, they come to the same with each double
read again. -/
structure Settles (q : Query α) (write : α → Json) (map : (Double → Double) → α → α)
    (R : Json → α → Prop) : Prop where
  reads : ∀ data a,
    q.ofData data = .ok a ↔ data = .null ∧ a = q.empty ∨ data ≠ .null ∧ R data a
  again : ∀ data a, q.ofData data = .ok a →
    q.ofData (write a) = .ok a ∧ (q.map write).ofData (write a) = .ok (write a)
  passes : ∀ data a, q.ofData data = .ok a →
    ∃ data', Decoder.member.ofJson (write a) = .ok data' ∧ q.ofData data' = .ok a ∧
      (q.map write).ofData data' = .ok (write a)
  write_map : ∀ f a, write (map f a) = (write a).mapDoubles f
  finite : ∀ body a, q.read (some body) = .ok a → ∀ d ∈ (write a).doubles, d.isFinite
  rereads : ∀ body a, q.read (some body) = .ok a →
    q.read (some (bringing (write a))) = .ok (map Double.reread a)
  steady : ∀ data a, q.ofData data = .ok a → ∀ f,
    map f a = a ↔ ∀ d ∈ (write a).doubles, f d = d

theorem ofData_eq_ok_iff {d : Decoder α} {call : Call} {empty : α} (hreads : d.Reads R)
    (data : Json) (a : α) : ofData ⟨call, d.ofJson, empty⟩ data = .ok a ↔
      data = .null ∧ a = empty ∨ data ≠ .null ∧ R data a := by
  by_cases hdata : data = .null
  · subst hdata
    have hempty : ofData ⟨call, d.ofJson, empty⟩ .null = .ok empty := rfl
    simp [hempty, eq_comm]
  · rw [ofData_of_ne_null _ hdata, mapError_eq_ok_iff]
    simpa [hdata] using hreads data a

theorem read_eq_ok_iff {body : Bytes} {a : α} :
    q.read (some body) = .ok a ↔ ∃ data, Says body 200 data ∧ q.ofData data = .ok a := by
  simp only [← acknowledge_some_eq_ok_iff q.call]
  exact bind_eq_ok_iff

theorem settles {d : Decoder α} {call : Call} {empty : α} {room : Nat} (hreads : d.Reads R)
    (hsettles : Json.Settles R write map room) (hroom : room < Decoder.maxDepth)
    (hempty : ∃ v, R v empty ∧ v.FitsWords) (hnull : ∀ a, write a ≠ .null) :
    Settles ⟨call, d.ofJson, empty⟩ write map R := by
  let q : Query α := ⟨call, d.ofJson, empty⟩
  have hmeant {data a} (h : q.ofData data = .ok a) :
      ∃ v, R v a ∧ (data.FitsWords → v.FitsWords) := by
    obtain ⟨-, rfl⟩ | ⟨-, h⟩ := (ofData_eq_ok_iff hreads data a).mp h
    · exact hempty.imp fun v hv ↦ ⟨hv.1, fun _ ↦ hv.2⟩
    · exact ⟨data, h, id⟩
  have hdecodes {a w} (ha : R w a) (hw : (write a).Rearranges w) : q.ofData w = .ok a := by
    have hne : w ≠ .null := fun heq ↦ hnull _ (Json.eq_null_of_rearranges (heq ▸ hw))
    exact (ofData_eq_ok_iff hreads w _).mpr (.inr ⟨hne, ha⟩)
  have hself {v a w} (hv : R v a) (hw : (write a).Rearranges w) :
      q.ofData w = .ok a ∧ (q.map write).ofData w = .ok (write a) := by
    have hagain : q.ofData w = .ok a := hdecodes (hsettles.reads_self hv hw) hw
    exact ⟨hagain, by rw [ofData_map, hagain]; rfl⟩
  have hfits {v a} (hv : R v a) : (write a).Fits (Decoder.maxDepth - 1) :=
    (hsettles.fits hv).mono (Nat.le_pred_of_lt hroom)
  have hwords {body a} (h : q.read (some body) = .ok a) : ∃ v, R v a ∧ (write a).FitsWords := by
    obtain ⟨data, hsays, hdata⟩ := read_eq_ok_iff.mp h
    obtain ⟨v, hv, hword⟩ := hmeant hdata
    exact ⟨v, hv, hsettles.words hv (hword hsays.fitsWords)⟩
  refine
    { reads := ofData_eq_ok_iff hreads
      again := fun data a h ↦ ?again
      passes := fun data a h ↦ ?passes
      write_map := hsettles.write_map
      finite := fun body a h ↦ ?finite
      rereads := fun body a h ↦ ?rereads
      steady := fun data a h f ↦ ?steady }
  case again =>
    obtain ⟨v, hv, -⟩ := hmeant h
    exact hself hv (hsettles.fits hv).rearranges_self
  case passes =>
    obtain ⟨v, hv, -⟩ := hmeant h
    obtain ⟨w, hw, hrearranged⟩ := (hfits hv).exists_value
    exact ⟨w, hw, hself hv hrearranged⟩
  case finite =>
    obtain ⟨v, hv, hword⟩ := hwords h
    exact hword.isFinite
  case rereads =>
    obtain ⟨v, hv, hword⟩ := hwords h
    obtain ⟨data, hsays, hrearranged⟩ := exists_says_bringing hword (hfits hv)
    rw [← hsettles.write_map] at hrearranged
    have hdata := hdecodes (hsettles.reads Double.reread hv hrearranged) hrearranged
    exact read_eq_ok_iff.mpr ⟨data, hsays, hdata⟩
  case steady =>
    obtain ⟨v, hv, -⟩ := hmeant h
    rw [← Json.mapDoubles_eq_self_iff, ← hsettles.write_map]
    refine ⟨fun heq ↦ by rw [heq], fun heq ↦ ?_⟩
    -- What is written in one way is read in one way.
    have hsame : (write (map f a)).Rearranges (write a) :=
      heq ▸ (hsettles.fits hv).rearranges_self
    have hmapped := hdecodes (hsettles.reads f hv hsame) hsame
    obtain ⟨hagain, -⟩ := hself hv (hsettles.fits hv).rearranges_self
    exact Except.ok.inj (hmapped.symm.trans hagain)

theorem settles_forList {d : Decoder α} {room : Nat} (path : String)
    (params : List (String × String)) (hreads : d.Reads R)
    (hsettles : Json.Settles R write map room) (hroom : room + 1 < Decoder.maxDepth) :
    (forList path params d).Settles (.ofList write) (fun f ↦ List.map (map f)) (IsList R) :=
  settles hreads.list hsettles.list hroom ⟨_, Json.isList_nil, .array (by simp)⟩ nofun

theorem settles_targets : targets.Settles Targets.toJson Json.keep IsTargets :=
  settles Monitor.reads_targets Monitor.settles_targets (by decide)
    ⟨.object [], ⟨[], .object [], rfl⟩, .object (by simp)⟩ nofun

theorem settles_nodeInfo (machine : Option String) :
    (nodeInfo machine).Settles (.ofList NodeInfo.toJson) (fun f ↦ List.map (Json.keep f))
      (IsList IsNodeInfo) :=
  settles_forList _ _ Monitor.reads_nodeInfo Monitor.settles_nodeInfo (by decide)

theorem settles_nodeStatus (machine : Option String) :
    (nodeStatus machine).Settles (.ofList NodeStatus.toJson) (fun f ↦ List.map (.mapDoubles f))
      (IsList IsNodeStatus) :=
  settles_forList _ _ Monitor.reads_nodeStatus Monitor.settles_nodeStatus (by decide)

theorem settles_samples (path : String) (params : List (String × String)) :
    (forList path params Sample.record.decoder).Settles (.ofList Sample.toJson)
      (fun f ↦ List.map (.mapDoubles f)) (IsList IsSample) :=
  settles_forList _ _ Metric.reads_sample Metric.settles_sample (by decide)

/-- What is told of the answer to a query is told again of an answer that brings it, if not of its
text, then with each double read again. -/
structure TellsAgain (q : Query Json) : Prop where
  values : ∀ data told, q.ofData data = .ok told → q.ofData told = .ok told ∧
    ∃ data', Decoder.member.ofJson told = .ok data' ∧ q.ofData data' = .ok told
  texts : ∀ body told, q.read (some body) = .ok told → (∀ d ∈ told.doubles, d.isFinite) ∧
    q.read (some (bringing told)) = .ok (told.mapDoubles Double.reread)

theorem Settles.tellsAgain (h : q.Settles write map R) : (q.map write).TellsAgain where
  values data told htold := by
    rw [ofData_map] at htold
    obtain ⟨a, ha, rfl⟩ := map_eq_ok_iff.mp htold
    obtain ⟨data', hmember, -, hagain⟩ := h.passes data a ha
    exact ⟨(h.again data a ha).2, data', hmember, hagain⟩
  texts body told htold := by
    rw [read_map] at htold
    obtain ⟨a, ha, rfl⟩ := map_eq_ok_iff.mp htold
    refine ⟨h.finite body a ha, ?_⟩
    rw [read_map, h.rereads body a ha, ← h.write_map]
    rfl

end Detector.Query

/-! ## Endpoints -/

namespace Api

/-- An endpoint that tells what the detector says of the machines. -/
def Endpoint.IsView (e : Endpoint) : Prop :=
  e = .targets ∨ e.item? ≠ none

variable {gate : Expression.Gate} {e : Endpoint} {store : Store} {now : Int} {form : Form}
  {q : Query Json}

theorem Endpoint.IsView.relays (h : e.IsView) : e.relays := by
  rcases h with rfl | h
  · rfl
  · cases e with
    | nodeInfo | nodeStatus | nodeResources | nodeContainerStatus | clusterResources
    | clusterContainerStatus => rfl
    | _ => contradiction

theorem Endpoint.tellsAgain (hasked : e.asks? gate store now form = some q) (hview : e.IsView) :
    q.TellsAgain := by
  cases e with
  | targets =>
    obtain rfl := Option.some.inj hasked
    exact Query.settles_targets.tellsAgain
  | nodeInfo =>
    simp only [asks?, Option.bind_eq_bind, Option.pure_def, Option.bind_eq_some_iff] at hasked
    obtain ⟨machine, -, hq⟩ := hasked
    obtain rfl := Option.some.inj hq
    exact (Query.settles_nodeInfo machine).tellsAgain
  | nodeStatus =>
    simp only [asks?, Option.bind_eq_bind, Option.pure_def, Option.bind_eq_some_iff] at hasked
    obtain ⟨machine, -, hq⟩ := hasked
    obtain rfl := Option.some.inj hq
    exact (Query.settles_nodeStatus machine).tellsAgain
  | nodeContainerStatus =>
    simp only [asks?, Option.bind_eq_bind, Option.pure_def, Option.bind_eq_some_iff] at hasked
    obtain ⟨machine, -, hq⟩ := hasked
    obtain rfl := Option.some.inj hq
    exact (Query.settles_samples ..).tellsAgain
  | nodeResources | clusterResources | clusterContainerStatus =>
    simp only [asks?, Option.bind_eq_bind, Option.pure_def, Option.bind_eq_some_iff] at hasked
    obtain ⟨params, -, _, -, hq⟩ := hasked
    obtain rfl := Option.some.inj hq
    exact (Query.settles_samples ..).tellsAgain
  | _ => exact absurd hview (by simp [IsView, item?])

end Api

/-! ## Requests -/

/-- The response is a success, and the bytes of its body show the data. -/
structure Http.Response.Shows (response : Response) (data : Json) : Prop where
  status : response.status = 200
  body : ∃ trace, response.body.toBytes = Text.toBytes (Json.toText (.object
    [("code", .ofInt 0), ("message", .string "success"), ("trace_id", .string trace),
      ("data", data)]))

theorem Api.Reply.status_ofResult_ne {trace : String} {failure : Detector.Failure} :
    (Reply.ofResult trace (.error (.ofDetector failure))).status ≠ 200 := by
  unfold Failure.ofDetector
  split <;> simp [ofResult, ofFailure, Reply.failure, failureWith, Code.status]

namespace Server

variable {gate : Expression.Gate} {r : Request} {e : Endpoint} {world : World}

/-- What is read of the answer to a request for a view is told. -/
theorem shows_of_read (server : Server gate) (hview : e.IsView) (hmethod : r.method = .get)
    (hpath : r.path = e.path) {q : Query Json} {told : Json}
    (hasked : e.asks? gate world.store world.clock (Form.ofText r.formText) = some q)
    (hread : q.read (world.detector world.calls.length q.call) = .ok told) :
    ((server.serve r).run world).1.Shows told := by
  obtain ⟨trace, handled, hhandled, hstatus, hbody, -⟩ :=
    exists_relays_get server hview.relays hmethod hpath world
  rw [hasked] at hhandled
  cases hhandled with
  | asked hafter =>
    rw [hread] at hstatus hbody
    exact ⟨hstatus, trace, congrArg Http.Body.toBytes hbody⟩

/-- A request for a view succeeds only if something can be read of the answer. -/
theorem exists_read (server : Server gate) (hview : e.IsView) (hmethod : r.method = .get)
    (hpath : r.path = e.path) (hserved : ((server.serve r).run world).1.status = 200) :
    ∃ q told, e.asks? gate world.store world.clock (Form.ofText r.formText) = some q ∧
      q.read (world.detector world.calls.length q.call) = .ok told := by
  obtain ⟨trace, handled, hhandled, hstatus, -⟩ :=
    exists_relays_get server hview.relays hmethod hpath world
  rw [hserved] at hstatus
  generalize e.asks? gate world.store world.clock (Form.ofText r.formText) = asked at hhandled ⊢
  cases hhandled with
  | refused _ hrefused =>
    dsimp only at hstatus
    omega
  | @asked q =>
    cases hread : q.read (world.detector world.calls.length q.call) with
    | ok told => exact ⟨q, told, rfl, hread⟩
    | error failure =>
      rw [hread] at hstatus
      exact absurd hstatus.symm Reply.status_ofResult_ne

/-- A request for a view, made again when the detector brings what was told the first time. -/
theorem shows_again (server : Server gate) (hview : e.IsView) (hmethod : r.method = .get)
    (hpath : r.path = e.path) (body : Bytes) :
    let serve (answer : Bytes) : Response :=
      ((server.serve r).run { world with detector := fun _ _ ↦ some answer }).1
    (serve body).status = 200 → ∃ q told,
      e.asks? gate world.store world.clock (Form.ofText r.formText) = some q ∧
      q.read (some body) = .ok told ∧ (serve body).Shows told ∧
      (serve (bringing told)).Shows (told.mapDoubles Double.reread) := by
  intro serve hserved
  obtain ⟨q, told, hasked, hread⟩ := exists_read server hview hmethod hpath hserved
  have hagain := ((Endpoint.tellsAgain hasked hview).texts body told hread).2
  exact ⟨q, told, hasked, hread, shows_of_read server hview hmethod hpath hasked hread,
    shows_of_read server hview hmethod hpath hasked hagain⟩

end Server

namespace Api

/-- Whatever the detector says of the machines, what is read of it is written so that the same is
read again and written in the same way. A version of the kernel is written under its new key alone,
and a value or values only if some were given; everything else is written whether it was given or
not. So a view that is passed on a second time is told as it was the first time, but for the doubles
if it is passed on as a text: each of them, finite as they are, is then what is read of its own
text, and nothing changes just if this is the double itself. It is if the double is the one nearest
to a decimal of no more than fourteen digits, none of them too far behind the point. -/
theorem views_settle :
    (Query.targets.Settles Targets.toJson Json.keep IsTargets ∧
      (∀ machine, (Query.nodeInfo machine).Settles (.ofList NodeInfo.toJson)
        (fun f ↦ List.map (Json.keep f)) (IsList IsNodeInfo)) ∧
      (∀ machine, (Query.nodeStatus machine).Settles (.ofList NodeStatus.toJson)
        (fun f ↦ List.map (.mapDoubles f)) (IsList IsNodeStatus)) ∧
      ∀ path params, (Query.forList path params Sample.record.decoder).Settles
        (.ofList Sample.toJson) (fun f ↦ List.map (.mapDoubles f)) (IsList IsSample)) ∧
    (∀ members n, NodeInfo.record.decoder.ofJson (.object members) = .ok n →
      n.toJson.keys = ["instance", "arch", "kernel_version", "os_version"] ∧
        ∀ v, ("kernal_version", v) ∈ members → v = .string n.kernelVersion) ∧
    (∀ members s, Sample.record.decoder.ofJson (.object members) = .ok s →
      ("value" ∈ s.toJson.keys ↔ ∃ v, ("value", v) ∈ members ∧ v ≠ .null) ∧
        ("values" ∈ s.toJson.keys ↔ ∃ v, ("values", v) ∈ members ∧ v ≠ .array [])) ∧
    ((∀ t : Targets, t.toJson.keys = ["targets"]) ∧
      (∀ t : Target, t.toJson.keys = ["instance", "status"]) ∧
      (∀ n : NodeStatus, n.toJson.keys = ["instance", "container", "cpu", "memory", "disk"]) ∧
      (∀ c : Containers, c.toJson.keys = ["running", "total"]) ∧
      (∀ c : Cpu, c.toJson.keys = ["usage", "used_core", "total_core", "number_cores"]) ∧
      ∀ c : Capacity, c.toJson.keys = ["usage", "used_bytes", "total_bytes"]) ∧
    ((∀ d : Double, d.isFinite →
        Decoder.double.ofBytes (Text.toBytes (Json.ofDouble d).toText) = .ok d.reread) ∧
      (∀ (negative : Bool) (digits k : Nat), digits ≤ 10 ^ 14 → k ≤ 22 →
        (Double.ofDecimal negative digits (-k)).reread = Double.ofDecimal negative digits (-k)) ∧
      ∀ told : Json, told.mapDoubles Double.reread = told ↔ ∀ d ∈ told.doubles, d.reread = d) ∧
    (∀ (gate : Expression.Gate) (e : Endpoint) (store : Store) (now : Int) (form : Form)
      (q : Query Json), e.asks? gate store now form = some q → e.IsView → q.TellsAgain) ∧
    ∀ (gate : Expression.Gate) (server : Server gate) (r : Request) (e : Endpoint) (world : World)
      (body : Bytes), e.IsView → r.method = .get → r.path = e.path →
        let serve (answer : Bytes) : Response :=
          ((server.serve r).run { world with detector := fun _ _ ↦ some answer }).1
        (serve body).status = 200 → ∃ q told,
          e.asks? gate world.store world.clock (Form.ofText r.formText) = some q ∧
          q.read (some body) = .ok told ∧ (serve body).Shows told ∧
          (serve (bringing told)).Shows (told.mapDoubles Double.reread) :=
  ⟨⟨Query.settles_targets, Query.settles_nodeInfo, Query.settles_nodeStatus,
      Query.settles_samples⟩,
    fun _ _ h ↦ ⟨rfl, fun _ ↦ Monitor.kernelVersion_of_decoder h⟩,
    fun _ _ ↦ Metric.mem_keys_of_decoder,
    ⟨fun _ ↦ rfl, fun _ ↦ rfl, fun _ ↦ rfl, fun _ ↦ rfl, fun _ ↦ rfl, fun _ ↦ rfl⟩,
    ⟨fun _ ↦ Decoder.ofBytes_ofDouble, fun negative _ _ ↦ Json.reread_ofDecimal negative,
      Json.mapDoubles_eq_self_iff⟩,
    fun _ _ _ _ _ _ ↦ Endpoint.tellsAgain,
    fun _ server _ _ _ body hview hmethod hpath ↦
      Server.shows_again server hview hmethod hpath body⟩

/-- The version of the kernel under its old key, a member that nobody knows, a record as an array
and an integer for a point in time: once passed on, nothing of this is left to change. A tenth is
read again of its text. -/
theorem views_settle_of_platform :
    let data : Json := .array [.object [("kernal_version", .string "6.1"), ("rack", .null)],
      .array [.string "a"]]
    let infos : List NodeInfo := [⟨"", "", "6.1", ""⟩, ⟨"a", "", "", ""⟩]
    let platforms := Query.nodeInfo none
    let body := Text.toBytes
      "\x7b\"status\":200,\"data\":[\x7b\"value\":[1,\"0.5\"],\"values\":[]\x7d]\x7d"
    let samples : List Sample := [⟨[], some ⟨.ofInt 1, "0.5"⟩, []⟩]
    let resources := Query.clusterResources ⟨0, 60, 1⟩
    let r : Request := ⟨.get, "/api/v1/monitor/cluster_resources?start_time=0&end_time=60&step=1",
      [], []⟩
    let world : World := .fresh 0 (fun _ _ ↦ none) fun _ ↦ .replicate drawLength 0
    let server : Server := ⟨0⟩
    let serve (answer : Bytes) : Response :=
      ((server.serve r).run { world with detector := fun _ _ ↦ some answer }).1
    (platforms.ofData data = .ok infos ∧
      platforms.ofData (.ofList NodeInfo.toJson infos) = .ok infos) ∧
    (resources.read (some body) = .ok samples ∧
      resources.read (some (bringing (.ofList Sample.toJson samples))) = .ok samples) ∧
    (Double.ofDecimal false 1 (-1)).reread = Double.ofDecimal false 1 (-1) ∧
    (serve body).status = 200 ∧
      ∃ told, (serve body).Shows told ∧
        (serve (bringing told)).Shows (told.mapDoubles Double.reread) := by
  intro data infos platforms body samples resources r world server serve
  have hdata : platforms.ofData data = .ok infos := by rfl
  have hbody : resources.read (some body) = .ok samples := by decide +kernel
  have hone : samples.map (.mapDoubles Double.reread) = samples := by decide +kernel
  have hview : Endpoint.clusterResources.IsView := .inr nofun
  have hpath : r.path = Endpoint.clusterResources.path := by decide +kernel
  have hserved : (serve body).status = 200 := by decide +kernel
  obtain ⟨⟨-, hplatforms, -, hsamples⟩, -, -, -, ⟨-, hdecimals, -⟩, -, hserve⟩ := views_settle
  obtain ⟨-, told, -, -, htold, hagain⟩ :=
    hserve _ server r _ world body hview rfl hpath hserved
  exact ⟨⟨hdata, ((hplatforms none).again data infos hdata).1⟩,
    ⟨hbody, ((hsamples _ _).rereads body samples hbody).trans (congrArg _ hone)⟩,
    hdecimals false 1 1 (by decide) (by decide), hserved, told, htold, hagain⟩

/-- The load of a processor that is passed on as a text comes back as the next double, and is told
as such. -/
theorem views_drift :
    let body := Text.toBytes
      "\x7b\"status\":200,\"data\":[\x7b\"cpu\":\x7b\"usage\":0.12345734334400866\x7d\x7d]\x7d"
    let load : Double := ⟨0x3FBF9AE6841D124D⟩
    let next : Double := ⟨0x3FBF9AE6841D124E⟩
    let status (usage : Double) : NodeStatus :=
      ⟨"", ⟨0, 0⟩, { Cpu.empty with usage }, .empty, .empty⟩
    let told (usage : Double) : Json := .ofList NodeStatus.toJson [status usage]
    let q := Query.nodeStatus none
    let r : Request := ⟨.get, "/api/v1/monitor/node_status", [], []⟩
    let world : World := .fresh 0 (fun _ _ ↦ none) fun _ ↦ .replicate drawLength 0
    let server : Server := ⟨0⟩
    let serve (answer : Bytes) : Response :=
      ((server.serve r).run { world with detector := fun _ _ ↦ some answer }).1
    (q.read (some body) = .ok [status load] ∧
      q.read (some (bringing (told load))) = .ok [status next]) ∧
    ((serve body).Shows (told load) ∧ (serve (bringing (told load))).Shows (told next)) ∧
    (Json.ofDouble load).toText = "0.12345734334400867" ∧
      (Json.ofDouble next).toText = "0.12345734334400868" := by
  intro body load next status told q r world server serve
  have hbody : q.read (some body) = .ok [status load] := by decide +kernel
  have hnext : [status load].map (.mapDoubles Double.reread) = [status next] := by decide +kernel
  have hagain : q.read (some (bringing (told load))) = .ok [status next] :=
    ((Query.settles_nodeStatus none).rereads body _ hbody).trans (congrArg _ hnext)
  have hview : Endpoint.nodeStatus.IsView := .inr nofun
  have hpath : r.path = Endpoint.nodeStatus.path := by decide +kernel
  have hmachine : Params.machine (Form.ofText r.formText) = .ok none := by decide +kernel
  have hasked : Endpoint.nodeStatus.asks? Expression.check world.store world.clock
      (Form.ofText r.formText) = some (q.map (.ofList NodeStatus.toJson)) := by
    rw [Endpoint.asks?, hmachine]
    rfl
  have hshows (answer : Bytes) (usage : Double) (h : q.read (some answer) = .ok [status usage]) :
      (serve answer).Shows (told usage) := by
    refine Server.shows_of_read server hview rfl hpath hasked ?_
    rw [Query.read_map]
    exact congrArg _ h
  exact ⟨⟨hbody, hagain⟩, ⟨hshows _ _ hbody, hshows _ _ hagain⟩, by decide +kernel⟩

end Api

end RuleWatch
