import RuleWatch.Proofs.Api.Reachable
import RuleWatch.Proofs.Rule.Amended
import RuleWatch.Proofs.Service.Update
import RuleWatch.Proofs.Store.Apart
import RuleWatch.Proofs.Work.Serial

/-!
# Disjoint changes

Changes of one rule that have no part in common may be made at the same time: each is refused or
kept as if it were alone, and in the end the rule is what it is after them in any order. A change
may check what it makes of a rule that is out of date by then, but not in a part that it names, and
the other parts pass the check before and after.

* `Crowd.IsAmending`: what holds all through a run of such changes.
* `Crowd.IsAmending.isDecided`: a change ends as the store at the start decides.
* `Crowd.IsAmendedBy.exists_row`: two runs of the same changes leave the same rule.
-/

namespace RuleWatch

open Detector (ruleSetChanged)
open Service (announced)
open Service.Rules (MayUpdate UpdateEnds)
open Store (AgreesBut storedDraft)

/-- What came back from an operation is what a change of the rule could expect before any other. -/
def Store.Operation.IsExpected (gate : Expression.Gate) (origin : Store) (id : Int) (kept : Rule)
    (changes : Rule.Changes) : (op : Operation) → op.Answer → Prop
  | .findRule _, answer => ∃ row, answer = some row ∧ Rule.Spares gate changes kept row
  | .updateRule .., .ok _ => origin.refusal? gate id changes = none
  | .updateRule .., .error failure => origin.refusal? gate id changes = some (.ofStore failure)
  | _, _ => True

/-- What came back from a deed is what a change of the rule could expect before any other. -/
def Deed.IsExpected (gate : Expression.Gate) (origin : World) (id : Int) (kept : Rule)
    (changes : Rule.Changes) : Deed → Prop
  | ⟨.store op, answer⟩ => op.IsExpected gate origin.store id kept changes answer
  | ⟨.ask call, answer⟩ => ∃ n, answer = origin.detector n call
  | _ => True

namespace Crowd

variable {gate : Expression.Gate} {origin world : World} {id : Int} {kept : Rule}
  {requests : List Rule.Changes} {history : List (Nat × Deed)} {changes : Rule.Changes}
  {place : Nat}

/-- What holds all through a run in which a rule is changed by disjoint changes. -/
structure IsAmending (gate : Expression.Gate) (origin : World) (id : Int) (kept : Rule)
    (requests : List Rule.Changes) (world : World) (history : List (Nat × Deed)) : Prop where
  known : ∀ entry ∈ history, entry.1 < requests.length
  detector_eq : world.detector = origin.detector
  sound : world.store.Sound gate
  agrees : AgreesBut id origin.store world.store
  row : ∃ row, world.store.findRule id = some row ∧
    kept.IsAmended requests (fun place ↦ hasChanged (deedsOf history place)) row
  expected : ∀ {place : Nat} {changes : Rule.Changes} {d : Deed}, requests[place]? = some changes →
    d ∈ deedsOf history place → d.IsExpected gate origin id kept changes

namespace IsAmending

theorem start (hsound : origin.store.Sound gate) (hkept : origin.store.findRule id = some kept) :
    IsAmending gate origin id kept [] origin [] where
  known := by simp
  detector_eq := rfl
  sound := hsound
  agrees := .refl
  row := ⟨kept, hkept, .refl⟩
  expected := by simp

/-- One more request has not changed anything yet. -/
theorem arrival (h : IsAmending gate origin id kept requests world history)
    (hall : (requests ++ [changes]).Pairwise Rule.Changes.Disjoint) :
    IsAmending gate origin id kept (requests ++ [changes]) world history := by
  have hnone : deedsOf history requests.length = [] := deedsOf_eq_nil h.known (Nat.le_refl _)
  obtain ⟨row, hrow, hamended⟩ := h.row
  constructor
  case known =>
    intro entry hentry
    have := h.known entry hentry
    simp only [List.length_append, List.length_singleton]
    omega
  case detector_eq => exact h.detector_eq
  case sound => exact h.sound
  case agrees => exact h.agrees
  case row => exact ⟨row, hrow, hamended.append hall (by simp [hnone])⟩
  case expected =>
    intro place other d hplace hd
    obtain hold | ⟨rfl, rfl⟩ := getElem?_concat_cases hplace
    · exact h.expected hold hd
    · simp [hnone] at hd

/-- What a deed of the request at a place adds. -/
theorem append (h : IsAmending gate origin id kept requests world history)
    (hplace : requests[place]? = some changes) {d : Deed} {world' : World}
    (hdetector : world'.detector = world.detector) (hsound : world'.store.Sound gate)
    (hagrees : AgreesBut id world.store world'.store)
    (hrow : ∃ row, world'.store.findRule id = some row ∧ kept.IsAmended requests
      (fun other ↦ hasChanged (deedsOf (history ++ [(place, d)]) other)) row)
    (hexpected : d.IsExpected gate origin id kept changes) :
    IsAmending gate origin id kept requests world' (history ++ [(place, d)]) where
  known entry hentry := by
    rcases List.mem_append.mp hentry with hold | hnew
    · exact h.known entry hold
    · rw [List.mem_singleton.mp hnew]
      exact (List.getElem?_eq_some_iff.mp hplace).1
  detector_eq := hdetector.trans h.detector_eq
  sound := hsound
  agrees := h.agrees.trans hagrees
  row := hrow
  expected {other changes' d'} hother hd' := by
    rcases List.mem_append.mp (mem_deedsOf.mp hd') with hold | hnew
    · exact h.expected hother (mem_deedsOf.mpr hold)
    · obtain ⟨rfl, rfl⟩ := Prod.mk.inj (List.mem_singleton.mp hnew)
      obtain rfl := Option.some.inj (hplace.symm.trans hother)
      exact hexpected

/-- A deed that changes nothing. -/
theorem append_quiet (h : IsAmending gate origin id kept requests world history)
    (hplace : requests[place]? = some changes) {d : Deed} {world' : World}
    (hdetector : world'.detector = world.detector) (hstore : world'.store = world.store)
    (hquiet : d.changed? = none) (hexpected : d.IsExpected gate origin id kept changes) :
    IsAmending gate origin id kept requests world' (history ++ [(place, d)]) := by
  have hsame : ∀ other, hasChanged (deedsOf (history ++ [(place, d)]) other) =
      hasChanged (deedsOf history other) := by
    intro other
    by_cases heq : place = other
    · subst heq
      rw [deedsOf_append_self, hasChanged_append_singleton, hquiet]
      simp
    · rw [deedsOf_append_of_ne heq]
  obtain ⟨row, hrow, hamended⟩ := h.row
  refine h.append hplace hdetector (hstore ▸ h.sound) (hstore ▸ .refl) ?_ hexpected
  exact ⟨row, hstore ▸ hrow, by simpa only [hsame] using hamended⟩

/-- A change that has done nothing yet finds the parts that it names as they were at first. -/
theorem spares (h : IsAmending gate origin id kept requests world history)
    (hplace : requests[place]? = some changes) (hdeeds : deedsOf history place = []) {row : Rule}
    (hrow : world.store.findRule id = some row) : Rule.Spares gate changes kept row where
  sound := h.sound.drafts row (Store.mem_of_findRule hrow)
  part_eq p hp := by
    obtain ⟨found, hfound, hamended⟩ := h.row
    obtain rfl := Option.some.inj (hrow.symm.trans hfound)
    simpa [hdeeds] using hamended.part_of_names hplace hp

/-- A change that has been checked is refused for its name or written, as it would have been before
any other. -/
theorem append_write (h : IsAmending gate origin id kept requests world history)
    (horigin : origin.store.Sound gate) (hkept : origin.store.findRule id = some kept)
    (hall : requests.Pairwise Rule.Changes.Disjoint) (hplace : requests[place]? = some changes)
    {stale : Rule} (hread : deedsOf history place = [⟨.store (.findRule id), some stale⟩])
    (hcheck : (stale.merged changes).checkBy gate = .ok ()) :
    let write : Step := .store (.updateRule id changes (stale.merged changes))
    IsAmending gate origin id kept requests (world.perform write).2
      (history ++ [(place, ⟨write, (world.perform write).1⟩)]) := by
  intro write
  -- what it has read may be out of date, but spares the parts that it names
  obtain ⟨_, hstale, hspares⟩ := h.expected hplace (hread ▸ List.mem_singleton_self _)
  obtain rfl := Option.some.inj hstale
  obtain ⟨row, hrow, hamended⟩ := h.row
  have hsound : (world.perform write).2.store.Sound gate :=
    h.sound.updateRule (Rule.isSound_merged hcheck)
  obtain ⟨hrefused, heq⟩ | ⟨hfree, written, hid, hcreated, hpart, heq⟩ :=
    Store.updateRule_of_spares world.clock horigin h.sound h.agrees hkept hrow hspares hcheck
  · have hperform : world.perform write = (.error Store.nameTaken, world) := by
      simp only [write, World.perform, Store.perform, heq]
    rw [hperform]
    exact h.append_quiet hplace rfl rfl rfl hrefused
  · have hperform : world.perform write = (.ok written, { world with store :=
        { world.store with rules := world.store.rules.replace Listing.RuleField written } }) := by
      simp only [write, World.perform, Store.perform, heq]
    rw [hperform] at hsound ⊢
    have hwritten : written.id = row.id := hid.trans (Store.id_of_findRule hrow).symm
    refine h.append hplace rfl hsound (Store.agreesBut_replace hid)
      ⟨written, Store.findRule_replace hrow hid, ?_⟩ hfree
    refine hamended.write hall hplace hwritten hcreated hpart ?_ fun other hother ↦ ?_
    · rw [deedsOf_append_self, hasChanged_append_singleton]
      exact Bool.or_true _
    · rw [deedsOf_append_of_ne hother.symm]

/-- Only the rules matter, and the detector. -/
theorem of_rules_eq (h : IsAmending gate origin id kept requests world history) {world' : World}
    (hdetector : world'.detector = world.detector)
    (hrules : world'.store.rules = world.store.rules) :
    IsAmending gate origin id kept requests world' history where
  known := h.known
  detector_eq := hdetector.trans h.detector_eq
  sound := h.sound.of_rules_eq hrules
  agrees := by
    have hagrees := h.agrees
    rwa [AgreesBut, ← hrules] at hagrees
  row := by
    have hrow := h.row
    rwa [Store.findRule, ← hrules] at hrow
  expected := h.expected

end IsAmending

/-- No step of a change, and nothing else that happens, keeps disjoint changes from amending the
rule. -/
theorem invariant_amending (horigin : origin.store.Sound gate)
    (hkept : origin.store.findRule id = some kept) :
    Invariant (MayUpdate gate id) fun requests world history ↦
      requests.Pairwise Rule.Changes.Disjoint →
        IsAmending gate origin id kept requests world history where
  arrival _ h hall := (h (List.pairwise_append.mp hall).1).arrival hall
  clock _ h hall := (h hall).of_rules_eq rfl rfl
  episode _ h hall := (h hall).of_rules_eq rfl rfl
  step {requests world history place changes s} hplace hmay h hall := by
    specialize h hall
    cases s with
    | store op =>
      cases op with
      | findRule target =>
        obtain ⟨rfl, hdeeds⟩ := hmay
        obtain ⟨row, hrow, -⟩ := h.row
        exact h.append_quiet hplace rfl rfl rfl ⟨row, hrow, h.spares hplace hdeeds hrow⟩
      | updateRule target changes' draft =>
        obtain ⟨rfl, rfl, stale, hread, rfl, hcheck⟩ := hmay
        exact h.append_write horigin hkept hall hplace hread hcheck
      | _ => exact hmay.elim
    | ask call =>
      have hanswer : (world.perform (.ask call)).1 = origin.detector world.calls.length call :=
        congrFun (congrFun h.detector_eq _) _
      exact h.append_quiet hplace rfl rfl rfl ⟨_, hanswer⟩
    | _ => exact h.append_quiet hplace rfl rfl rfl trivial

/-! ## Verdicts -/

/-- A change ends as the store at the start decides, and as the detector answers. -/
structure IsDecided (gate : Expression.Gate) (origin : World) (id : Int) (changes : Rule.Changes)
    (deeds : List Deed) (result : Except Failure Rule) : Prop where
  refusal?_eq : Service.refusal? result = origin.store.refusal? gate id changes
  hasChanged_eq : hasChanged deeds = (origin.store.refusal? gate id changes).isNone
  told : origin.store.refusal? gate id changes = none →
    ∃ n, (fun _ ↦ ()) <$> result = announced id (origin.detector n ruleSetChanged) ()

/-- A change that has come to its end has come to the one that was decided at the start. -/
theorem IsAmending.isDecided (h : IsAmending gate origin id kept requests world history)
    (horigin : origin.store.Sound gate) (hkept : origin.store.findRule id = some kept)
    (hplace : requests[place]? = some changes) {result : Except Failure Rule}
    (hends : UpdateEnds gate id changes (deedsOf history place) result) :
    IsDecided gate origin id changes (deedsOf history place) result := by
  cases hends with
  | missed hread =>
    obtain ⟨_, hnone, -⟩ := h.expected hplace hread
    contradiction
  | @invalid row reason hread hquiet hcheck =>
    obtain ⟨_, hrow, hspares⟩ := h.expected hplace hread
    obtain rfl := Option.some.inj hrow
    have hkeptSound := horigin.drafts kept (Store.mem_of_findRule hkept)
    have hrefusal : origin.store.refusal? gate id changes = some (.invalidRule reason) :=
      Store.refusal?_of_error hkept (hspares.checkBy_eq hkeptSound ▸ hcheck)
    exact ⟨hrefusal.symm, by rw [hquiet, hrefusal]; rfl, by simp [hrefusal]⟩
  | @refused draft failure hwrite hquiet =>
    have hrefusal : origin.store.refusal? gate id changes = some (.ofStore failure) :=
      h.expected hplace hwrite
    exact ⟨Service.refusal?_ofStore.trans hrefusal.symm, by rw [hquiet, hrefusal]; rfl,
      by simp [hrefusal]⟩
  | @kept draft rule answer hwrite htold =>
    have hrefusal : origin.store.refusal? gate id changes = none := h.expected hplace hwrite
    obtain ⟨n, hanswer⟩ := h.expected hplace htold
    refine ⟨Service.refusal?_announced.trans hrefusal.symm, ?_, fun _ ↦ ⟨n, ?_⟩⟩
    · rw [hasChanged_of_mem hwrite rfl, hrefusal]
      rfl
    · rw [Service.map_announced, hanswer]

/-- Both results are the same refusal, or none of them is one. If the detector gives the same answer
whenever it is asked, then they are the same but for the rule that comes back. -/
def Alike (detector : Detector.Behaviour) (result result' : Except Failure Rule) : Prop :=
  Service.refusal? result = Service.refusal? result' ∧
    ((∀ n n' : Nat, detector n = detector n') →
      (fun _ ↦ ()) <$> result = (fun _ ↦ ()) <$> result')

/-- A change that is decided is decided once and for all. -/
theorem IsDecided.alike {deeds deeds' : List Deed} {result result' : Except Failure Rule}
    (h : IsDecided gate origin id changes deeds result)
    (h' : IsDecided gate origin id changes deeds' result') :
    Alike origin.detector result result' := by
  refine ⟨h.refusal?_eq.trans h'.refusal?_eq.symm, fun hsteady ↦ ?_⟩
  cases hrefusal : origin.store.refusal? gate id changes with
  | none =>
    obtain ⟨n, htold⟩ := h.told hrefusal
    obtain ⟨n', htold'⟩ := h'.told hrefusal
    rw [htold, htold', hsteady n n']
  | some failure =>
    rw [Service.eq_of_refusal? (h.refusal?_eq.trans hrefusal),
      Service.eq_of_refusal? (h'.refusal?_eq.trans hrefusal)]

/-! ## Runs -/

variable {c c' : Crowd Rule.Changes (Except Failure Rule)}

/-- A run in which a rule is changed by disjoint changes, seen from its start. -/
structure IsAmendedBy (gate : Expression.Gate) (origin : World) (id : Int) (kept : Rule)
    (c : Crowd Rule.Changes (Except Failure Rule)) : Prop where
  amending : IsAmending gate origin id kept c.requests c.world c.history
  decided : ∀ {place changes result}, c.members[place]? = some (changes, .done result) →
    IsDecided gate origin id changes (deedsOf c.history place) result

theorem isAmendedBy_run (horigin : origin.store.Sound gate)
    (hkept : origin.store.findRule id = some kept) (events : List (Event Rule.Changes)) :
    let c := (start origin).run (fun changes ↦ (Service.Rules.update gate id changes).run) events
    c.requests.Pairwise Rule.Changes.Disjoint → c.IsAmendedBy gate origin id kept := by
  intro c hall
  have hserve := Service.Rules.keeps_update_ends gate id
  have hamending := (invariant_amending horigin hkept).run hserve
    (fun _ ↦ IsAmending.start horigin hkept) events hall
  have hobeys : c.Obeys (MayUpdate gate id) (UpdateEnds gate id) :=
    (obeys_start origin).run hserve events
  refine ⟨hamending, fun {place changes result} hdone ↦ ?_⟩
  have hplace : c.requests[place]? = some changes := by simp [requests, hdone]
  exact hamending.isDecided horigin hkept hplace (hobeys.keeps hdone)

/-- Once all changes have come to their ends, those have been written that were not refused. -/
theorem IsAmendedBy.hasChanged_eq (h : c.IsAmendedBy gate origin id kept) (hsettled : c.isSettled)
    (hplace : c.requests[place]? = some changes) :
    hasChanged (deedsOf c.history place) = (origin.store.refusal? gate id changes).isNone := by
  have hlt : place < c.members.length := by
    simpa [requests] using (List.getElem?_eq_some_iff.mp hplace).1
  obtain ⟨changes', result, hdone⟩ := exists_done hsettled hlt
  obtain rfl : changes' = changes := by simpa [requests, hdone] using hplace
  exact (h.decided hdone).hasChanged_eq

/-- Two runs of the same changes, come to their ends, leave the same rule, and what has not been
refused is in it. -/
theorem IsAmendedBy.exists_row (h : c.IsAmendedBy gate origin id kept)
    (h' : c'.IsAmendedBy gate origin id kept) (hall : c.requests.Perm c'.requests)
    (hsettled : c.isSettled) (hsettled' : c'.isSettled) :
    ∃ row row', c.world.store.findRule id = some row ∧ c'.world.store.findRule id = some row' ∧
      row' = { row with updatedAt := row'.updatedAt } ∧
      ∀ changes ∈ c.requests, origin.store.refusal? gate id changes = none →
        ∀ p : Rule.Part, changes.names p →
          row.part p = (storedDraft (kept.merged changes)).part p := by
  obtain ⟨row, hrow, hamended⟩ := h.amending.row
  obtain ⟨row', hrow', hamended'⟩ := h'.amending.row
  refine ⟨row, row', hrow, hrow', Rule.eq_of_part_eq (fun p ↦ ?_) ?_ ?_, ?_⟩
  · exact hamended.part_eq_of_perm hamended' hall (h.hasChanged_eq hsettled)
      (h'.hasChanged_eq hsettled') p
  · rw [hamended.id_eq, hamended'.id_eq]
  · rw [hamended.createdAt_eq, hamended'.createdAt_eq]
  · intro changes hmem hrefusal p hp
    obtain ⟨place, hplace⟩ := List.getElem?_of_mem hmem
    rw [hamended.part_of_names hplace hp, h.hasChanged_eq hsettled hplace, hrefusal]
    rfl

/-- A run in which a rule is changed comes to the same as changes of it that are made one after
another. -/
structure Agrees (gate : Expression.Gate) (origin : World) (id : Int) (kept : Rule)
    (c : Crowd Rule.Changes (Except Failure Rule))
    (serial : List (Rule.Changes × Except Failure Rule) × World) : Prop where
  /-- Each change is refused, or not, as the store at the start decides. -/
  verdict : ∀ changes result, (changes, .done result) ∈ c.members →
    Service.refusal? result = origin.store.refusal? gate id changes
  alike : ∀ changes result result', (changes, .done result) ∈ c.members →
    (changes, result') ∈ serial.1 → Alike origin.detector result result'
  /-- In the end the rule is the same, but for the time of its last change. What has not been
  refused is in it. -/
  row : c.isSettled → ∃ row row', c.world.store.findRule id = some row ∧
    serial.2.store.findRule id = some row' ∧ row' = { row with updatedAt := row'.updatedAt } ∧
    ∀ changes ∈ c.requests, origin.store.refusal? gate id changes = none →
      ∀ p : Rule.Part, changes.names p → row.part p = (storedDraft (kept.merged changes)).part p

end Crowd

/-- Two changes of a rule that have no part in common are made at the same time, and nothing else
is, in a store that is reachable. In whatever order their steps are done, each of them is refused or
kept as it is when they are made one after another, in either order, and as the store at the start
decides; and once both have come to their ends the rule is the same but for the time of its last
change. -/
theorem agrees_of_disjoint (server : Server) {store : Store} (h : server.Reaches store) {id : Int}
    {kept : Rule} (hkept : store.findRule id = some kept) {changes changes' : Rule.Changes}
    (hdisjoint : changes.Disjoint changes') {world : World} (hstore : world.store = store)
    (events : List (Crowd.Event Rule.Changes)) (order : List (Int × Rule.Changes))
    (horder : (order.map Prod.snd).Perm [changes, changes']) :
    let serve := fun c : Rule.Changes ↦ (Service.Rules.update Expression.check id c).run
    let crowd := (Crowd.start world).run serve events
    let serial := world.serially serve order
    crowd.requests.Perm [changes, changes'] →
      crowd.Agrees Expression.check world id kept serial := by
  intro serve crowd serial hrequests
  subst hstore
  have hpair : [changes, changes'].Pairwise Rule.Changes.Disjoint :=
    List.pairwise_pair.mpr hdisjoint
  have hall : ∀ {all : List Rule.Changes}, all.Perm [changes, changes'] →
      all.Pairwise Rule.Changes.Disjoint :=
    fun hperm ↦ (hperm.pairwise_iff Rule.Changes.Disjoint.symm).mpr hpair
  -- one after another is another way of being served side by side
  obtain ⟨events', hworld, hmembers⟩ := world.exists_run_eq_serially serve order
  let other := (Crowd.start world).run serve events'
  have hother : other.requests = order.map Prod.snd := by
    rw [Crowd.requests, hmembers, List.map_map]
    exact World.map_fst_serially
  have hcrowd := Crowd.isAmendedBy_run h.sound hkept events (hall hrequests)
  have hserial := Crowd.isAmendedBy_run h.sound hkept events' (hall (hother ▸ horder))
  constructor
  case verdict =>
    intro c result hdone
    obtain ⟨place, hplace⟩ := List.getElem?_of_mem hdone
    exact (hcrowd.decided hplace).refusal?_eq
  case alike =>
    intro c result result' hdone hdone'
    have hmem : (c, Work.done result') ∈ other.members :=
      hmembers ▸ List.mem_map.mpr ⟨_, hdone', rfl⟩
    obtain ⟨place, hplace⟩ := List.getElem?_of_mem hdone
    obtain ⟨place', hplace'⟩ := List.getElem?_of_mem hmem
    exact (hcrowd.decided hplace).alike (hserial.decided hplace')
  case row =>
    intro hsettled
    have hsettled' : other.isSettled := by
      simp [Crowd.isSettled, hmembers, Work.isDone, other]
    rw [← hworld]
    exact hcrowd.exists_row hserial (hrequests.trans (hother ▸ horder).symm) hsettled hsettled'

/-- A rule is renamed and made more severe at the same time. Both requests read it before any of
them writes, and the one that comes first writes last. -/
theorem agrees_of_disjoint_of_rename :
    let server : Server := ⟨0⟩
    let empty : World := .fresh 0 Detector.silent fun _ ↦ .replicate drawLength 0
    let store := ((Crowd.start empty).run server.serve
      [.arrival Server.makeDisk, .turn 0, .turn 0]).world.store
    let world : World := { empty with store }
    let rename : Rule.Changes := { Rule.Changes.none with name := some "spare" }
    let raise : Rule.Changes := { Rule.Changes.none with severity := some "critical" }
    let serve := fun c : Rule.Changes ↦ (Service.Rules.update Expression.check 1 c).run
    let crowd := (Crowd.start world).run serve <|
      [.arrival rename, .arrival raise, .turn 0, .turn 1, .turn 1, .turn 0] ++
        List.replicate 4 (.turn 0) ++ List.replicate 4 (.turn 1)
    let serial := world.serially serve [(1, raise), (2, rename)]
    server.Reaches store ∧ rename.Disjoint raise ∧ crowd.requests.Perm [rename, raise] ∧
      crowd.isSettled ∧
      (crowd.world.store.rules.rows.map fun rule ↦ (rule.name, rule.severity)) =
        [("spare", "critical")] ∧
      ∃ kept, store.findRule 1 = some kept ∧
        crowd.Agrees Expression.check world 1 kept serial := by
  intro server empty store world rename raise serve crowd serial
  have hreaches : server.Reaches store := ⟨empty, _, rfl, rfl⟩
  have hid : (store.findRule 1).isSome := by decide +kernel
  obtain ⟨kept, hkept⟩ := Option.isSome_iff_exists.mp hid
  have hdisjoint : rename.Disjoint raise := by
    intro p
    cases p <;> decide
  have hrequests : crowd.requests.Perm [rename, raise] := by decide +kernel
  have horder : ([((1 : Int), raise), (2, rename)].map Prod.snd).Perm [rename, raise] := .swap ..
  have hstore : world.store = store := rfl
  have hagrees : crowd.Agrees Expression.check world 1 kept serial :=
    agrees_of_disjoint server hreaches hkept hdisjoint hstore _ _ horder hrequests
  refine ⟨hreaches, hdisjoint, hrequests, ?_, ?_, kept, hkept, hagrees⟩
  · decide +kernel
  · decide +kernel

end RuleWatch
