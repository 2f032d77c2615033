import RuleWatch.Proofs.Registry.Basic
import RuleWatch.Proofs.Service.Run
import RuleWatch.Proofs.Service.Sound

/-!
# The service is a registry

Requests that are served one after another leave the store that the registry tells, with the results
that it tells. The service writes only the parts that changes name, where the registry replaces all
of them; the two agree because what is kept is sound, so that the parts that are not named are what
they would be replaced by.
-/

namespace RuleWatch.Registry

open Listing Service Store

variable {gate : Expression.Gate} {r : Registry} {store : Store} {name : String} {id : Int}
  {entry : Entry} {rule : Rule}

/-! ## Rules and entries -/

theorem Entry.Describes.name_eq (h : entry.Describes rule) : rule.name = entry.draft.name :=
  h.1 .name

namespace Describes

theorem exists_entry (h : r.Describes store) (hrule : store.findRule id = some rule) :
    ∃ entry, r.rules.lookup id = some entry ∧ entry.Describes rule := by
  have hrel := h.rules id
  rw [hrule] at hrel
  generalize r.rules.lookup id = found at hrel
  cases hrel with
  | some hdescribes => exact ⟨_, rfl, hdescribes⟩

theorem exists_rule (h : r.Describes store) (hentry : r.rules.lookup id = some entry) :
    ∃ rule, store.findRule id = some rule ∧ entry.Describes rule := by
  have hrel := h.rules id
  rw [hentry] at hrel
  generalize store.findRule id = found at hrel
  cases hrel with
  | some hdescribes => exact ⟨_, rfl, hdescribes⟩

theorem lookup_eq_none (h : r.Describes store) (hnone : store.findRule id = none) :
    r.rules.lookup id = none := by
  rw [Option.eq_none_iff_forall_ne_some]
  intro entry hentry
  obtain ⟨rule, hrule, -⟩ := h.exists_rule hentry
  rw [hnone] at hrule
  contradiction

/-- A name is free in the store when no other entry has it. -/
theorem isFree_iff_not_taken (h : r.Describes store) :
    isFree store.rules.rows name id ↔ ¬ r.Taken name (some id) := by
  rw [isFree_iff, taken_iff]
  constructor
  · rintro hfree ⟨id', entry, hentry, hne, hname⟩
    obtain ⟨rule, hrule, hdescribes⟩ := h.exists_rule hentry
    refine hfree rule (mem_of_findRule hrule) ?_ (hdescribes.name_eq.trans hname)
    rw [id_of_findRule hrule]
    exact fun heq ↦ hne (congrArg some heq)
  · intro hfree rule hrule hne hname
    obtain ⟨entry, hentry, hdescribes⟩ :=
      h.exists_entry (h.keyed.find?_eq_some_iff.mpr ⟨hrule, rfl⟩)
    refine hfree ⟨_, entry, hentry, ?_, hdescribes.name_eq.symm.trans hname⟩
    exact fun heq ↦ hne (Option.some.inj heq)

/-- A name is free for a new rule when no entry has it. -/
theorem isFree_nextId_iff_not_taken (h : r.Describes store) :
    isFree store.rules.rows name store.rules.nextId ↔ ¬ r.Taken name none := by
  rw [h.isFree_iff_not_taken, taken_iff, taken_iff, not_iff_not]
  refine exists₂_congr fun id' entry ↦ and_congr_right fun hentry ↦ and_congr_left fun _ ↦ ?_
  obtain ⟨rule, hrule, -⟩ := h.exists_rule hentry
  have hne : id' ≠ store.rules.nextId := by
    rw [← id_of_findRule hrule]
    exact h.keyed.ne_nextId (mem_of_findRule hrule)
  simp [hne]

/-! ## Changes -/

theorem push (h : r.Describes store) (hid : rule.id = store.rules.nextId)
    (hentry : entry.Describes rule) :
    Describes { r with rules := r.rules.insert r.nextId entry, nextId := r.nextId + 1 }
      { store with rules := store.rules.push rule } where
  keyed := h.keyed.push hid
  rules id' := by
    change Option.Rel _ (Finmap.lookup id' (r.rules.insert r.nextId entry))
      ((store.rules.push rule).find? RuleField id')
    rw [h.keyed.find?_push hid, h.nextId]
    split
    next heq =>
      rw [heq, Finmap.lookup_insert]
      exact .some hentry
    next hne =>
      rw [Finmap.lookup_insert_of_ne _ hne]
      exact h.rules id'
  nextId := congrArg (· + 1) h.nextId
  analyses := h.analyses

theorem replace {old : Rule} (h : r.Describes store) (hold : store.findRule id = some old)
    (hid : rule.id = id) (hentry : entry.Describes rule) :
    Describes { r with rules := r.rules.insert id entry }
      { store with rules := store.rules.replace RuleField rule } where
  keyed := h.keyed.replace
  rules id' := by
    have hfind : (store.rules.replace RuleField rule).find? RuleField id' =
        if id' = id then (store.findRule id').map fun _ ↦ rule else store.findRule id' :=
      hid ▸ Table.find?_replace
    change Option.Rel _ (Finmap.lookup id' (r.rules.insert id entry))
      ((store.rules.replace RuleField rule).find? RuleField id')
    rw [hfind]
    split
    next heq =>
      rw [heq, Finmap.lookup_insert, hold]
      exact .some hentry
    next hne =>
      rw [Finmap.lookup_insert_of_ne _ hne]
      exact h.rules id'
  nextId := h.nextId
  analyses := h.analyses

theorem erase (h : r.Describes store) (id : Int) :
    Describes { r with rules := r.rules.erase id }
      { store with rules := store.rules.erase RuleField id } where
  keyed := h.keyed.erase
  rules id' := by
    change Option.Rel _ (Finmap.lookup id' (r.rules.erase id))
      ((store.rules.erase RuleField id).find? RuleField id')
    rw [Table.find?_erase]
    split
    next heq =>
      rw [heq, Finmap.lookup_erase]
      exact .none
    next hne =>
      rw [Finmap.lookup_erase_ne hne]
      exact h.rules id'
  nextId := h.nextId
  analyses := h.analyses

theorem eraseAnalysis (h : r.Describes store) (id : Int) :
    Describes { r with analyses := r.analyses.erase id }
      { store with analyses := store.analyses.erase AnalysisField id } where
  keyed := h.keyed
  rules := h.rules
  nextId := h.nextId
  analyses id' := by
    change Finmap.lookup id' (r.analyses.erase id) =
      (store.analyses.erase AnalysisField id).find? AnalysisField id'
    rw [Table.find?_erase]
    split
    next heq => rw [heq, Finmap.lookup_erase]
    next hne =>
      rw [Finmap.lookup_erase_ne hne]
      exact h.analyses id'

end Describes

/-! ## Requests -/

/-- The detector decides only whether a rule that is kept comes back whole or with its id alone. -/
theorem Outcome.kept_describes (h : entry.Describes rule) (answer : Option Bytes) :
    (Outcome.kept rule.id entry).Describes (some <$> announced rule.id answer rule) := by
  rw [announced]
  cases Detector.acknowledge Detector.ruleSetChanged answer with
  | ok data => exact ⟨rfl, h⟩
  | error failure => rfl

theorem Outcome.gone_describes (id : Int) (answer : Option Bytes) :
    (Outcome.gone .rule id).Describes ((fun _ ↦ none) <$> announced id answer ()) := by
  rw [announced]
  cases Detector.acknowledge Detector.ruleSetChanged answer with
  | ok data => trivial
  | error failure => rfl

variable {world : World}

theorem tells_createRule (draft : Rule.Draft) (h : r.Describes world.store) :
    Tells (r.serve gate world.clock (.createRule draft))
      ((Mutation.serve gate (.createRule draft)).run.run world) := by
  rw [Mutation.serve, Work.run_map_run, serve]
  obtain ⟨reason, hcheck, heq⟩ | ⟨hcheck, hfree, heq⟩ |
    ⟨hcheck, hfree, rule, answer, after, hrule, hid, hcreated, hupdated, heq, hstore⟩ :=
    Rules.run_create_cases gate draft world
  · rw [heq]
    simp only [hcheck]
    exact ⟨rfl, h⟩
  · rw [heq]
    have htaken : r.Taken draft.normalize.name none := by
      rwa [h.isFree_nextId_iff_not_taken, not_not] at hfree
    simp only [hcheck, if_pos htaken]
    exact ⟨trivial, h⟩
  · rw [heq]
    have htaken : ¬ r.Taken draft.normalize.name none := by
      rwa [h.isFree_nextId_iff_not_taken] at hfree
    simp only [hcheck, if_neg htaken]
    have hentry : Entry.Describes ⟨draft.normalize, world.clock, world.clock⟩ rule := by
      refine ⟨fun p ↦ ?_, hcreated, hupdated⟩
      rw [hrule]
      exact (Rule.Draft.isSound_normalize hcheck p).stored.2
    constructor
    · rw [h.nextId, ← hid]
      exact Outcome.kept_describes hentry answer
    · rw [hstore]
      exact h.push hid hentry

/-- What equal drafts become under the same changes is equal part by part, or even the same. -/
theorem alike_merged {d d' : Rule.Draft} (h : d.Equal d') (changes : Rule.Changes) (p : Rule.Part) :
    (d.merged changes).part p = (d'.merged changes).part p ∨
      p.Equal ((d.merged changes).part p) ((d'.merged changes).part p) := by
  cases p with
  | name => exact .inl (congrArg changes.name.getD (h .name))
  | expression => exact .inl (congrArg changes.expression.getD (h .expression))
  | subhealth => exact Condition.Equal.merge (h .subhealth) changes.subhealth
  | fault => exact Condition.Equal.merge (h .fault) changes.fault
  | severity => exact .inl (congrArg changes.severity.getD (h .severity))
  | duration => exact .inl (congrArg changes.duration.getD (h .duration))

/-- What is written into a sound rule is all that an equal draft becomes. -/
theorem equal_written {old : Rule} {d : Rule.Draft} {changes : Rule.Changes} {now : Int}
    (hsound : old.toDraft.IsSound gate) (hcheck : (old.merged changes).checkBy gate = .ok ())
    (h : old.toDraft.Equal d) :
    (writeParts old changes (storedDraft (old.merged changes)) now).toDraft.Equal
      (d.merged changes) := by
  have hwritten : (writeParts old changes (storedDraft (old.merged changes)) now).Equal
      (old.merged changes) := Rule.equal_writeParts hsound (Rule.isSound_merged hcheck)
  intro p
  rcases alike_merged h changes p with hpart | hpart
  · exact hpart ▸ hwritten p
  · exact (hwritten p).trans hpart

theorem tells_updateRule (id : Int) (changes : Rule.Changes) (hsound : world.store.Sound gate)
    (h : r.Describes world.store) :
    Tells (r.serve gate world.clock (.updateRule id changes))
      ((Mutation.serve gate (.updateRule id changes)).run.run world) := by
  rw [Mutation.serve, Work.run_map_run, serve]
  obtain ⟨hnone, heq⟩ | ⟨old, hold, hcases⟩ := Rules.run_update_cases gate id changes world
  · rw [heq, h.lookup_eq_none hnone]
    exact ⟨⟨rfl, rfl⟩, h⟩
  obtain ⟨entry, hentry, hdescribes⟩ := h.exists_entry hold
  have halike := alike_merged hdescribes.1 changes
  have hsame : (entry.draft.merged changes).checkBy gate = (old.merged changes).checkBy gate :=
    (Rule.Draft.checkBy_eq_of_alike halike).symm
  obtain ⟨reason, hcheck, heq⟩ | ⟨new, hcheck, hnew, hcases⟩ := hcases
  · rw [heq]
    simp only [hentry, hsame, hcheck]
    exact ⟨rfl, h⟩
  have hequal : new.toDraft.Equal (entry.draft.merged changes) :=
    hnew ▸ equal_written (hsound.drafts old (mem_of_findRule hold)) hcheck hdescribes.1
  have hname : new.name = (entry.draft.merged changes).name := hequal .name
  obtain ⟨hfree, heq⟩ | ⟨hfree, answer, after, heq, hstore⟩ := hcases
  · have htaken : r.Taken (entry.draft.merged changes).name (some id) := by
      rwa [h.isFree_iff_not_taken, not_not, hname] at hfree
    rw [heq]
    simp only [hentry, hsame, hcheck, if_pos htaken]
    exact ⟨trivial, h⟩
  · have htaken : ¬ r.Taken (entry.draft.merged changes).name (some id) := by
      rwa [h.isFree_iff_not_taken, hname] at hfree
    have hid : new.id = id := by
      calc new.id = old.id := by rw [hnew]; rfl
        _ = id := id_of_findRule hold
    have hnewEntry : Entry.Describes
        ⟨entry.draft.merged changes, entry.createdAt, world.clock⟩ new := by
      refine ⟨hequal, ?_, by rw [hnew]; rfl⟩
      calc new.createdAt = old.createdAt := by rw [hnew]; rfl
        _ = entry.createdAt := hdescribes.2.1
    rw [heq]
    simp only [hentry, hsame, hcheck, if_neg htaken]
    constructor
    · rw [← hid]
      exact Outcome.kept_describes hnewEntry answer
    · rw [hstore]
      exact h.replace hold hid hnewEntry

theorem tells_deleteRule (id : Int) (h : r.Describes world.store) :
    Tells (r.serve gate world.clock (.deleteRule id))
      ((Mutation.serve gate (.deleteRule id)).run.run world) := by
  rw [Mutation.serve, Work.run_map_run, serve]
  obtain ⟨hnone, heq⟩ | ⟨hsome, answer, after, heq, hstore⟩ := Rules.run_delete_cases id world
  · have hmem : id ∉ r.rules := Finmap.lookup_eq_none.mp (h.lookup_eq_none hnone)
    rw [heq, if_neg hmem]
    exact ⟨⟨rfl, rfl⟩, h⟩
  · obtain ⟨rule, hrule⟩ := Option.isSome_iff_exists.mp hsome
    obtain ⟨entry, hentry, -⟩ := h.exists_entry hrule
    rw [heq, if_pos (Finmap.mem_of_lookup_eq_some hentry)]
    refine ⟨Outcome.gone_describes id answer, ?_⟩
    rw [hstore]
    exact h.erase id

theorem tells_deleteAnalysis (id : Int) (h : r.Describes world.store) :
    Tells (r.serve gate world.clock (.deleteAnalysis id))
      ((Mutation.serve gate (.deleteAnalysis id)).run.run world) := by
  rw [Mutation.serve, Work.run_map_run, serve]
  obtain ⟨hnone, heq⟩ | ⟨hsome, after, heq, hstore⟩ := Analyses.run_delete_cases id world
  · have hmem : id ∉ r.analyses := Finmap.lookup_eq_none.mp ((h.analyses id).trans hnone)
    rw [heq, if_neg hmem]
    exact ⟨⟨rfl, rfl⟩, h⟩
  · have hmem : id ∈ r.analyses := by
      rwa [← h.analyses id, Finmap.lookup_isSome] at hsome
    rw [heq, if_pos hmem]
    refine ⟨trivial, ?_⟩
    rw [hstore]
    exact h.eraseAnalysis id

/-- What comes of a request is what the registry tells. -/
theorem tells_serve (world : World) (q : Mutation) (hsound : world.store.Sound gate)
    (h : r.Describes world.store) :
    Tells (r.serve gate world.clock q) ((q.serve gate).run.run world) := by
  cases q with
  | createRule draft => exact tells_createRule draft h
  | updateRule id changes => exact tells_updateRule id changes hsound h
  | deleteRule id => exact tells_deleteRule id h
  | deleteAnalysis id => exact tells_deleteAnalysis id h

/-! ## Runs -/

theorem lookup_toFinmap (analyses : List Analysis) (id : Int) :
    (List.map (fun analysis ↦ (⟨analysis.id, analysis⟩ : Sigma fun _ : Int ↦ Analysis))
      analyses).toFinmap.lookup id = analyses.find? fun analysis ↦ analysis.id == id := by
  rw [Finmap.dlookup_list_toFinmap]
  induction analyses with
  | nil => rfl
  | cons analysis rest ih =>
    rw [List.map_cons, List.find?_cons]
    by_cases heq : analysis.id = id
    · subst heq
      rw [List.dlookup_cons_eq, beq_self_eq_true]
    · rw [List.dlookup_cons_ne _ _ (Ne.symm heq), ih, beq_false_of_ne heq]

/-- A store without rules is described by its analysis results. -/
theorem describes_ofStore (h : store.rules.rows = []) : (ofStore store).Describes store where
  keyed := .of_rows_eq_nil h
  rules id := by
    have hnone : store.findRule id = none := Table.find?_of_rows_eq_nil h
    rw [hnone]
    exact .none
  nextId := rfl
  analyses id := lookup_toFinmap store.analyses.rows id

/-- Requests of any number, served one after another from a store without rules: after each of them
the registry has told its result and what is in the store. -/
theorem tells_trace (gate : Expression.Gate) {world : World} (h : world.store.rules.rows = [])
    (requests : List (Int × Mutation)) :
    List.Forall₂ Tells ((ofStore world.store).trace gate requests) (world.trace gate requests) := by
  suffices hall : ∀ (r : Registry) (world : World), world.store.Sound gate →
      r.Describes world.store →
        List.Forall₂ Tells (r.trace gate requests) (world.trace gate requests) from
    hall _ world (.of_rows_eq_nil h) (describes_ofStore h)
  induction requests with
  | nil => exact fun _ _ _ _ ↦ .nil
  | cons request rest ih =>
    obtain ⟨now, q⟩ := request
    intro r world hsound hdescribes
    have htells : Tells (r.serve gate now q) ((q.serve gate).run.run { world with clock := now }) :=
      tells_serve { world with clock := now } q hsound hdescribes
    have hsound' : ((q.serve gate).run.run { world with clock := now }).2.store.Sound gate :=
      Mutation.sound_run gate q hsound
    exact .cons htells (ih _ _ hsound' htells.2)

/-- A rule is made and changed, a second one of its name is refused, and a rule that is not there
cannot go; the detector never answers. -/
theorem tells_trace_of_conflict :
    let gate : Expression.Gate := fun _ ↦ .ok ()
    let world : World := .fresh 0 Detector.silent fun _ ↦ .replicate drawLength 0
    let disk : Rule.Draft :=
      ⟨"disk", "disk_usage", Condition.none, ⟨some "gt", some (.ofInt 80)⟩, "error", "5m"⟩
    let raise : Rule.Changes := { Rule.Changes.none with fault := ⟨none, some (.ofInt 90)⟩ }
    let requests : List (Int × Mutation) :=
      [(10, .createRule disk), (20, .updateRule 1 raise), (30, .createRule disk),
        (40, .deleteRule 2)]
    world.store.rules.rows = [] ∧
      ((world.trace gate requests).map fun came ↦ came.2.store.rules.rows.map fun rule ↦
        (rule.fault.threshold, rule.createdAt, rule.updatedAt)) =
        [[(some (.ofInt 80), 10, 10)], [(some (.ofInt 90), 10, 20)], [(some (.ofInt 90), 10, 20)],
          [(some (.ofInt 90), 10, 20)]] ∧
      List.Forall₂ Tells ((ofStore world.store).trace gate requests) (world.trace gate requests) :=
  ⟨rfl, by decide +kernel, tells_trace _ rfl _⟩

end RuleWatch.Registry
