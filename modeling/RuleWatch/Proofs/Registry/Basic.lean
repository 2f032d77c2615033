import Mathlib.Data.Finmap
import RuleWatch.Proofs.Rule.Part
import RuleWatch.Proofs.Service.Mutation
import RuleWatch.Proofs.Store.Table

/-!
# A registry of rules

What is kept and how requests change it, told without tables, columns and single steps: a map from
ids to rules, and a map from ids to analysis results. A request is served all at once, and a change
of a rule replaces everything that the rule says by what it becomes.
-/

namespace RuleWatch

open Service (Mutation)

/-- The draft that a draft becomes under changes. -/
def Rule.Draft.merged (d : Draft) (changes : Changes) : Draft where
  name := changes.name.getD d.name
  expression := changes.expression.getD d.expression
  subhealth := d.subhealth.merge changes.subhealth
  fault := d.fault.merge changes.fault
  severity := changes.severity.getD d.severity
  duration := changes.duration.getD d.duration

/-- What a rule says, and when it was made and changed. -/
structure Registry.Entry where
  draft : Rule.Draft
  createdAt : Int
  updatedAt : Int

/-- Rules and analysis results by their ids, and the id of the next rule. -/
structure Registry where
  rules : Finmap fun _ : Int ↦ Registry.Entry
  nextId : Int
  analyses : Finmap fun _ : Int ↦ Analysis

namespace Registry

/-- What comes of a request. -/
inductive Outcome
  /-- The rule with this id is now as told. -/
  | kept (id : Int) (entry : Entry)
  | gone (entity : Store.Entity) (id : Int)
  | invalid (reason : Rule.Invalid)
  | conflict
  | notFound (entity : Store.Entity) (id : Int)

variable {r : Registry} {name : String} {except : Option Int}

/-- A rule has the name, other than the one that is excepted. -/
def Taken (r : Registry) (name : String) (except : Option Int) : Prop :=
  ∃ id ∈ r.rules.keys, some id ≠ except ∧
    (r.rules.lookup id).map (fun entry ↦ entry.draft.name) = some name

instance : Decidable (r.Taken name except) := by
  unfold Taken
  infer_instance

/-- What comes of a request at a point in time. -/
def serve (gate : Expression.Gate) (now : Int) (r : Registry) : Mutation → Outcome × Registry
  | .createRule draft =>
    match draft.normalize.checkBy gate with
    | .error reason => (.invalid reason, r)
    | .ok () =>
      if r.Taken draft.normalize.name none then (.conflict, r)
      else
        let entry : Entry := ⟨draft.normalize, now, now⟩
        (.kept r.nextId entry,
          { r with rules := r.rules.insert r.nextId entry, nextId := r.nextId + 1 })
  | .updateRule id changes =>
    match r.rules.lookup id with
    | none => (.notFound .rule id, r)
    | some old =>
      match (old.draft.merged changes).checkBy gate with
      | .error reason => (.invalid reason, r)
      | .ok () =>
        if r.Taken (old.draft.merged changes).name (some id) then (.conflict, r)
        else
          let entry : Entry := ⟨old.draft.merged changes, old.createdAt, now⟩
          (.kept id entry, { r with rules := r.rules.insert id entry })
  | .deleteRule id =>
    if id ∈ r.rules then (.gone .rule id, { r with rules := r.rules.erase id })
    else (.notFound .rule id, r)
  | .deleteAnalysis id =>
    if id ∈ r.analyses then (.gone .analysis id, { r with analyses := r.analyses.erase id })
    else (.notFound .analysis id, r)

/-- What comes of requests, each at a point in time, that are served one after another: the outcome
of each, and the registry after it. -/
def trace (gate : Expression.Gate) (r : Registry) :
    List (Int × Mutation) → List (Outcome × Registry)
  | [] => []
  | (now, q) :: rest =>
    let told := r.serve gate now q
    told :: told.2.trace gate rest

/-- No rules, and the analysis results of a store. -/
def ofStore (store : Store) : Registry where
  rules := ∅
  nextId := store.rules.nextId
  analyses := (store.analyses.rows.map fun analysis ↦ ⟨analysis.id, analysis⟩).toFinmap

/-! ## Stores and results -/

/-- The rule is as told, thresholds compared as numbers. -/
def Entry.Describes (entry : Entry) (rule : Rule) : Prop :=
  rule.toDraft.Equal entry.draft ∧ rule.createdAt = entry.createdAt ∧
    rule.updatedAt = entry.updatedAt

/-- The store has each rule and each analysis result under its id and no other. -/
structure Describes (r : Registry) (store : Store) : Prop where
  keyed : store.rules.Keyed Listing.RuleField
  rules : ∀ id, Option.Rel Entry.Describes (r.rules.lookup id) (store.findRule id)
  nextId : r.nextId = store.rules.nextId
  analyses : ∀ id, r.analyses.lookup id = store.findAnalysis id

/-- The result tells what has come of the request. A rule that is kept, or gone, without the
detector knowing it counts as a success. -/
def Outcome.Describes : Outcome → Except Failure (Option Rule) → Prop
  | .kept id entry, .ok (some rule) => rule.id = id ∧ entry.Describes rule
  | .kept id _, .error (.unannounced ruleId _) => ruleId = id
  | .gone _ _, .ok none => True
  | .gone .rule id, .error (.unannounced ruleId _) => ruleId = id
  | .invalid reason, .error (.invalidRule reason') => reason' = reason
  | .conflict, .error (.conflict _) => True
  | .notFound entity id, .error (.notFound entity' id') => entity' = entity ∧ id' = id
  | _, _ => False

/-- What the registry tells of a request is what comes of it. -/
def Tells (told : Outcome × Registry) (came : Except Failure (Option Rule) × World) : Prop :=
  told.1.Describes came.1 ∧ told.2.Describes came.2.store

theorem taken_iff :
    r.Taken name except ↔
      ∃ id entry, r.rules.lookup id = some entry ∧ some id ≠ except ∧ entry.draft.name = name := by
  constructor
  · rintro ⟨id, -, hne, hname⟩
    obtain ⟨entry, hentry, hname⟩ := Option.map_eq_some_iff.mp hname
    exact ⟨id, entry, hentry, hne, hname⟩
  · rintro ⟨id, entry, hentry, hne, hname⟩
    refine ⟨id, Finmap.mem_keys.mpr (Finmap.mem_of_lookup_eq_some hentry), hne, ?_⟩
    rw [hentry, Option.map_some, hname]

end Registry

/-- What comes of requests, each at a point in time, that are served one after another in a world:
the result of each, and the world after it. -/
def World.trace (gate : Expression.Gate) (world : World) :
    List (Int × Mutation) → List (Except Failure (Option Rule) × World)
  | [] => []
  | (now, q) :: rest =>
    let came := (q.serve gate).run.run { world with clock := now }
    came :: came.2.trace gate rest

end RuleWatch
