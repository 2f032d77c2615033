import RuleWatch.Failure
import RuleWatch.Proofs.Store.Sound

/-!
# Changes of different parts

Whether a change of a rule is refused depends on the parts that it names and on the other rules
(`Store.refusal?`), and it leaves nothing behind but those parts. So other parts of the rule may
have been changed before, even after it was read: neither the verdict nor what is written differs
(`Store.updateRule_of_spares`).
-/

namespace RuleWatch

namespace Rule

variable {gate : Expression.Gate} {kept rule : Rule} {changes : Changes}

/-- The rule is sound, and in the parts that the changes name it is as another one. -/
structure Spares (gate : Expression.Gate) (changes : Changes) (kept rule : Rule) : Prop where
  sound : rule.toDraft.IsSound gate
  part_eq : ∀ p : Part, changes.names p → rule.part p = kept.part p

/-- What the check says of changes does not depend on other parts. -/
theorem Spares.checkBy_eq (h : Spares gate changes kept rule) (hkept : kept.toDraft.IsSound gate) :
    (rule.merged changes).checkBy gate = (kept.merged changes).checkBy gate :=
  checkBy_merged_congr h.sound hkept h.part_eq

/-- What the changes make of a part that they name does not depend on other parts. -/
theorem Spares.part_storedDraft_eq (h : Spares gate changes kept rule) {p : Part}
    (hp : changes.names p) : (Store.storedDraft (rule.merged changes)).part p =
      (Store.storedDraft (kept.merged changes)).part p :=
  part_storedDraft_congr (part_merged_congr (h.part_eq p hp))

end Rule

namespace Store

open Listing

variable {gate : Expression.Gate} {origin store : Store} {changes : Rule.Changes} {id now : Int}
  {kept row rule stale : Rule} {name : String}

/-- Why a change of the rule with an id is refused, if it is. -/
def refusal? (gate : Expression.Gate) (store : Store) (id : Int) (changes : Rule.Changes) :
    Option RuleWatch.Failure :=
  match store.findRule id with
  | none => some (.notFound .rule id)
  | some rule =>
    match (rule.merged changes).checkBy gate with
    | .error reason => some (.invalidRule reason)
    | .ok _ =>
      if isFree store.rules.rows (rule.merged changes).name id then none
      else some (.ofStore nameTaken)

theorem refusal?_of_error {reason : Rule.Invalid} (hfound : store.findRule id = some rule)
    (h : (rule.merged changes).checkBy gate = .error reason) :
    store.refusal? gate id changes = some (.invalidRule reason) := by
  simp only [refusal?, hfound, h]

theorem refusal?_of_ok (hfound : store.findRule id = some rule)
    (h : (rule.merged changes).checkBy gate = .ok ()) :
    store.refusal? gate id changes =
      if isFree store.rules.rows (rule.merged changes).name id then none
      else some (.ofStore nameTaken) := by
  simp only [refusal?, hfound, h]

/-! ## The other rules -/

/-- The stores have the same rules, but for the one with an id. -/
def AgreesBut (id : Int) (store store' : Store) : Prop :=
  ∀ rule : Rule, rule.id ≠ id → (rule ∈ store.rules.rows ↔ rule ∈ store'.rules.rows)

theorem AgreesBut.refl : AgreesBut id store store := fun _ _ ↦ Iff.rfl

theorem AgreesBut.trans {store' : Store} (h : AgreesBut id origin store)
    (h' : AgreesBut id store store') : AgreesBut id origin store' :=
  fun rule hne ↦ (h rule hne).trans (h' rule hne)

/-- Whether a name is free for a rule is up to the other rules. -/
theorem AgreesBut.isFree_eq (h : AgreesBut id origin store) :
    isFree store.rules.rows name id = isFree origin.rules.rows name id := by
  rw [Bool.eq_iff_iff, isFree_iff, isFree_iff]
  exact ⟨fun hfree rule hrule hne ↦ hfree rule ((h rule hne).mp hrule) hne,
    fun hfree rule hrule hne ↦ hfree rule ((h rule hne).mpr hrule) hne⟩

/-- A rule that is written leaves the others alone. -/
theorem agreesBut_replace (h : rule.id = id) :
    AgreesBut id store { store with rules := store.rules.replace RuleField rule } := by
  intro other hne
  subst h
  refine ⟨fun hother ↦ Table.mem_replace.mpr (.inr ⟨hother, hne⟩), fun hother ↦ ?_⟩
  rcases Table.mem_replace.mp hother with ⟨rfl, -⟩ | ⟨hother, -⟩
  · exact absurd rfl hne
  · exact hother

/-- A rule that is written is found. -/
theorem findRule_replace (hfound : store.findRule id = some row) (hid : rule.id = id) :
    findRule { store with rules := store.rules.replace RuleField rule } id = some rule := by
  calc (store.rules.replace RuleField rule).find? RuleField id
      = (store.rules.find? RuleField id).map fun _ ↦ rule :=
        Table.find?_replace.trans (if_pos hid.symm)
    _ = some rule := congrArg (Option.map _) hfound

/-- A rule has a name that no other rule has. -/
theorem Sound.isFree_name (h : store.Sound gate) (hfound : store.findRule id = some rule) :
    isFree store.rules.rows rule.name id :=
  isFree_iff.mpr fun other hother hne heq ↦ hne <|
    (h.names other hother rule (mem_of_findRule hfound) heq).trans (id_of_findRule hfound)

/-! ## A late change -/

/-- What a change that has passed the check writes as a name is free just if it was when the rule
was kept, whatever was changed in other parts. -/
theorem isFree_writeParts (horigin : origin.Sound gate) (hstore : store.Sound gate)
    (hagrees : AgreesBut id origin store) (hkept : origin.findRule id = some kept)
    (hrow : store.findRule id = some row) (hstale : Rule.Spares gate changes kept stale) :
    isFree store.rules.rows (writeParts row changes (storedDraft (stale.merged changes)) now).name
        id =
      isFree origin.rules.rows (kept.merged changes).name id := by
  have hwritten : (writeParts row changes (storedDraft (stale.merged changes)) now).name =
      if changes.names .name then (stale.merged changes).name else row.name :=
    Rule.part_writeParts .name
  cases hname : changes.names .name with
  | true =>
    have hsame : (stale.merged changes).name = (kept.merged changes).name :=
      hstale.part_storedDraft_eq hname
    rw [hwritten, if_pos hname, hsame, hagrees.isFree_eq]
  | false =>
    -- neither rule is renamed, and each has a name of its own
    have hsame : (kept.merged changes).name = kept.name :=
      Rule.part_merged (horigin.drafts kept (mem_of_findRule hkept)) hname
    rw [hwritten, if_neg (by simp [hname]), hsame, hstore.isFree_name hrow,
      horigin.isFree_name hkept]

/-- A change that has passed the check, of a rule that was read before other parts of it were
changed, is refused just if it would have been refused before those changes, and writes the same. -/
theorem updateRule_of_spares (now : Int) (horigin : origin.Sound gate) (hstore : store.Sound gate)
    (hagrees : AgreesBut id origin store) (hkept : origin.findRule id = some kept)
    (hrow : store.findRule id = some row) (hstale : Rule.Spares gate changes kept stale)
    (hcheck : (stale.merged changes).checkBy gate = .ok ()) :
    (origin.refusal? gate id changes = some (.ofStore nameTaken) ∧
      store.updateRule id changes (stale.merged changes) now = (.error nameTaken, store)) ∨
    (origin.refusal? gate id changes = none ∧ ∃ written : Rule, written.id = id ∧
      written.createdAt = row.createdAt ∧
      (∀ p : Rule.Part, written.part p =
        if changes.names p then (storedDraft (kept.merged changes)).part p else row.part p) ∧
      store.updateRule id changes (stale.merged changes) now =
        (.ok written, { store with rules := store.rules.replace RuleField written })) := by
  have hchecked : (kept.merged changes).checkBy gate = .ok () :=
    (hstale.checkBy_eq (horigin.drafts kept (mem_of_findRule hkept))) ▸ hcheck
  rw [refusal?_of_ok hkept hchecked]
  obtain ⟨hnone, -⟩ | ⟨found, written, hfound, rfl, hcases⟩ :=
    updateRule_cases store id changes (stale.merged changes) now
  · exact absurd hrow (by simp [hnone])
  obtain rfl : row = found := Option.some.inj (hrow.symm.trans hfound)
  rw [isFree_writeParts horigin hstore hagrees hkept hrow hstale] at hcases
  obtain ⟨hfree, heq⟩ | ⟨hfree, heq⟩ := hcases
  · exact .inl ⟨if_neg hfree, heq⟩
  · let written := writeParts row changes (storedDraft (stale.merged changes)) now
    have hid : row.id = id := id_of_findRule hrow
    refine .inr ⟨if_pos hfree, written, hid, rfl, fun p ↦ ?_, heq⟩
    rw [Rule.part_writeParts]
    cases hp : changes.names p with
    | true => exact hstale.part_storedDraft_eq hp
    | false => rfl

end Store

end RuleWatch
