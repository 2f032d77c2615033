import Mathlib.Data.List.Forall2
import RuleWatch.Json.Decoder
import RuleWatch.Proofs.Result

/-!
# What decoders read of values

Of a value that has been read already, a decoder reads what a relation between values and their
meanings says. Here are these relations for what is no record.
-/

namespace RuleWatch.Json

open Result

variable {α : Type} {d : Decoder α} {R : Json → α → Prop} {v : Json}

/-- Of each value the decoder reads what the relation says, and nothing of any other. -/
def Decoder.Reads (d : Decoder α) (R : Json → α → Prop) : Prop :=
  ∀ v a, d.ofJson v = .ok a ↔ R v a

/-! ## Scalars -/

def IsText (v : Json) (s : String) : Prop :=
  v = .string s

def IsCount (v : Json) (n : Int) : Prop :=
  v = .number (.int n) ∧ n ≤ Text.maxInt64

/-- An integer counts as the double nearest to it. -/
def IsDouble (v : Json) (x : Double) : Prop :=
  ∃ n : Number, v = .number n ∧ n.toDouble = x

theorem Decoder.reads_string : Decoder.string.Reads IsText := by
  intro v s
  cases v with
  | string s' => simp [ofJson, Outline.ofJson, string, IsText]
  | _ => exact iff_of_false (by simp [ofJson, Outline.ofJson, string]) (by simp [IsText])

theorem Decoder.reads_int64 : Decoder.int64.Reads IsCount := by
  intro v n
  cases v with
  | number number =>
    cases number with
    | int n' =>
      simp only [ofJson, Outline.ofJson, int64, IsCount, Json.number.injEq, Number.int.injEq]
      split_ifs with h
      · simpa using fun heq : n' = n ↦ heq ▸ h
      · simpa using fun heq : n' = n ↦ heq ▸ Int.not_le.mp h
    | double x => exact iff_of_false (by simp [ofJson, Outline.ofJson, int64]) (by simp [IsCount])
  | _ => exact iff_of_false (by simp [ofJson, Outline.ofJson, int64]) (by simp [IsCount])

theorem Decoder.reads_double : Decoder.double.Reads IsDouble := by
  intro v x
  cases v with
  | number n => simp [ofJson, Outline.ofJson, double, IsDouble]
  | _ => exact iff_of_false (by simp [ofJson, Outline.ofJson, double]) (by simp [IsDouble])

/-! ## Null -/

/-- Null is nothing, and everything else is what it is. -/
def IsNullOr (R : Json → α → Prop) (v : Json) : Option α → Prop
  | none => v = .null
  | some a => v ≠ .null ∧ R v a

theorem isNullOr_null : IsNullOr R .null none :=
  rfl

theorem IsNullOr.ne_none_iff {o : Option α} (h : IsNullOr R v o) : o ≠ none ↔ v ≠ .null := by
  cases o with
  | none => exact iff_of_false (fun hne ↦ hne rfl) fun hne ↦ hne h
  | some a => exact iff_of_true nofun h.1

theorem Decoder.Reads.nullable (h : d.Reads R) : d.nullable.Reads (IsNullOr R) := by
  intro v o
  cases v with
  | null => cases o <;> simp [ofJson, Outline.ofJson, Decoder.nullable, IsNullOr]
  | _ =>
    refine (map_eq_ok_iff (f := some) (x := d.ofJson _)).trans ?_
    cases o with
    | none => simp [IsNullOr]
    | some a => simpa [IsNullOr] using h _ a

/-! ## Lists and objects -/

theorem Decoder.items_eq_ok_iff {items : List Json} {as : List α} :
    Decoder.items d true (Outline.ofItems items) = .ok as ↔
      List.Forall₂ (fun v a ↦ d.ofJson v = .ok a) items as := by
  induction items generalizing as with
  | nil => simp [Decoder.items, Outline.ofItems, eq_comm]
  | cons v items ih =>
    change (do
      let a ← d.ofJson v
      let as ← Decoder.items d true (Outline.ofItems items)
      return a :: as : Except Fault (List α)) = _ ↔ _
    simp only [bind_eq_ok_iff, ih, List.forall₂_cons_left_iff, pure, Except.pure, Except.ok.injEq]
    constructor
    · rintro ⟨a, ha, as', has', rfl⟩
      exact ⟨a, as', ha, has', rfl⟩
    · rintro ⟨a, as', ha, has', rfl⟩
      exact ⟨a, ha, as', has', rfl⟩

/-- A list is read from an array, item by item. -/
theorem Decoder.list_eq_ok_iff {v : Json} {as : List α} :
    d.list.ofJson v = .ok as ↔
      ∃ items, v = .array items ∧ List.Forall₂ (fun v a ↦ d.ofJson v = .ok a) items as := by
  cases v with
  | array items =>
    simp only [Json.array.injEq, exists_eq_left']
    exact items_eq_ok_iff
  | _ => exact iff_of_false (by simp [ofJson, Outline.ofJson, list]) (by simp)

def IsList (R : Json → α → Prop) (v : Json) (as : List α) : Prop :=
  ∃ items, v = .array items ∧ List.Forall₂ R items as

theorem isList_nil : IsList R (.array []) [] :=
  ⟨[], rfl, .nil⟩

theorem IsList.ne_nil_iff {as : List α} (h : IsList R v as) : as ≠ [] ↔ v ≠ .array [] := by
  obtain ⟨items, rfl, has⟩ := h
  cases has <;> simp

theorem Decoder.Reads.list (h : d.Reads R) : d.list.Reads (IsList R) := by
  intro v as
  have hR : (fun v a ↦ d.ofJson v = .ok a) = R := funext₂ fun v a ↦ propext (h v a)
  rw [list_eq_ok_iff, hR, IsList]

/-- A member with the same key, and a value that is so related. -/
def IsMember {β γ : Type} (P : β → γ → Prop) (m : String × β) (e : String × γ) : Prop :=
  m.1 = e.1 ∧ P m.2 e.2

theorem Decoder.entries_eq_ok_iff {members : List (String × Json)} {as : List (String × α)} :
    Decoder.entries d true (Outline.ofMembers members) = .ok as ↔
      List.Forall₂ (IsMember fun v a ↦ d.ofJson v = .ok a) members as := by
  induction members generalizing as with
  | nil => simp [Decoder.entries, Outline.ofMembers, eq_comm]
  | cons m members ih =>
    obtain ⟨key, v⟩ := m
    change (do
      let a ← d.ofJson v
      let as ← Decoder.entries d true (Outline.ofMembers members)
      return (key, a) :: as : Except Fault (List (String × α))) = _ ↔ _
    simp only [bind_eq_ok_iff, ih, List.forall₂_cons_left_iff, pure, Except.pure, Except.ok.injEq]
    constructor
    · rintro ⟨a, ha, as', has', rfl⟩
      exact ⟨(key, a), as', ⟨rfl, ha⟩, has', rfl⟩
    · rintro ⟨⟨key', a⟩, as', ⟨rfl, ha⟩, has', rfl⟩
      exact ⟨a, ha, as', has', rfl⟩

/-- A map is read from an object, member by member. -/
theorem Decoder.map_ofJson_eq_ok_iff {v : Json} {as : List (String × α)} :
    (Decoder.map d).ofJson v = .ok as ↔ ∃ members, v = .object members ∧
      List.Forall₂ (IsMember fun v a ↦ d.ofJson v = .ok a) members as := by
  cases v with
  | object members =>
    simp only [Json.object.injEq, exists_eq_left']
    exact entries_eq_ok_iff
  | _ => exact iff_of_false (by simp [ofJson, Outline.ofJson, map]) (by simp)

end RuleWatch.Json
