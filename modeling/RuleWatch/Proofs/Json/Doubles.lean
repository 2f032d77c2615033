import RuleWatch.Json.Basic

/-!
# The doubles of a value

A value may keep its form and everything in it but its doubles.
-/

namespace RuleWatch.Json

mutual

/-- All doubles in a value, in reading order. -/
def doubles : Json → List Double
  | .number (.double d) => [d]
  | .array items => doublesOfItems items
  | .object members => doublesOfMembers members
  | _ => []

/-- All doubles in items. -/
def doublesOfItems : List Json → List Double
  | [] => []
  | item :: items => doubles item ++ doublesOfItems items

/-- All doubles in the values of members. -/
def doublesOfMembers : List (String × Json) → List Double
  | [] => []
  | (_, value) :: members => doubles value ++ doublesOfMembers members

end

mutual

/-- The value with other doubles in it. -/
def mapDoubles (f : Double → Double) : Json → Json
  | .number (.double d) => .number (.double (f d))
  | .array items => .array (mapItems f items)
  | .object members => .object (mapMembers f members)
  | v => v

/-- Items with other doubles in them. -/
def mapItems (f : Double → Double) : List Json → List Json
  | [] => []
  | item :: items => mapDoubles f item :: mapItems f items

/-- Members with other doubles in their values. -/
def mapMembers (f : Double → Double) : List (String × Json) → List (String × Json)
  | [] => []
  | (key, value) :: members => (key, mapDoubles f value) :: mapMembers f members

end

variable {f : Double → Double}

@[simp] theorem doublesOfItems_eq_flatMap (items : List Json) :
    doublesOfItems items = items.flatMap doubles := by
  induction items with
  | nil => rfl
  | cons item items ih => rw [doublesOfItems, ih, List.flatMap_cons]

@[simp] theorem doublesOfMembers_eq_flatMap (members : List (String × Json)) :
    doublesOfMembers members = members.flatMap fun m ↦ m.2.doubles := by
  induction members with
  | nil => rfl
  | cons m members ih => rw [doublesOfMembers, ih, List.flatMap_cons]

@[simp] theorem mapItems_eq_map (f : Double → Double) (items : List Json) :
    mapItems f items = items.map (mapDoubles f) := by
  induction items with
  | nil => rfl
  | cons item items ih => rw [mapItems, ih, List.map_cons]

@[simp] theorem mapMembers_eq_map (f : Double → Double) (members : List (String × Json)) :
    mapMembers f members = members.map fun (key, value) ↦ (key, mapDoubles f value) := by
  induction members with
  | nil => rfl
  | cons m members ih => rw [mapMembers, ih, List.map_cons]

mutual

/-- A value is the same with its doubles changed if no change changes any. -/
theorem mapDoubles_eq_self_iff : (v : Json) → (v.mapDoubles f = v ↔ ∀ d ∈ v.doubles, f d = d)
  | .null | .bool _ | .string _ | .number (.int _) => by simp [mapDoubles, doubles]
  | .number (.double d) => by simp [mapDoubles, doubles]
  | .array items => by
    rw [mapDoubles, doubles, Json.array.injEq]
    exact mapItems_eq_self_iff items
  | .object members => by
    rw [mapDoubles, doubles, Json.object.injEq]
    exact mapMembers_eq_self_iff members

theorem mapItems_eq_self_iff :
    (items : List Json) → (mapItems f items = items ↔ ∀ d ∈ doublesOfItems items, f d = d)
  | [] => by simp [mapItems, doublesOfItems]
  | item :: items => by
    rw [mapItems, doublesOfItems, List.cons_eq_cons, mapDoubles_eq_self_iff item,
      mapItems_eq_self_iff items, List.forall_mem_append]

theorem mapMembers_eq_self_iff : (members : List (String × Json)) →
    (mapMembers f members = members ↔ ∀ d ∈ doublesOfMembers members, f d = d)
  | [] => by simp [mapMembers, doublesOfMembers]
  | (key, value) :: members => by
    rw [mapMembers, doublesOfMembers, List.cons_eq_cons, mapMembers_eq_self_iff members,
      List.forall_mem_append, Prod.mk.injEq, mapDoubles_eq_self_iff value]
    simp

end

end RuleWatch.Json
