/-!
# Entries by key

Lists of entries that are kept in the order of their keys, each key once.
-/

namespace RuleWatch.Keyed

variable {β : Type}

/-- The entries with one of them set: in the place that its key has in order, and instead of the
entry that had this key. -/
def set (key : String) (value : β) : List (String × β) → List (String × β)
  | [] => [(key, value)]
  | (k, v) :: rest =>
    if key < k then (key, value) :: (k, v) :: rest
    else if key = k then (key, value) :: rest
    else (k, v) :: set key value rest

/-- The entries in the order of their keys; of two with one key the later counts. -/
def ofList (entries : List (String × β)) : List (String × β) :=
  entries.foldl (fun acc (key, value) ↦ set key value acc) []

end RuleWatch.Keyed
