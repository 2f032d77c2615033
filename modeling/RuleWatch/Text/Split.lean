/-!
# Splitting texts

A text split in two at a mark, which itself is in neither part: at the first place where the mark
stands, or at the last one. Putting the mark between the parts gives the text back.
-/

namespace RuleWatch.Text

/-- What comes before the first place where the mark stands, and what comes after it. -/
def splitFirst? (mark : List Char) : List Char → Option (List Char × List Char)
  | [] => if mark.isEmpty then some ([], []) else none
  | c :: rest =>
    if mark.isPrefixOf (c :: rest) then some ([], (c :: rest).drop mark.length)
    else (splitFirst? mark rest).map fun (before, after) ↦ (c :: before, after)

/-- What comes before the last place where the character stands, and what comes after it. -/
def splitLast? (mark : Char) : List Char → Option (List Char × List Char)
  | [] => none
  | c :: rest =>
    match splitLast? mark rest with
    | some (before, after) => some (c :: before, after)
    | none => if c = mark then some ([], rest) else none

theorem splitFirst?_eq_some {mark s before after : List Char}
    (h : splitFirst? mark s = some (before, after)) : s = before ++ mark ++ after := by
  induction s generalizing before with
  | nil => grind [splitFirst?]
  | cons c rest ih =>
    unfold splitFirst? at h
    split at h
    · next hp =>
      obtain ⟨t, ht⟩ := List.isPrefixOf_iff_prefix.1 hp
      cases h
      simp [← ht]
    · obtain ⟨⟨b, a⟩, hb, heq⟩ := Option.map_eq_some_iff.1 h
      cases heq
      simp [ih hb]

theorem splitLast?_eq_some {mark : Char} {s before after : List Char}
    (h : splitLast? mark s = some (before, after)) : s = before ++ mark :: after := by
  induction s generalizing before with
  | nil => cases h
  | cons c rest ih => grind [splitLast?]

end RuleWatch.Text
