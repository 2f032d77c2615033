import RuleWatch.Text.Utf8

/-!
# Snippets

The beginning of a body for the journal: at most so many bytes of it, and only whole characters.
-/

namespace RuleWatch.Text

/-- What stands for bytes that are no text. -/
def noText : String := "<non-utf8 body>"

/-- The text of the bytes if it has at most `room` bytes, and otherwise the characters at its front
that fit in so many, with three dots after them. -/
def snippet (bytes : Bytes) (room : Nat) : String :=
  match ofBytes? bytes with
  | none => noText
  | some s =>
    if bytes.length ≤ room then s else String.ofList (takeFitting room s.toList ++ ['.', '.', '.'])

end RuleWatch.Text
