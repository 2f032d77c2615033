import RuleWatch.Double.Decimal
import RuleWatch.Json.Decoder
import RuleWatch.Rule.Basic
import RuleWatch.Text.Blank

/-!
# Rules in JSON

Reading drafts, rules and changes, and writing rules. Thresholds may come as numbers or as texts,
and ids as integers or as texts; a blank text is no threshold, and a text that is no number makes a
threshold that is not a number, so that the check of the rule reports it.
-/

namespace RuleWatch.Rule

open Json

/-- A threshold that was given as a text. -/
def thresholdOfText (s : String) : Option Double :=
  let s := Text.trim s
  if s.isEmpty then none else some ((Double.ofText? s).getD Double.nan)

/-- A threshold that was given as a value. -/
def thresholdOfJson : Json → Except Fault (Option Double)
  | .number n => .ok (some n.toDouble)
  | .string s => .ok (thresholdOfText s)
  | _ => .error .shape

/-- A threshold: null, a number, or a text. -/
def threshold : Decoder (Option Double)
  | .null => .ok none
  | o => Decoder.member o >>= thresholdOfJson

/-- An id that was given as a value: an integer, or a text of one with blanks around it. -/
def idOfJson : Json → Except Fault Int
  | .number (.int n) => if n ≤ Text.maxInt64 then .ok n else .error .shape
  | .string s => match Text.int64? (Text.trim s) with
    | some n => .ok n
    | none => .error .shape
  | _ => .error .shape

/-- An id: an integer, or a text of one. -/
def idDecoder : Decoder Int := fun o ↦
  Decoder.member o >>= idOfJson

/-- A field that may be null or left out, of an object and of an array alike. -/
def free {α : Type} (name : String) (d : Decoder α) : Record (Option α) :=
  .defaulted name [] d.nullable none

/-- The threshold of a draft or of changes. -/
def freeThreshold (name : String) : Record (Option Double) :=
  .defaulted name [] threshold none

/-- A condition of a draft or of changes, in two fields. -/
def freeCondition (kind threshold : String) : Record Condition :=
  Condition.mk <$> free kind .string <*> freeThreshold threshold

/-- A condition of a rule, in two fields. -/
def condition (kind threshold : String) : Record Condition :=
  Condition.mk <$> .optional kind .string <*> .optional threshold .double

/-- A draft. -/
def Draft.record : Record Draft :=
  Draft.mk <$> .required "name" .string
    <*> .required "expression" .string
    <*> freeCondition "subhealth_condition_type" "subhealth_threshold"
    <*> freeCondition "fault_condition_type" "fault_threshold"
    <*> .required "severity" .string
    <*> .required "duration" .string

/-- Changes. -/
def Changes.record : Record Changes :=
  Changes.mk <$> free "name" .string
    <*> free "expression" .string
    <*> freeCondition "subhealth_condition_type" "subhealth_threshold"
    <*> freeCondition "fault_condition_type" "fault_threshold"
    <*> free "severity" .string
    <*> free "duration" .string

/-- A rule with the parts in the order in which they are written. -/
def ofParts (id : Int) (name expression : String) (subhealth fault : Condition)
    (severity duration : String) (createdAt updatedAt : Int) : Rule :=
  { name, expression, subhealth, fault, severity, duration, id, createdAt, updatedAt }

/-- A rule. -/
def record : Record Rule :=
  ofParts <$> .required "id" .int64
    <*> .required "name" .string
    <*> .required "expression" .string
    <*> condition "subhealth_condition_type" "subhealth_threshold"
    <*> condition "fault_condition_type" "fault_threshold"
    <*> .required "severity" .string
    <*> .required "duration" .string
    <*> .required "created_at" .int64
    <*> .required "updated_at" .int64

/-- A request that names a rule by its id alone. -/
def idRecord : Record Int :=
  .required "id" idDecoder

/-- The members of a request to change a rule: the id, read where it stands, and all the others. -/
def splitId (whole : Bool) (id : Option Int) (others : List (String × Json)) :
    List Entry → Except Fault (Option Int × List (String × Json))
  | [] => if whole then .ok (id, others.reverse) else .error .text
  | (none, _) :: _ => .error .text
  | (some key, o) :: os =>
    if key = "id" then
      if id.isSome then .error .shape
      else do
        let n ← idDecoder o
        splitId whole (some n) others os
    else do
      let v ← Decoder.member o
      splitId whole id ((key, v) :: others) os

/-- The changes that a list of members asks for. -/
def Changes.ofMembers (members : List (String × Json)) : Except Fault Changes :=
  Changes.record.ofEntries (Outline.ofMembers members) true

/-- A request to change a rule: an object with the id and, beside it, the changes. -/
def updateRequest : Decoder (Int × Changes)
  | .object entries whole => do
    let (id, others) ← splitId whole none [] entries
    match id with
    | none => throw .shape
    | some id => return (id, ← Changes.ofMembers others)
  | o => .error (Decoder.mismatch o)

/-- The two members that a condition is written as. -/
def conditionMembers (kind threshold : String) (c : Condition) : List (String × Json) :=
  [(kind, .ofOption .string c.kind), (threshold, .ofOption .ofDouble c.threshold)]

/-- A rule as it is written. -/
def toJson (rule : Rule) : Json :=
  .object <|
    [("id", .ofInt rule.id), ("name", .string rule.name), ("expression", .string rule.expression)]
    ++ conditionMembers "subhealth_condition_type" "subhealth_threshold" rule.subhealth
    ++ conditionMembers "fault_condition_type" "fault_threshold" rule.fault
    ++ [("severity", .string rule.severity), ("duration", .string rule.duration),
      ("created_at", .ofInt rule.createdAt), ("updated_at", .ofInt rule.updatedAt)]

end RuleWatch.Rule
