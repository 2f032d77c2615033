import RuleWatch.Json.Decoder

/-!
# Metric samples

What a metric backend reports for one series: its labels, and a value at one point in time or
values at several.
-/

namespace RuleWatch.Metric

open Json

/-- A value at a point in time, the value as a text. -/
structure Point where
  time : Double
  value : String
  deriving DecidableEq, Repr, Inhabited

/-- One series. Labels are in the order of their names, each name once. -/
structure Sample where
  labels : List (String × String)
  value : Option Point
  values : List Point
  deriving DecidableEq, Repr, Inhabited

/-- A point is written as an array of its time and its value. -/
def Point.decoder : Decoder Point
  | .array [time, value] whole => do
    let time ← Decoder.double time
    let value ← Decoder.string value
    if whole then return ⟨time, value⟩ else throw .text
  | .array _ _ => .error .shape
  | o => .error (Decoder.mismatch o)

def Point.toJson (p : Point) : Json :=
  .array [.ofDouble p.time, .string p.value]

/-- The labels of a series, of which the later counts if two have one name. -/
def labelsDecoder : Decoder (List (String × String)) := fun o ↦
  (Decoder.map Decoder.string o).map Keyed.ofList

/-- A sample; every part may be left out. -/
def Sample.record : Record Sample :=
  Sample.mk <$> .defaulted "metric" [] labelsDecoder []
    <*> .defaulted "value" [] Point.decoder.nullable none
    <*> .defaulted "values" [] Point.decoder.list []

/-- A sample as it is written: a value that is not there is left out, and so is an empty list of
values. -/
def Sample.toJson (s : Sample) : Json :=
  .object <|
    ("metric", .object (s.labels.map fun (name, value) ↦ (name, .string value)))
    :: (match s.value with | some p => [("value", p.toJson)] | none => [])
    ++ (if s.values.isEmpty then [] else [("values", .ofList Point.toJson s.values)])

end RuleWatch.Metric
