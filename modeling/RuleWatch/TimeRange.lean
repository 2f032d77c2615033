import RuleWatch.Json.Decoder

/-!
# Time ranges

A closed range of time and the distance of the points at which it is looked at, all in seconds.
-/

namespace RuleWatch

/-- From `start` to `finish`, looked at every `step` seconds. -/
structure TimeRange where
  start : Int
  finish : Int
  step : Int
  deriving DecidableEq, Repr, Inhabited

namespace TimeRange

/-- Why a range cannot be looked at. -/
inductive Fault
  | step
  | order
  deriving DecidableEq, Repr

def Fault.message : Fault → String
  | .step => "step must be positive"
  | .order => "end must not be before start"

/-- About how many points an episode is looked at. -/
def episodePoints : Int := 250

/-- The range of an episode. The step is the length divided by the number of points, toward zero,
and at least one second. The difference is that of the numbers, without a bound: in words of 64 bits
it is the same only where it fits into one (`wordStep`). -/
def ofEpisode (start finish : Int) : TimeRange :=
  ⟨start, finish, max 1 ((finish - start).tdiv episodePoints)⟩

/-- Lets a range pass that has points and does not run backwards. -/
def check (range : TimeRange) : Except Fault Unit :=
  if range.step ≤ 0 then .error .step
  else if range.finish < range.start then .error .order
  else .ok ()

open Json in
/-- A range as a record. -/
def record : Record TimeRange :=
  TimeRange.mk <$> .required "start" .int64 <*> .required "end" .int64 <*> .required "step" .int64

end TimeRange

end RuleWatch
