/-!
# Codes of failures

The classes of failures that a client can tell apart, each with a number of its own and the HTTP
status that goes with it. The number zero is for successes.
-/

namespace RuleWatch.Api

/-- A class of failures. -/
inductive Code
  | badRequest
  | notFound
  | conflict
  | payloadTooLarge
  | invalidRule
  /-- The change is kept, and the detector has not been told. -/
  | unannounced
  | storage
  | detectorUnavailable
  | detectorUndecodable
  deriving DecidableEq, Repr

namespace Code

/-- All classes. -/
def all : List Code :=
  [badRequest, notFound, conflict, payloadTooLarge, invalidRule, unannounced, storage,
    detectorUnavailable, detectorUndecodable]

/-- The number of a class. -/
def number : Code → Nat
  | badRequest => 1001
  | notFound => 1004
  | conflict => 1005
  | payloadTooLarge => 1013
  | invalidRule => 1101
  | unannounced => 1201
  | storage => 1501
  | detectorUnavailable => 1502
  | detectorUndecodable => 1503

/-- The HTTP status of a class. -/
def status : Code → Nat
  | badRequest | invalidRule => 400
  | notFound => 404
  | conflict => 409
  | payloadTooLarge => 413
  | unannounced => 202
  | storage => 500
  | detectorUnavailable => 503
  | detectorUndecodable => 502

theorem number_ne_zero (c : Code) : c.number ≠ 0 := by
  cases c <;> decide

theorem number_injective {c d : Code} (h : c.number = d.number) : c = d := by
  revert h
  cases c <;> cases d <;> simp [number]

end Code

end RuleWatch.Api
