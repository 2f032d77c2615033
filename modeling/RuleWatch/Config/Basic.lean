/-!
# The configuration of the server

What the server has to know before it can start. Every part has a value that it takes when nothing
is said about it.
-/

namespace RuleWatch

/-- Where rules and analysis results are kept. -/
structure Config.Database where
  /-- The address of the store. -/
  url : String := "sqlite://data/anomon.db?mode=rwc"
  deriving DecidableEq, Repr, Inhabited

/-- Where the detector listens, and how long it may take to answer. -/
structure Config.Detector where
  host : String := "127.0.0.1"
  port : UInt16 := 19091
  timeoutSecs : UInt64 := 10
  deriving DecidableEq, Repr, Inhabited

/-- The configuration of the server. -/
structure Config where
  httpPort : UInt16 := 8080
  logLevel : String := "info"
  database : Config.Database := {}
  detector : Config.Detector := {}
  deriving DecidableEq, Repr, Inhabited

end RuleWatch
