/-!
# Failures of the store

What a store can refuse to do.
-/

namespace RuleWatch.Store

/-- What a row is. -/
inductive Entity
  | rule
  | analysis
  deriving DecidableEq, Repr

def Entity.name : Entity → String
  | .rule => "rule"
  | .analysis => "analysis"

/-- Why the store did not do what was asked. -/
inductive Failure
  | notFound (entity : Entity) (id : Int)
  /-- A value that must be unique is taken. -/
  | conflict (entity : Entity) (message : String)
  | invalidOrder (message : String)
  | invalidPage (message : String)
  /-- The database itself failed. -/
  | database (message : String)
  deriving DecidableEq, Repr

/-- What went wrong, in words. -/
def Failure.message : Failure → String
  | .notFound entity id =>
    "Storage: " ++ entity.name ++ " not found (id=" ++ toString id ++ ")"
  | .conflict entity text =>
    "Storage: " ++ entity.name ++ " conflicts with an existing row: " ++ text
  | .invalidOrder text => "Storage: invalid sort: " ++ text
  | .invalidPage text => "Storage: invalid page: " ++ text
  | .database text => "Storage: database error: " ++ text

end RuleWatch.Store
