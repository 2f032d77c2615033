import RuleWatch.Config.Load
import RuleWatch.Store.Address

/-!
# The command line

What the command does with its arguments: it explains itself, or it starts the server under the
configuration in a file. The start can fail, and then the command says why and ends.
-/

namespace RuleWatch

/-- What the command is asked to do. -/
inductive Command
  | help
  /-- To start the server with the configuration in a file. -/
  | start (path : String)
  deriving DecidableEq, Repr

namespace Command

/-- The file that is read when none is named. -/
def standardPath : String := "config/server.toml"

/-- Only the first argument counts. -/
def ofArgs : List String → Command
  | [] => start standardPath
  | "--help" :: _ | "-h" :: _ => help
  | path :: _ => start path

/-- What the command says about itself. -/
def usage : String :=
  "Usage:\n  anomon-server [config.toml]    Start the server (default " ++ standardPath ++ ")\n"

/-- Why the server did not start. -/
inductive Fault
  | config (path : String) (fault : Config.Fault)
  /-- The store at this address cannot be opened. -/
  | store (address : String)
  /-- Nothing can listen on this port. -/
  | port (number : UInt16)
  deriving DecidableEq, Repr

/-- What is said when the server did not start. A password is not. -/
def Fault.message : Fault → String
  | .config path .unreadable =>
    "Failed to read config file '" ++ path ++ "': not there, or not a text"
  | .config path .malformed =>
    "Failed to parse config file '" ++ path ++ "': not the settings of a server"
  | .store address =>
    "Storage: database error: cannot open " ++ Store.Address.redact address
  | .port number => "cannot listen on port " ++ toString number.toNat

/-- What the command finds around it. -/
structure Surroundings where
  content : String → Option Bytes
  files : Store.Address.Files
  canListen : UInt16 → Bool

/-- Nothing is there. -/
def Surroundings.none : Surroundings where
  content := fun _ ↦ .none
  files := .none
  canListen := fun _ ↦ false

/-- How a command comes out. -/
inductive Outcome
  | usage
  | failed (fault : Fault)
  | serving (config : Config)

/-- Starts a server: its configuration is read first, then its store is opened, then its port. -/
def startServer (around : Surroundings) (path : String) : Except Fault Config := do
  let config ← (Config.load (around.content path)).mapError (Fault.config path)
  if !Store.Address.opens around.files config.database.url then
    throw (.store config.database.url)
  if !around.canListen config.httpPort then
    throw (.port config.httpPort)
  return config

/-- Carries out a command. -/
def run (around : Surroundings) : Command → Outcome
  | help => .usage
  | start path =>
    match startServer around path with
    | .ok config => .serving config
    | .error fault => .failed fault

/-- The status with which the command ends. -/
def Outcome.status : Outcome → UInt8
  | usage => 0
  | failed _ => 1
  | serving _ => 0

/-- What the command writes to the stream for errors. -/
def Outcome.errorText : Outcome → String
  | usage => Command.usage
  | failed fault => "Error: " ++ fault.message ++ "\n"
  | serving _ => ""

end Command

end RuleWatch
