import RuleWatch.Config.Basic
import RuleWatch.Text.Utf8
import RuleWatch.Toml.Parser

/-!
# Loading the configuration

The configuration out of a file of settings. Settings that the server does not know are passed over;
one that it knows must be of the right kind and within bounds. A group of settings is a table, or an
array with the values in order, of which those at the end may be missing.
-/

namespace RuleWatch.Config

open Toml (Value Table)

/-- Why there is no configuration. -/
inductive Fault
  /-- There is no such file, or it is no text. -/
  | unreadable
  /-- The text is no settings, or a setting is not as it must be. -/
  | malformed
  deriving DecidableEq, Repr

/-- A text. -/
def text? : Value → Option String
  | .string s => some s
  | _ => none

/-- An integer from zero to a bound. -/
def natural? (most : Nat) : Value → Option Nat
  | .integer n => if 0 ≤ n ∧ n ≤ most then some n.toNat else none
  | _ => none

/-- The number of a port. -/
def port? (v : Value) : Option UInt16 :=
  (natural? 65535 v).map UInt16.ofNat

/-- A number of seconds. -/
def seconds? (v : Value) : Option UInt64 :=
  (natural? Text.maxUInt64 v).map UInt64.ofNat

/-- A group of settings as a table. A date has no settings that are known. -/
def group? (names : List String) : Value → Option Table
  | .table _ members => some members
  | .tables rows => some (names.zip (rows.map (.table .header)))
  | .array items => some (names.zip items)
  | .moment _ => some []
  | _ => none

/-- A setting, or what it is when nothing is said about it. -/
def setting {α : Type} (table : Table) (name : String) (read : Value → Option α) (standard : α) :
    Option α :=
  match table.lookup name with
  | some v => read v
  | none => some standard

def Database.ofValue? (v : Value) : Option Database := do
  let table ← group? ["url"] v
  let standard : Database := {}
  return { url := ← setting table "url" text? standard.url }

def Detector.ofValue? (v : Value) : Option Detector := do
  let table ← group? ["host", "port", "timeout_secs"] v
  let standard : Detector := {}
  return {
    host := ← setting table "host" text? standard.host
    port := ← setting table "port" port? standard.port
    timeoutSecs := ← setting table "timeout_secs" seconds? standard.timeoutSecs }

/-- The configuration that a table of settings gives. -/
def ofTable? (table : Table) : Option Config := do
  let standard : Config := {}
  return {
    httpPort := ← setting table "http_port" port? standard.httpPort
    logLevel := ← setting table "log_level" text? standard.logLevel
    database := ← setting table "database" Database.ofValue? standard.database
    detector := ← setting table "detector" Detector.ofValue? standard.detector }

/-- The configuration that is in a file, given its bytes, if there is such a file. -/
def load (content : Option Bytes) : Except Fault Config := do
  match content.bind Text.ofBytes? with
  | none => throw .unreadable
  | some s => match (Table.parse? s).bind ofTable? with
    | none => throw .malformed
    | some config => return config

end RuleWatch.Config
