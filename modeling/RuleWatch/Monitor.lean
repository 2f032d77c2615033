import RuleWatch.Json.Decoder

/-!
# Monitor views

The records in which the detector describes the machines it watches. Every part that is left out
has a value of its own: the empty text, zero, or the record of such values.
-/

namespace RuleWatch.Monitor

open Json

/-- A text that is empty when left out. -/
def text (name : String) : Record String :=
  .defaulted name [] .string ""

/-- A number that is zero when left out. -/
def number (name : String) : Record Double :=
  .defaulted name [] .double Double.zero

/-- A count that is zero when left out. -/
def count (name : String) : Record Int :=
  .defaulted name [] .int64 0

/-- Something that is watched, and how it is. -/
structure Target where
  machine : String
  status : String
  deriving DecidableEq, Repr, Inhabited

def Target.record : Record Target :=
  Target.mk <$> text "instance" <*> text "status"

def Target.toJson (t : Target) : Json :=
  .object [("instance", .string t.machine), ("status", .string t.status)]

/-- All that is watched. -/
structure Targets where
  targets : List Target
  deriving DecidableEq, Repr, Inhabited

def Targets.record : Record Targets :=
  Targets.mk <$> .defaulted "targets" [] (.list Target.record.decoder) []

def Targets.toJson (t : Targets) : Json :=
  .object [("targets", .ofList Target.toJson t.targets)]

/-- The platform of a machine. -/
structure NodeInfo where
  machine : String
  arch : String
  kernelVersion : String
  osVersion : String
  deriving DecidableEq, Repr, Inhabited

/-- The version of the kernel also goes by an old misspelt key. -/
def NodeInfo.record : Record NodeInfo :=
  NodeInfo.mk <$> text "instance" <*> text "arch"
    <*> .defaulted "kernel_version" ["kernal_version"] .string "" <*> text "os_version"

def NodeInfo.toJson (n : NodeInfo) : Json :=
  .object [("instance", .string n.machine), ("arch", .string n.arch),
    ("kernel_version", .string n.kernelVersion), ("os_version", .string n.osVersion)]

/-- How many containers run, of how many. -/
structure Containers where
  running : Int
  total : Int
  deriving DecidableEq, Repr, Inhabited

def Containers.empty : Containers := ⟨0, 0⟩

def Containers.record : Record Containers :=
  Containers.mk <$> count "running" <*> count "total"

def Containers.toJson (c : Containers) : Json :=
  .object [("running", .ofInt c.running), ("total", .ofInt c.total)]

/-- How much of the processors is in use. -/
structure Cpu where
  usage : Double
  usedCore : Double
  totalCore : Double
  numberCores : Int
  deriving DecidableEq, Repr, Inhabited

def Cpu.empty : Cpu := ⟨.zero, .zero, .zero, 0⟩

def Cpu.record : Record Cpu :=
  Cpu.mk <$> number "usage" <*> number "used_core" <*> number "total_core" <*> count "number_cores"

def Cpu.toJson (c : Cpu) : Json :=
  .object [("usage", .ofDouble c.usage), ("used_core", .ofDouble c.usedCore),
    ("total_core", .ofDouble c.totalCore), ("number_cores", .ofInt c.numberCores)]

/-- How much of a memory or of a disk is in use. -/
structure Capacity where
  usage : Double
  usedBytes : Double
  totalBytes : Double
  deriving DecidableEq, Repr, Inhabited

def Capacity.empty : Capacity := ⟨.zero, .zero, .zero⟩

def Capacity.record : Record Capacity :=
  Capacity.mk <$> number "usage" <*> number "used_bytes" <*> number "total_bytes"

def Capacity.toJson (c : Capacity) : Json :=
  .object [("usage", .ofDouble c.usage), ("used_bytes", .ofDouble c.usedBytes),
    ("total_bytes", .ofDouble c.totalBytes)]

/-- What is in use on a machine. -/
structure NodeStatus where
  machine : String
  container : Containers
  cpu : Cpu
  memory : Capacity
  disk : Capacity
  deriving DecidableEq, Repr, Inhabited

def NodeStatus.record : Record NodeStatus :=
  NodeStatus.mk <$> text "instance"
    <*> .defaulted "container" [] Containers.record.decoder .empty
    <*> .defaulted "cpu" [] Cpu.record.decoder .empty
    <*> .defaulted "memory" [] Capacity.record.decoder .empty
    <*> .defaulted "disk" [] Capacity.record.decoder .empty

def NodeStatus.toJson (n : NodeStatus) : Json :=
  .object [("instance", .string n.machine), ("container", n.container.toJson),
    ("cpu", n.cpu.toJson), ("memory", n.memory.toJson), ("disk", n.disk.toJson)]

end RuleWatch.Monitor
