import RuleWatch.Monitor
import RuleWatch.Proofs.Json.Settles

/-!
# What monitor views tell

What each record is read from: its members in any order, or its items in the order of its fields.
What is left out is empty or zero, and the version of the kernel may be given under its old key.
Whatever has been read is written so that the same is read again.
-/

namespace RuleWatch.Monitor

open Json

/-! ## Fields -/

theorem means_text (name : String) :
    (text name).Means fun members s ↦ Gives IsText "" s (under [name] members) :=
  Record.means_defaulted Decoder.reads_string name [] ""

theorem means_number (name : String) :
    (number name).Means fun members x ↦ Gives IsDouble .zero x (under [name] members) :=
  Record.means_defaulted Decoder.reads_double name [] .zero

theorem means_count (name : String) :
    (count name).Means fun members n ↦ Gives IsCount 0 n (under [name] members) :=
  Record.means_defaulted Decoder.reads_int64 name [] 0

section Written

variable {keys : List String} {members arranged : List (String × Json)}
  (h : (Json.object members).Rearranges (.object arranged))

include h

theorem gives_text {s : String} (hunder : under keys members = [.string s]) :
    Gives IsText "" s (under keys arranged) :=
  settles_text.gives (a := s) (f := id) ⟨_, rfl⟩ h hunder

theorem gives_number {x : Double} (hunder : under keys members = [.ofDouble x]) :
    Gives IsDouble .zero x (under keys arranged) :=
  settles_double.gives (a := x) (f := id) ⟨.ofDouble x, _, rfl, rfl⟩ h hunder

theorem gives_count {n : Int} {values : List Json} (hn : Gives IsCount 0 n values)
    (hunder : under keys members = [.ofInt n]) : Gives IsCount 0 n (under keys arranged) :=
  settles_count.gives (a := n) (f := id) (hn.exists_value ⟨.ofInt 0, rfl, by decide⟩) h hunder

end Written

section Words

variable {keys : List String} {members : List (String × Json)}
  (hwords : ∀ m ∈ members, m.2.FitsWords)

include hwords

theorem fitsWords_number {x : Double} (h : Gives IsDouble .zero x (under keys members)) :
    (Json.ofDouble x).FitsWords :=
  settles_double.fitsWords h (.number Double.isFinite_zero) hwords

theorem fitsWords_count {n : Int} (h : Gives IsCount 0 n (under keys members)) :
    (Json.ofInt n).FitsWords :=
  settles_count.fitsWords h (.number ⟨by decide, by decide⟩) hwords

end Words

/-! ## Targets -/

def IsTarget (v : Json) (t : Target) : Prop :=
  ∃ members, HasMembers ["instance", "status"] v members ∧
    Gives IsText "" t.machine (under ["instance"] members) ∧
    Gives IsText "" t.status (under ["status"] members)

theorem reads_target : Target.record.decoder.Reads IsTarget := by
  have hmeans := ((means_text "instance").map Target.mk).seq (means_text "status")
  refine (hmeans.congr ?_).decoder (by decide) (by decide)
  rintro members ⟨machine, status⟩
  simp

theorem settles_target : Settles IsTarget Target.toJson keep 1 where
  fits _ := by
    refine .object (by simp) ?_
    simp only [List.forall_mem_cons]
    exact ⟨.string _, .string _, by simp⟩
  words _ _ := by
    refine .object ?_
    simp only [List.forall_mem_cons]
    exact ⟨.string _, .string _, by simp⟩
  map_id _ := rfl
  write_map _ _ := rfl
  reads _ _ hw := by
    obtain ⟨arranged, _, rfl, -⟩ := hw.exists_members
    exact ⟨arranged, .object arranged, gives_text hw rfl, gives_text hw rfl⟩

def IsTargets (v : Json) (t : Targets) : Prop :=
  ∃ members, HasMembers ["targets"] v members ∧
    Gives (IsList IsTarget) [] t.targets (under ["targets"] members)

theorem reads_targets : Targets.record.decoder.Reads IsTargets := by
  have hmeans := (Record.means_defaulted reads_target.list "targets" [] []).map Targets.mk
  refine (hmeans.congr ?_).decoder (by decide) (by decide)
  rintro members ⟨targets⟩
  simp

theorem settles_targets : Settles IsTargets Targets.toJson keep 3 where
  fits := by
    rintro v t ⟨members, -, htargets⟩
    obtain ⟨v, hv⟩ := htargets.exists_value ⟨_, isList_nil⟩
    refine .object (by simp) ?_
    simp only [List.forall_mem_cons]
    exact ⟨settles_target.list.fits hv, by simp⟩
  words := by
    rintro v t ⟨members, hmembers, htargets⟩ hwords
    refine .object ?_
    simp only [List.forall_mem_cons]
    exact ⟨settles_target.list.fitsWords htargets (.array (by simp)) (hmembers.fitsWords hwords),
      by simp⟩
  map_id _ := rfl
  write_map f t := by
    have hlist := settles_target.list.write_map f t.targets
    rw [map_keep] at hlist
    change Json.object [("targets", .ofList Target.toJson t.targets)] =
      .object [("targets", Json.mapDoubles f (.ofList Target.toJson t.targets))]
    rw [← hlist]
  reads := by
    rintro v t w f ⟨members, -, htargets⟩ hw
    obtain ⟨arranged, _, rfl, -⟩ := hw.exists_members
    have hgiven :
        Gives (IsList IsTarget) [] (t.targets.map (keep f)) (under ["targets"] arranged) :=
      settles_target.list.gives (htargets.exists_value ⟨_, isList_nil⟩) hw (by rw [map_keep]; rfl)
    rw [map_keep] at hgiven
    exact ⟨arranged, .object arranged, hgiven⟩

/-! ## Platforms -/

def IsNodeInfo (v : Json) (n : NodeInfo) : Prop :=
  ∃ members, HasMembers ["instance", "arch", "kernel_version", "os_version"] v members ∧
    Gives IsText "" n.machine (under ["instance"] members) ∧
    Gives IsText "" n.arch (under ["arch"] members) ∧
    Gives IsText "" n.kernelVersion (under ["kernel_version", "kernal_version"] members) ∧
    Gives IsText "" n.osVersion (under ["os_version"] members)

theorem reads_nodeInfo : NodeInfo.record.decoder.Reads IsNodeInfo := by
  have hmeans := ((((means_text "instance").map NodeInfo.mk).seq (means_text "arch")).seq
    (Record.means_defaulted Decoder.reads_string "kernel_version" ["kernal_version"] "")).seq
    (means_text "os_version")
  refine (hmeans.congr ?_).decoder (by decide) (by decide)
  rintro members ⟨machine, arch, kernelVersion, osVersion⟩
  simp [and_assoc]

theorem settles_nodeInfo : Settles IsNodeInfo NodeInfo.toJson keep 1 where
  fits _ := by
    refine .object (by simp) ?_
    simp only [List.forall_mem_cons]
    exact ⟨.string _, .string _, .string _, .string _, by simp⟩
  words _ _ := by
    refine .object ?_
    simp only [List.forall_mem_cons]
    exact ⟨.string _, .string _, .string _, .string _, by simp⟩
  map_id _ := rfl
  write_map _ _ := rfl
  reads _ _ hw := by
    obtain ⟨arranged, _, rfl, -⟩ := hw.exists_members
    exact ⟨arranged, .object arranged, gives_text hw rfl, gives_text hw rfl, gives_text hw rfl,
      gives_text hw rfl⟩

/-- The version of the kernel may be given under its old key. -/
theorem kernelVersion_of_decoder {members : List (String × Json)} {n : NodeInfo} {v : Json}
    (h : NodeInfo.record.decoder.ofJson (.object members) = .ok n)
    (hv : ("kernal_version", v) ∈ members) : v = .string n.kernelVersion := by
  obtain ⟨_, ⟨⟩, -, -, hkernel, -⟩ := (reads_nodeInfo _ n).mp h
  exact hkernel.of_mem (mem_under_iff.mpr ⟨_, by simp, hv⟩)

/-! ## What is in use -/

def IsContainers (v : Json) (c : Containers) : Prop :=
  ∃ members, HasMembers ["running", "total"] v members ∧
    Gives IsCount 0 c.running (under ["running"] members) ∧
    Gives IsCount 0 c.total (under ["total"] members)

theorem reads_containers : Containers.record.decoder.Reads IsContainers := by
  have hmeans := ((means_count "running").map Containers.mk).seq (means_count "total")
  refine (hmeans.congr ?_).decoder (by decide) (by decide)
  rintro members ⟨running, total⟩
  simp

theorem settles_containers : Settles IsContainers Containers.toJson keep 1 where
  fits _ := by
    refine .object (by simp) ?_
    simp only [List.forall_mem_cons]
    exact ⟨.number _, .number _, by simp⟩
  words := by
    rintro v c ⟨members, hmembers, hrunning, htotal⟩ hv
    have hwords := hmembers.fitsWords hv
    refine .object ?_
    simp only [List.forall_mem_cons]
    exact ⟨fitsWords_count hwords hrunning, fitsWords_count hwords htotal, by simp⟩
  map_id _ := rfl
  write_map _ _ := rfl
  reads := by
    rintro v c w _ ⟨members, -, hrunning, htotal⟩ hw
    obtain ⟨arranged, _, rfl, -⟩ := hw.exists_members
    exact ⟨arranged, .object arranged, gives_count hw hrunning rfl, gives_count hw htotal rfl⟩

def IsCpu (v : Json) (c : Cpu) : Prop :=
  ∃ members, HasMembers ["usage", "used_core", "total_core", "number_cores"] v members ∧
    Gives IsDouble .zero c.usage (under ["usage"] members) ∧
    Gives IsDouble .zero c.usedCore (under ["used_core"] members) ∧
    Gives IsDouble .zero c.totalCore (under ["total_core"] members) ∧
    Gives IsCount 0 c.numberCores (under ["number_cores"] members)

theorem reads_cpu : Cpu.record.decoder.Reads IsCpu := by
  have hmeans := ((((means_number "usage").map Cpu.mk).seq (means_number "used_core")).seq
    (means_number "total_core")).seq (means_count "number_cores")
  refine (hmeans.congr ?_).decoder (by decide) (by decide)
  rintro members ⟨usage, usedCore, totalCore, numberCores⟩
  simp [and_assoc]

/-- The record with other doubles in it. -/
def Cpu.mapDoubles (f : Double → Double) (c : Cpu) : Cpu :=
  { c with usage := f c.usage, usedCore := f c.usedCore, totalCore := f c.totalCore }

theorem settles_cpu : Settles IsCpu Cpu.toJson Cpu.mapDoubles 1 where
  fits _ := by
    refine .object (by simp) ?_
    simp only [List.forall_mem_cons]
    exact ⟨.number _, .number _, .number _, .number _, by simp⟩
  words := by
    rintro v c ⟨members, hmembers, husage, hused, htotal, hcores⟩ hv
    have hwords := hmembers.fitsWords hv
    refine .object ?_
    simp only [List.forall_mem_cons]
    exact ⟨fitsWords_number hwords husage, fitsWords_number hwords hused,
      fitsWords_number hwords htotal, fitsWords_count hwords hcores, by simp⟩
  map_id _ := rfl
  write_map _ _ := rfl
  reads := by
    rintro v c w f ⟨members, -, -, -, -, hcores⟩ hw
    obtain ⟨arranged, _, rfl, -⟩ := hw.exists_members
    exact ⟨arranged, .object arranged, gives_number hw rfl, gives_number hw rfl,
      gives_number hw rfl, gives_count hw hcores rfl⟩

def IsCapacity (v : Json) (c : Capacity) : Prop :=
  ∃ members, HasMembers ["usage", "used_bytes", "total_bytes"] v members ∧
    Gives IsDouble .zero c.usage (under ["usage"] members) ∧
    Gives IsDouble .zero c.usedBytes (under ["used_bytes"] members) ∧
    Gives IsDouble .zero c.totalBytes (under ["total_bytes"] members)

theorem reads_capacity : Capacity.record.decoder.Reads IsCapacity := by
  have hmeans := (((means_number "usage").map Capacity.mk).seq (means_number "used_bytes")).seq
    (means_number "total_bytes")
  refine (hmeans.congr ?_).decoder (by decide) (by decide)
  rintro members ⟨usage, usedBytes, totalBytes⟩
  simp [and_assoc]

/-- The record with other doubles in it. -/
def Capacity.mapDoubles (f : Double → Double) (c : Capacity) : Capacity :=
  ⟨f c.usage, f c.usedBytes, f c.totalBytes⟩

theorem settles_capacity : Settles IsCapacity Capacity.toJson Capacity.mapDoubles 1 where
  fits _ := by
    refine .object (by simp) ?_
    simp only [List.forall_mem_cons]
    exact ⟨.number _, .number _, .number _, by simp⟩
  words := by
    rintro v c ⟨members, hmembers, husage, hused, htotal⟩ hv
    have hwords := hmembers.fitsWords hv
    refine .object ?_
    simp only [List.forall_mem_cons]
    exact ⟨fitsWords_number hwords husage, fitsWords_number hwords hused,
      fitsWords_number hwords htotal, by simp⟩
  map_id _ := rfl
  write_map _ _ := rfl
  reads _ _ hw := by
    obtain ⟨arranged, _, rfl, -⟩ := hw.exists_members
    exact ⟨arranged, .object arranged, gives_number hw rfl, gives_number hw rfl,
      gives_number hw rfl⟩

def IsNodeStatus (v : Json) (n : NodeStatus) : Prop :=
  ∃ members, HasMembers ["instance", "container", "cpu", "memory", "disk"] v members ∧
    Gives IsText "" n.machine (under ["instance"] members) ∧
    Gives IsContainers .empty n.container (under ["container"] members) ∧
    Gives IsCpu .empty n.cpu (under ["cpu"] members) ∧
    Gives IsCapacity .empty n.memory (under ["memory"] members) ∧
    Gives IsCapacity .empty n.disk (under ["disk"] members)

theorem reads_nodeStatus : NodeStatus.record.decoder.Reads IsNodeStatus := by
  have hmeans := (((((means_text "instance").map NodeStatus.mk).seq
    (Record.means_defaulted reads_containers "container" [] .empty)).seq
    (Record.means_defaulted reads_cpu "cpu" [] .empty)).seq
    (Record.means_defaulted reads_capacity "memory" [] .empty)).seq
    (Record.means_defaulted reads_capacity "disk" [] .empty)
  refine (hmeans.congr ?_).decoder (by decide) (by decide)
  rintro members ⟨machine, container, cpu, memory, disk⟩
  simp [and_assoc]

/-- Records without members are what is left out. -/
theorem isContainers_empty : IsContainers (.object []) .empty :=
  ⟨[], .object [], rfl, rfl⟩

theorem isCpu_empty : IsCpu (.object []) .empty :=
  ⟨[], .object [], rfl, rfl, rfl, rfl⟩

theorem isCapacity_empty : IsCapacity (.object []) .empty :=
  ⟨[], .object [], rfl, rfl, rfl⟩

/-- The record with other doubles in it. -/
def NodeStatus.mapDoubles (f : Double → Double) (n : NodeStatus) : NodeStatus :=
  { n with cpu := n.cpu.mapDoubles f, memory := n.memory.mapDoubles f, disk := n.disk.mapDoubles f }

theorem settles_nodeStatus : Settles IsNodeStatus NodeStatus.toJson NodeStatus.mapDoubles 2 where
  fits := by
    rintro v n ⟨members, -, -, hcontainer, hcpu, hmemory, hdisk⟩
    obtain ⟨_, hcontainer⟩ := hcontainer.exists_value ⟨_, isContainers_empty⟩
    obtain ⟨_, hcpu⟩ := hcpu.exists_value ⟨_, isCpu_empty⟩
    obtain ⟨_, hmemory⟩ := hmemory.exists_value ⟨_, isCapacity_empty⟩
    obtain ⟨_, hdisk⟩ := hdisk.exists_value ⟨_, isCapacity_empty⟩
    refine .object (by simp) ?_
    simp only [List.forall_mem_cons]
    exact ⟨.string _, settles_containers.fits hcontainer, settles_cpu.fits hcpu,
      settles_capacity.fits hmemory, settles_capacity.fits hdisk, by simp⟩
  words := by
    rintro v n ⟨members, hmembers, -, hcontainer, hcpu, hmemory, hdisk⟩ hv
    have hwords := hmembers.fitsWords hv
    have hobject : (Json.object []).FitsWords := .object (by simp)
    refine .object ?_
    simp only [List.forall_mem_cons]
    exact ⟨.string _,
      settles_containers.fitsWords hcontainer (settles_containers.words isContainers_empty hobject)
        hwords,
      settles_cpu.fitsWords hcpu (settles_cpu.words isCpu_empty hobject) hwords,
      settles_capacity.fitsWords hmemory (settles_capacity.words isCapacity_empty hobject) hwords,
      settles_capacity.fitsWords hdisk (settles_capacity.words isCapacity_empty hobject) hwords,
      by simp⟩
  map_id _ := rfl
  write_map _ _ := rfl
  reads := by
    rintro v n w f ⟨members, -, -, hcontainer, hcpu, hmemory, hdisk⟩ hw
    obtain ⟨arranged, _, rfl, -⟩ := hw.exists_members
    exact ⟨arranged, .object arranged, gives_text hw rfl,
      settles_containers.gives (f := f) (hcontainer.exists_value ⟨_, isContainers_empty⟩) hw rfl,
      settles_cpu.gives (hcpu.exists_value ⟨_, isCpu_empty⟩) hw rfl,
      settles_capacity.gives (hmemory.exists_value ⟨_, isCapacity_empty⟩) hw rfl,
      settles_capacity.gives (hdisk.exists_value ⟨_, isCapacity_empty⟩) hw rfl⟩

end RuleWatch.Monitor
