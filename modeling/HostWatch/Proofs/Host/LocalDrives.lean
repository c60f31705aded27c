/-
**Which drives are listed.**

Of the partitions of a host those count that are local: neither of a network, nor mounted as something that can be
removed, nor on a device that is. For each mount point the last one of them is listed, in the order of the mount
points. So a list of partitions can be put into any other order that keeps those of each mount point in theirs.

* `Partition.IsLocal`, `Drive.isLocal_iff`: **the partitions that count**, whatever the case of the letters.
* `Drive.ascending_insert`, `Drive.mem_insert_iff`: what becomes of the drives when one more is listed.
* `Drive.mem_listed_iff`: **of the partitions at a mount point the last one is listed**, by induction on the partitions.
* `Machine.drivesWith_listsLocal`: what it comes to for the local ones.
-/

import HostWatch.Host.Drives
import HostWatch.Proofs.Text.LowerCase
import Mathlib.Data.List.Induction
import Mathlib.Data.List.Sort

namespace HostWatch

open Text

/-- The last item of a kind has no other one of it behind. -/
theorem getLast?_filter_eq_some_iff {α : Type} {kind : α → Bool} {items : List α} {item : α} :
    (items.filter kind).getLast? = some item ↔ kind item = true ∧
      ∃ before after, items = before ++ item :: after ∧ ∀ later ∈ after, ¬ kind later = true := by
  rw [List.getLast?_filter, List.find?_eq_some_iff_append]
  simp only [Bool.not_eq_true', Bool.eq_false_iff, ne_eq]
  refine and_congr_right fun _ => ?_
  constructor
  · rintro ⟨after, before, split, others⟩
    refine ⟨before.reverse, after.reverse, ?_, fun later member => others later (List.mem_reverse.1 member)⟩
    rw [← List.reverse_reverse items, split, List.reverse_append, List.reverse_cons, List.append_assoc]
    rfl
  · rintro ⟨before, after, rfl, others⟩
    refine ⟨after.reverse, before.reverse, ?_, fun later member => others later (List.mem_reverse.1 member)⟩
    rw [List.reverse_append, List.reverse_cons, List.append_assoc]
    rfl

/-! ### Local partitions -/

/-- A text is one of some words, in letters of any case. -/
def IsOneOf (words : List String) (s : List Char) : Prop :=
  ∃ word ∈ words, lower (Glyph.ofText s) = Glyph.ofText word.toList

instance (words : List String) (s : List Char) : Decidable (IsOneOf words s) :=
  inferInstanceAs (Decidable (∃ word ∈ words, _))

theorem any_equalsIgnoringCase_iff {words : List String} (plain : ∀ word ∈ words, ArePlain word.toList)
    (s : List Char) : (words.any fun word => equalsIgnoringCase s word) = true ↔ IsOneOf words s := by
  rw [List.any_eq_true]
  refine exists_congr fun word => and_congr_right fun member => ?_
  exact equalsIgnoringCase_iff (plain word member)

/-- The text of the flag file of a block device, if there is one that can be read. -/
def Host.flagText? (host : Host) (name : List Char) : Option (List Char) :=
  (host.removableFlags.lookup (String.ofList name)).bind HostFile.read?

/-- **A device is removable**: it is a device of Linux, and of the flag files that its block device can have the first
one that can be read says so. -/
structure Host.IsRemovable (host : Host) (device : String) : Prop where
  linuxDevices : host.linuxDevices = true
  isDevice : ∃ name, device = "/dev/" ++ name
  flagged : ∃ text, (Drive.blockDevices device.toList).findSome? host.flagText? = some text ∧ trimmed text = ['1']

/-- The file system of a partition is not of a network, and its options do not say that it can be removed. -/
structure Partition.IsOfLocalKind (partition : Partition) : Prop where
  fileSystem : ¬ IsOneOf Drive.networkFileSystems partition.fileSystem.toList
  options : ∀ option ∈ partition.options.toList.splitOn ',', ¬ IsOneOf Drive.removableOptions option

/-- **A partition is local.** -/
structure Partition.IsLocal (host : Host) (partition : Partition) : Prop extends partition.IsOfLocalKind where
  device : ¬ host.IsRemovable partition.device

namespace Drive

theorem isDevicePath_iff {device : String} : isDevicePath device = true ↔ ∃ name, device = "/dev/" ++ name := by
  unfold isDevicePath
  rw [List.isPrefixOf_iff_prefix]
  constructor
  · rintro ⟨name, split⟩
    have named : (String.ofList name).toList = name := String.toList_ofList
    refine ⟨String.ofList name, String.toList_inj.1 ?_⟩
    rw [String.toList_append, named, split]
  · rintro ⟨name, rfl⟩
    rw [String.toList_append]
    exact List.prefix_append _ _

theorem isRemovable_iff {host : Host} {device : String} : isRemovable host.removableFlags device = true ↔
    ∃ text, (blockDevices device.toList).findSome? host.flagText? = some text ∧ trimmed text = ['1'] := by
  have first : isRemovable host.removableFlags device =
      (((blockDevices device.toList).findSome? host.flagText?).map trimmed == some ['1']) := by
    rw [← List.head?_filterMap]
    rfl
  rw [first, beq_iff_eq, Option.map_eq_some_iff]

/-- **The partitions that count** are the local ones. -/
theorem isLocal_iff {host : Host} {partition : Partition} :
    isLocal host partition = true ↔ partition.IsLocal host := by
  have parts : isLocal host partition =
      (!(networkFileSystems.any fun word => equalsIgnoringCase partition.fileSystem.toList word) &&
        !((partition.options.toList.splitOn ',').any fun option =>
          removableOptions.any fun word => equalsIgnoringCase option word) &&
        !(host.linuxDevices && isDevicePath partition.device &&
          isRemovable host.removableFlags partition.device)) := rfl
  have network (s : List Char) : (networkFileSystems.any fun word => equalsIgnoringCase s word) = true ↔
      IsOneOf networkFileSystems s := any_equalsIgnoringCase_iff (by decide) s
  have removable (s : List Char) : (removableOptions.any fun word => equalsIgnoringCase s word) = true ↔
      IsOneOf removableOptions s := any_equalsIgnoringCase_iff (by decide) s
  rw [parts]
  simp only [Bool.and_eq_true, Bool.not_eq_true', Bool.eq_false_iff, ne_eq, network, List.any_eq_true, removable,
    isDevicePath_iff, isRemovable_iff]
  constructor
  · rintro ⟨⟨fileSystem, options⟩, device⟩
    refine ⟨⟨fileSystem, fun option member is => options ⟨option, member, is⟩⟩, fun is => ?_⟩
    exact device ⟨⟨is.linuxDevices, is.isDevice⟩, is.flagged⟩
  · rintro ⟨⟨fileSystem, options⟩, device⟩
    refine ⟨⟨fileSystem, fun ⟨option, member, is⟩ => options option member is⟩, ?_⟩
    rintro ⟨⟨linux, isDevice⟩, flagged⟩
    exact device ⟨linux, isDevice, flagged⟩

instance (host : Host) (partition : Partition) : Decidable (partition.IsLocal host) :=
  decidable_of_iff _ isLocal_iff

/-! ### Lists of drives -/

/-- Drives in the order of their mount points, no two of them at one. -/
def Ascending (drives : List Drive) : Prop := drives.Pairwise fun drive later => drive.mountPoint < later.mountPoint

theorem mem_insert {drive other : Drive} {drives : List Drive} (member : other ∈ insert drive drives) :
    other = drive ∨ other ∈ drives := by
  induction drives with
  | nil => exact .inl (List.mem_singleton.1 member)
  | cons first rest ih =>
    unfold insert at member
    split at member
    · exact (List.mem_cons.1 member).imp_right (List.mem_cons_of_mem first)
    · split at member
      · exact List.mem_cons.1 member
      · rcases List.mem_cons.1 member with same | member
        · exact .inr (same ▸ List.mem_cons_self)
        · exact (ih member).imp_right (List.mem_cons_of_mem first)

/-- **The drives stay in their order** when one more is listed. -/
theorem ascending_insert (drive : Drive) {drives : List Drive} (ascending : Ascending drives) :
    Ascending (insert drive drives) := by
  induction drives with
  | nil => exact List.pairwise_singleton _ drive
  | cons first rest ih =>
    obtain ⟨before, others⟩ := List.pairwise_cons.1 ascending
    unfold insert
    split
    · rename_i same
      exact List.pairwise_cons.2 ⟨same ▸ before, others⟩
    · rename_i different
      split
      · rename_i less
        refine List.pairwise_cons.2 ⟨List.forall_mem_cons.2 ⟨less, fun later member => ?_⟩, ascending⟩
        exact String.lt_trans less (before later member)
      · rename_i notLess
        have less : first.mountPoint < drive.mountPoint :=
          Std.lt_of_le_of_ne (String.not_lt.1 notLess) (Ne.symm different)
        refine List.pairwise_cons.2 ⟨fun later member => ?_, ih others⟩
        rcases mem_insert member with rfl | member
        · exact less
        · exact before later member

/-- **A drive that is listed takes the place of the one at its mount point**, and leaves the others alone. -/
theorem mem_insert_iff {drive other : Drive} {drives : List Drive} (ascending : Ascending drives) :
    other ∈ insert drive drives ↔ other = drive ∨ other ∈ drives ∧ other.mountPoint ≠ drive.mountPoint := by
  induction drives with
  | nil => simp [insert]
  | cons first rest ih =>
    obtain ⟨before, others⟩ := List.pairwise_cons.1 ascending
    unfold insert
    split
    · rename_i same
      rw [List.mem_cons, List.mem_cons, same]
      refine or_congr_right ⟨fun member => ⟨.inr member, (Std.ne_of_lt (before other member)).symm⟩, ?_⟩
      rintro ⟨rfl | member, different⟩
      · exact absurd rfl different
      · exact member
    · rename_i different
      split
      · rename_i less
        have above : ∀ later ∈ first :: rest, drive.mountPoint < later.mountPoint :=
          List.forall_mem_cons.2 ⟨less, fun later member => String.lt_trans less (before later member)⟩
        rw [List.mem_cons]
        exact or_congr_right ⟨fun member => ⟨member, (Std.ne_of_lt (above other member)).symm⟩, And.left⟩
      · rw [List.mem_cons, List.mem_cons, ih others]
        constructor
        · rintro (rfl | rfl | ⟨member, apart⟩)
          · exact .inr ⟨.inl rfl, Ne.symm different⟩
          · exact .inl rfl
          · exact .inr ⟨.inr member, apart⟩
        · rintro (rfl | ⟨rfl | member, apart⟩)
          · exact .inr (.inl rfl)
          · exact .inl rfl
          · exact .inr (.inr ⟨member, apart⟩)

/-- Some partitions as drives, one for each mount point. -/
def listed (partitions : List Partition) : List Drive :=
  partitions.foldl (fun drives partition => insert (ofPartition partition) drives) []

theorem listed_concat (partitions : List Partition) (partition : Partition) :
    listed (partitions ++ [partition]) = insert (ofPartition partition) (listed partitions) :=
  List.foldl_concat _ _ _ _

theorem ascending_listed (partitions : List Partition) : Ascending (listed partitions) := by
  induction partitions using List.reverseRecOn with
  | nil => exact .nil
  | append_singleton partitions partition ih =>
    rw [listed_concat]
    exact ascending_insert _ ih

/-- **Of the partitions at a mount point the last one is listed.** -/
theorem mem_listed_iff {partitions : List Partition} {drive : Drive} :
    drive ∈ listed partitions ↔ ∃ partition, drive = ofPartition partition ∧
      (partitions.filter (·.mountPoint = drive.mountPoint)).getLast? = some partition := by
  induction partitions using List.reverseRecOn with
  | nil => simp [listed]
  | append_singleton partitions partition ih =>
    rw [listed_concat, mem_insert_iff (ascending_listed partitions), ih, List.filter_append]
    by_cases here : partition.mountPoint = drive.mountPoint
    · rw [List.filter_cons_of_pos (by simpa using here), List.filter_nil, List.getLast?_concat]
      constructor
      · rintro (is | ⟨-, apart⟩)
        · exact ⟨partition, is, rfl⟩
        · exact absurd here.symm apart
      · rintro ⟨last, is, same⟩
        exact .inl (Option.some.inj same ▸ is)
    · rw [List.filter_cons_of_neg (by simpa using here), List.filter_nil, List.append_nil]
      constructor
      · rintro (rfl | ⟨listed, -⟩)
        · exact absurd rfl here
        · exact listed
      · exact fun listed => .inr ⟨listed, Ne.symm here⟩

end Drive

/-! ### What is listed -/

/-- A partition is the last local one of those at its mount point. -/
def Partition.IsLastLocal (host : Host) (partitions : List Partition) (partition : Partition) : Prop :=
  partition.IsLocal host ∧ ∃ before after, partitions = before ++ partition :: after ∧
    ∀ later ∈ after, ¬ (later.mountPoint = partition.mountPoint ∧ later.IsLocal host)

namespace Drive

variable {host : Host} {partitions : List Partition}

theorem mem_ofPartitions {drive : Drive} : drive ∈ ofPartitions host partitions ↔
    ∃ partition, drive = ofPartition partition ∧
      ((partitions.filter (isLocal host)).filter (·.mountPoint = drive.mountPoint)).getLast? = some partition :=
  mem_listed_iff

/-- **Of the local partitions at a mount point the last one is listed.** -/
theorem mem_ofPartitions_iff {drive : Drive} : drive ∈ ofPartitions host partitions ↔
    ∃ partition, drive = ofPartition partition ∧ partition.IsLastLocal host partitions := by
  have counts (partition : Partition) :
      (decide (partition.mountPoint = drive.mountPoint) && isLocal host partition) = true ↔
        partition.mountPoint = drive.mountPoint ∧ partition.IsLocal host := by
    rw [Bool.and_eq_true, decide_eq_true_iff, isLocal_iff]
  rw [mem_ofPartitions]
  refine exists_congr fun partition => and_congr_right fun is => ?_
  rw [List.filter_filter, getLast?_filter_eq_some_iff]
  simp only [counts]
  subst is
  exact and_congr_left fun _ => and_iff_right rfl

theorem exists_mem_ofPartitions_iff {mountPoint : String} :
    (∃ drive ∈ ofPartitions host partitions, drive.mountPoint = mountPoint) ↔
      ∃ partition ∈ partitions, partition.IsLocal host ∧ partition.mountPoint = mountPoint := by
  constructor
  · rintro ⟨drive, member, rfl⟩
    obtain ⟨partition, rfl, isLocal, before, after, rfl, -⟩ := mem_ofPartitions_iff.1 member
    exact ⟨partition, List.mem_append_right _ List.mem_cons_self, isLocal, rfl⟩
  · rintro ⟨partition, member, counts, rfl⟩
    have there : partition ∈ (partitions.filter (isLocal host)).filter (·.mountPoint = partition.mountPoint) :=
      List.mem_filter.2 ⟨List.mem_filter.2 ⟨member, isLocal_iff.2 counts⟩, decide_eq_true rfl⟩
    have last := List.getLast?_eq_some_getLast (List.ne_nil_of_mem there)
    have same := of_decide_eq_true (List.mem_filter.1 (List.mem_of_getLast? last)).2
    refine ⟨ofPartition _, mem_ofPartitions.2 ⟨_, rfl, ?_⟩, same⟩
    rw [show (ofPartition _).mountPoint = _ from same]
    exact last

/-- **It does not matter in which order partitions of different mount points come.** -/
theorem ofPartitions_congr {others : List Partition}
    (same : ∀ mountPoint, others.filter (·.mountPoint = mountPoint) = partitions.filter (·.mountPoint = mountPoint)) :
    ofPartitions host others = ofPartitions host partitions := by
  have irreflexive : Std.Irrefl fun drive later : Drive => drive.mountPoint < later.mountPoint :=
    ⟨fun drive => String.lt_irrefl drive.mountPoint⟩
  have antisymm : Std.Antisymm fun drive later : Drive => drive.mountPoint < later.mountPoint :=
    ⟨fun _ _ less more => absurd more (String.lt_asymm less)⟩
  refine (ascending_listed _).eq_of_mem_iff (ascending_listed _) fun drive => ?_
  show drive ∈ ofPartitions host others ↔ drive ∈ ofPartitions host partitions
  rw [mem_ofPartitions, mem_ofPartitions, List.filter_comm, same, List.filter_comm]

end Drive

namespace Machine

variable (machine : Machine)

/-- What a machine finds when the host lists some partitions, or fails to list any. -/
def drivesWith (partitions : Option (List Partition)) : Except Failure (List Drive) :=
  (localDrives.run.run { machine with host := { machine.host with partitions := partitions } }).1

theorem drivesWith_some (partitions : List Partition) :
    machine.drivesWith (some partitions) = .ok (Drive.ofPartitions machine.host partitions) := rfl

/-- **The drives that are listed for some partitions.** -/
structure ListsLocal (partitions : List Partition) (drives : List Drive) : Prop where
  /-- They come in the order of their mount points, one for each. -/
  ascending : drives.Pairwise fun drive later => drive.mountPoint < later.mountPoint
  mountPoint_iff : ∀ mountPoint, (∃ drive ∈ drives, drive.mountPoint = mountPoint) ↔
    ∃ partition ∈ partitions, partition.IsLocal machine.host ∧ partition.mountPoint = mountPoint
  /-- Each is the last local partition at its mount point. -/
  mem_iff : ∀ drive, drive ∈ drives ↔
    ∃ partition, drive = .ofPartition partition ∧ partition.IsLastLocal machine.host partitions
  /-- None is of a network or on a device that can be removed. -/
  isLocal : ∀ drive ∈ drives, ¬ IsOneOf Drive.networkFileSystems drive.fileSystem.toList ∧
    ¬ machine.host.IsRemovable drive.device
  /-- The same are listed for any other order that keeps the partitions at each mount point in theirs. -/
  reordered : ∀ others : List Partition, (∀ mountPoint,
      others.filter (·.mountPoint = mountPoint) = partitions.filter (·.mountPoint = mountPoint)) →
    machine.drivesWith (some others) = .ok drives

/-- **The local partitions are listed**, and none when the host fails to list any. -/
theorem drivesWith_listsLocal : machine.drivesWith none = .ok [] ∧
    ∀ partitions, ∃ drives, machine.drivesWith (some partitions) = .ok drives ∧
      machine.ListsLocal partitions drives := by
  refine ⟨rfl, fun partitions => ⟨_, machine.drivesWith_some partitions, ?_⟩⟩
  refine ⟨Drive.ascending_listed _, fun _ => Drive.exists_mem_ofPartitions_iff, fun _ => Drive.mem_ofPartitions_iff,
    fun drive member => ?_, fun others same => ?_⟩
  · obtain ⟨partition, rfl, counts, -⟩ := Drive.mem_ofPartitions_iff.1 member
    exact ⟨counts.fileSystem, counts.device⟩
  · rw [drivesWith_some, Drive.ofPartitions_congr same]

end Machine

end HostWatch
