/-
**Partitions of removable disks.**

The flag file that tells whether a disk can be removed has the name of the disk, and a partition has that name and a
number. How a disk whose name ends in a digit is told from its number depends on the kind of the disk: there a `p`
stands between them. The names that are tried for a partition are its own, the one without its digits at the end, and
for these kinds what stands before its last `p`. So the disk is found, as long as no other one has a name that is tried
before; and its flag decides.

* `IsPartOf`: **the names of the partitions of a disk**.
* `Drive.lastPart_device`, `Drive.withoutNumber_append`, `Drive.beforePartition?_append`: what the three names are.
* `Drive.findSome?_blockDevices`: **the flag file of the disk is the first one that can be read**.
* `Host.isRemovable_iff_of_isPartOf`: so its flag decides whether a partition can be removed.
* `Machine.LeavesOut`, `Machine.leavesOut_iff`: a partition whose drive is never listed, and when it is one.
* `Machine.obeysFlag_of_isPartOf`: what it comes to for any partition of a disk.
-/

import HostWatch.Proofs.Host.LocalDrives
import HostWatch.Proofs.Text.Decimal
import Mathlib.Data.List.DropRight

namespace HostWatch

open Text

/-! ### Names of partitions -/

/-- The beginnings of the names of disks whose partitions have a `p` before their number. -/
def markedKinds : List (List Char) := ["nvme".toList, "mmcblk".toList]

/-- **The name of a partition of a disk**, or that of the whole disk. -/
inductive IsPartOf (disk : List Char) : List Char → Prop
  | whole : IsPartOf disk disk
  | numbered (number : Nat) (unnumbered : ∀ c, disk.getLast? = some c → isAsciiDigit c = false) :
      IsPartOf disk (disk ++ Nat.toDigits 10 number)
  | marked (number : Nat) {kind : List Char} (member : kind ∈ markedKinds) (starts : kind <+: disk) :
      IsPartOf disk (disk ++ 'p' :: Nat.toDigits 10 number)

/-- The name of something in a directory; the point is the name of the directory itself. -/
structure IsEntryName (name : List Char) : Prop where
  nonempty : name ≠ []
  notPoint : name ≠ ['.']
  noSlash : '/' ∉ name

theorem isAsciiDigit_of_mem_toDigits {number : Nat} : ∀ c ∈ Nat.toDigits 10 number, isAsciiDigit c = true :=
  isDigit_of_mem_toDigits

/-- A name that is longer than that of something in a directory can be one as well. -/
theorem IsEntryName.append {name tail : List Char} (entry : IsEntryName name) (longer : tail ≠ [])
    (noSlash : '/' ∉ tail) : IsEntryName (name ++ tail) where
  nonempty := List.append_ne_nil_of_left_ne_nil entry.nonempty tail
  notPoint := by
    intro point
    rcases List.append_eq_singleton_iff.1 point with ⟨empty, -⟩ | ⟨-, empty⟩
    · exact entry.nonempty empty
    · exact longer empty
  noSlash := List.not_mem_append entry.noSlash noSlash

theorem IsEntryName.of_isPartOf {disk name : List Char} (entry : IsEntryName disk) (isPartOf : IsPartOf disk name) :
    IsEntryName name := by
  have noSlash (number : Nat) : '/' ∉ Nat.toDigits 10 number :=
    fun slash => absurd (isAsciiDigit_of_mem_toDigits _ slash) (by decide)
  cases isPartOf with
  | whole => exact entry
  | numbered number => exact entry.append Nat.toDigits_ne_nil (noSlash number)
  | marked number =>
    exact entry.append (List.cons_ne_nil _ _) (List.not_mem_cons_of_ne_of_not_mem (by decide) (noSlash number))

namespace Drive

/-- The device of a partition has its name. -/
theorem lastPart_device {name : List Char} (entry : IsEntryName name) : lastPart ("/dev/".toList ++ name) = name := by
  have cut (before after : List Char) :
      (before ++ '/' :: after).splitOn '/' = before.splitOn '/' ++ after.splitOn '/' :=
    List.splitOnP_append_cons before after (p := (· == '/')) rfl
  have parts : ("/dev/".toList ++ name).splitOn '/' = [[], ['d', 'e', 'v'], name] := by
    show ([] ++ '/' :: (['d', 'e', 'v'] ++ '/' :: name)).splitOn '/' = _
    rw [cut, cut, List.splitOn_eq_singleton entry.noSlash]
    rfl
  have last : name ≠ [] ∧ name ≠ ['.'] := ⟨entry.nonempty, entry.notPoint⟩
  unfold lastPart
  rw [parts]
  simp [last]

section Names

variable {stem : List Char} (number : Nat)

/-- Without its number a name is what stands before it. -/
theorem withoutNumber_append (unnumbered : ∀ c, stem.getLast? = some c → isAsciiDigit c = false) :
    withoutNumber (stem ++ Nat.toDigits 10 number) = stem := by
  have digits : ∀ c ∈ (Nat.toDigits 10 number).reverse, isAsciiDigit c = true :=
    fun c member => isAsciiDigit_of_mem_toDigits c (List.mem_reverse.1 member)
  have kept : stem.rdropWhile isAsciiDigit = stem := by
    rw [List.rdropWhile_eq_self_iff]
    intro nonempty
    rw [unnumbered _ (List.getLast?_eq_some_getLast nonempty)]
    exact Bool.false_ne_true
  unfold withoutNumber
  rw [List.reverse_append, List.dropWhile_append_of_pos digits]
  exact kept

/-- **Before the last `p`** there stands the name of the disk, whatever other letters `p` are in it. -/
theorem beforePartition?_append {kind : List Char} (member : kind ∈ markedKinds) (starts : kind <+: stem) :
    beforePartition? (stem ++ 'p' :: Nat.toDigits 10 number) = some stem := by
  have begins (tail : List Char) : kind.isPrefixOf (stem ++ tail) = true :=
    List.isPrefixOf_iff_prefix.2 (starts.trans (List.prefix_append stem tail))
  have marked (tail : List Char) :
      ("nvme".toList.isPrefixOf (stem ++ tail) || "mmcblk".toList.isPrefixOf (stem ++ tail)) = true := by
    rcases List.mem_cons.1 member with rfl | member
    · rw [begins, Bool.true_or]
    · obtain rfl := List.mem_singleton.1 member
      rw [begins, Bool.or_true]
  have behind : ∀ c ∈ (Nat.toDigits 10 number).reverse, (decide (c ≠ 'p')) = true := by
    intro c member
    have digit := isDigit_of_mem_toDigits c (List.mem_reverse.1 member)
    refine decide_eq_true ?_
    rintro rfl
    cases digit
  have within : (stem ++ 'p' :: Nat.toDigits 10 number).contains 'p' = true := by simp
  unfold beforePartition?
  rw [marked, within, Bool.and_true, if_pos rfl, List.reverse_append, List.reverse_cons, List.append_assoc,
    List.dropWhile_append_of_pos behind]
  simp

end Names

/-- Of some names the first one with a flag decides, here that of the disk, which stands among those without one. -/
theorem findSome?_of_mem {flag : List Char → Option (List Char)} {disk text : List Char} (told : flag disk = some text)
    {names : List (List Char)} (member : disk ∈ names) (others : ∀ other ∈ names, other ≠ disk → flag other = none)
    (more : List (List Char)) : (names ++ more).findSome? flag = some text := by
  induction names with
  | nil => cases member
  | cons first rest ih =>
    obtain ⟨none, others⟩ := List.forall_mem_cons.1 others
    rw [List.cons_append, List.findSome?_cons]
    by_cases same : first = disk
    · rw [same, told]
    · rw [none same]
      exact ih ((List.mem_cons.1 member).resolve_left (Ne.symm same)) others

/-- **The flag of the disk is the one that is found for a partition.** -/
theorem findSome?_blockDevices {host : Host} {disk name text : List Char} (entry : IsEntryName disk)
    (isPartOf : IsPartOf disk name) (told : host.flagText? disk = some text)
    (others : ∀ other ∈ [name, name.rdropWhile isAsciiDigit], other ≠ disk → host.flagText? other = none) :
    (blockDevices ("/dev/".toList ++ name)).findSome? host.flagText? = some text := by
  have names : blockDevices ("/dev/".toList ++ name) =
      [name, name.rdropWhile isAsciiDigit] ++ (beforePartition? name).toList := by
    unfold blockDevices
    rw [lastPart_device (entry.of_isPartOf isPartOf)]
    rfl
  rw [names]
  cases isPartOf with
  | whole => exact findSome?_of_mem told List.mem_cons_self others _
  | numbered number unnumbered =>
    have second : (disk ++ Nat.toDigits 10 number).rdropWhile isAsciiDigit = disk :=
      withoutNumber_append number unnumbered
    refine findSome?_of_mem told ?_ others _
    rw [second]
    exact List.mem_cons_of_mem _ List.mem_cons_self
  | marked number member starts =>
    rw [beforePartition?_append number member starts, ← List.append_nil (_ ++ _)]
    refine findSome?_of_mem told (List.mem_append_right _ List.mem_cons_self) (fun other member => ?_) []
    rcases List.mem_append.1 member with member | member
    · exact others other member
    · exact fun different => absurd (List.mem_singleton.1 member) different

end Drive

/-- **A partition can be removed just when the flag of its disk says so.** -/
theorem Host.isRemovable_iff_of_isPartOf {host : Host} {disk name text : List Char}
    (linuxDevices : host.linuxDevices = true) (entry : IsEntryName disk) (isPartOf : IsPartOf disk name)
    (told : host.flagText? disk = some text)
    (others : ∀ other ∈ [name, name.rdropWhile isAsciiDigit], other ≠ disk → host.flagText? other = none) :
    host.IsRemovable ("/dev/" ++ String.ofList name) ↔ trimmed text = ['1'] := by
  have found : (Drive.blockDevices ("/dev/" ++ String.ofList name).toList).findSome? host.flagText? = some text := by
    have named : (String.ofList name).toList = name := String.toList_ofList
    rw [String.toList_append, named]
    exact Drive.findSome?_blockDevices entry isPartOf told others
  constructor
  · rintro ⟨-, -, first, same, flagged⟩
    rwa [Option.some.inj (found.symm.trans same)]
  · exact fun flagged => ⟨linuxDevices, ⟨_, rfl⟩, text, found, flagged⟩

/-! ### What is left out -/

namespace Machine

variable (machine : Machine)

/-- **A partition is left out**: the drives are the same without it, whatever else the host lists. -/
def LeavesOut (partition : Partition) : Prop :=
  ∀ before after,
    machine.drivesWith (some (before ++ partition :: after)) = machine.drivesWith (some (before ++ after))

theorem leavesOut_iff {partition : Partition} :
    machine.LeavesOut partition ↔ ¬ partition.IsLocal machine.host := by
  constructor
  · intro leftOut counts
    -- On its own it would be the only drive.
    have alone : Drive.ofPartitions machine.host [partition] = [] := Except.ok.inj (leftOut [] [])
    have member : Drive.ofPartition partition ∈ Drive.ofPartitions machine.host [partition] :=
      Drive.mem_ofPartitions_iff.2 ⟨partition, rfl, counts, [], [], rfl, nofun⟩
    rw [alone] at member
    cases member
  · intro foreign before after
    have rejected : ¬ Drive.isLocal machine.host partition = true := mt Drive.isLocal_iff.1 foreign
    rw [drivesWith_some, drivesWith_some]
    unfold Drive.ofPartitions
    rw [List.filter_append, List.filter_cons_of_neg rejected, ← List.filter_append]

/-- A flag with some text decides whether a partition is listed. -/
structure ObeysFlag (partition : Partition) (text : List Char) : Prop where
  leavesOut_iff : machine.LeavesOut partition ↔ trimmed text = ['1']
  /-- It is listed otherwise, unless another one takes its place at the mount point. -/
  listed : trimmed text ≠ ['1'] → ∀ before after,
    (∀ later ∈ after, ¬ (later.mountPoint = partition.mountPoint ∧ later.IsLocal machine.host)) →
    ∃ drives, machine.drivesWith (some (before ++ partition :: after)) = .ok drives ∧
      .ofPartition partition ∈ drives

/-- **The flag of a disk decides for each of its partitions**, when the other names that are tried before have none. -/
theorem obeysFlag_of_isPartOf {partition : Partition} {disk name text : List Char}
    (linuxDevices : machine.host.linuxDevices = true) (entry : IsEntryName disk) (isPartOf : IsPartOf disk name)
    (told : machine.host.flagText? disk = some text)
    (others : ∀ other ∈ [name, name.rdropWhile isAsciiDigit], other ≠ disk → machine.host.flagText? other = none)
    (device : partition.device = "/dev/" ++ String.ofList name) (kind : partition.IsOfLocalKind) :
    machine.ObeysFlag partition text := by
  have removable : machine.host.IsRemovable partition.device ↔ trimmed text = ['1'] :=
    device ▸ Host.isRemovable_iff_of_isPartOf linuxDevices entry isPartOf told others
  constructor
  · rw [leavesOut_iff, ← removable]
    exact ⟨fun foreign => by_contra fun kept => foreign ⟨kind, kept⟩, fun is counts => counts.device is⟩
  · intro kept before after last
    have counts : partition.IsLocal machine.host := ⟨kind, mt removable.1 kept⟩
    exact ⟨_, machine.drivesWith_some _,
      Drive.mem_ofPartitions_iff.2 ⟨partition, rfl, counts, before, after, rfl, last⟩⟩

end Machine

/-- A host with two disks, of which the name of one could be that of a partition of the other. -/
def Host.twoDisks : Host :=
  { Host.bare with removableFlags := [("nvmep0", .text "0"), ("nvmep0p1", .text "1\n")] }

/-- A partition of the disk that can be removed. -/
def Partition.onStick : Partition := ⟨"/dev/nvmep0p1p12", "/data", "ext4", "rw,noatime"⟩

theorem Machine.obeysFlag_onStick : (Machine.ofHost Host.twoDisks).ObeysFlag Partition.onStick ['1', '\n'] ∧
    (Machine.ofHost Host.twoDisks).LeavesOut Partition.onStick := by
  have entry : IsEntryName "nvmep0p1".toList := ⟨by decide, by decide, by decide⟩
  have isPartOf : IsPartOf "nvmep0p1".toList "nvmep0p1p12".toList :=
    have starts : "nvme".toList <+: "nvmep0p1".toList := by decide
    .marked 12 List.mem_cons_self starts
  have kind : Partition.onStick.IsOfLocalKind := ⟨by decide, by decide⟩
  have obeys : (Machine.ofHost Host.twoDisks).ObeysFlag Partition.onStick ['1', '\n'] :=
    Machine.obeysFlag_of_isPartOf _ rfl entry isPartOf (by decide) (by decide) rfl kind
  exact ⟨obeys, obeys.leavesOut_iff.2 (by decide)⟩

end HostWatch
