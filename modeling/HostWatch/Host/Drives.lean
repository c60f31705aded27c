/-
**Local drives.**

A drive is local unless its file system is of a network, its options say that it can be removed, or, on
Linux, the flag file of its block device says so. The block device of a partition has the name of the
partition without its number; the first of the possible names that has a flag file counts.

* `localDrives` lists the drives in the order of their mount points.
* `freeMebibytes` is the free space at a mount point.
-/
import HostWatch.Host.Machine
import HostWatch.Text.Digit
import HostWatch.Text.LetterCase

namespace HostWatch

/-- A local drive. -/
structure Drive where
  device : String
  mountPoint : String
  fileSystem : String
deriving DecidableEq

namespace Drive

/-- The types of the file systems of a network. -/
def networkFileSystems : List String := [
  "nfs", "nfs4", "cifs", "smbfs", "smb3", "sshfs", "fuse.sshfs", "afs", "ncpfs", "9p", "glusterfs",
  "ceph"]

/-- The options that say that a drive can be removed. -/
def removableOptions : List String := ["cdrom", "removable"]

/-- The last part of a path that names something. -/
def lastPart (path : List Char) : List Char :=
  ((path.splitOn '/').filter fun part => part ≠ [] ∧ part ≠ ['.']).getLastD []

/-- A name without the digits at its end. -/
def withoutNumber (name : List Char) : List Char :=
  (name.reverse.dropWhile Text.isAsciiDigit).reverse

/-- The part of a name before its last `p`, for names of the kinds that number partitions so. -/
def beforePartition? (name : List Char) : Option (List Char) :=
  if ("nvme".toList.isPrefixOf name || "mmcblk".toList.isPrefixOf name) && name.contains 'p' then
    some (((name.reverse.dropWhile (· ≠ 'p')).drop 1).reverse)
  else none

/-- The names that the block device of a device can have, the most likely one first. -/
def blockDevices (device : List Char) : List (List Char) :=
  let name := lastPart device
  [name, withoutNumber name] ++ (beforePartition? name).toList

/-- Whether the flag file of a device says that it can be removed; without such a file it cannot. -/
def isRemovable (flags : List (String × HostFile)) (device : String) : Bool :=
  let texts := (blockDevices device.toList).filterMap fun name =>
    (flags.lookup (String.ofList name)).bind HostFile.read?
  (texts.head?.map Text.trimmed) == some ['1']

/-- Whether a device is one of the devices of Linux. -/
def isDevicePath (device : String) : Bool := "/dev/".toList.isPrefixOf device.toList

/-- Whether a partition is on a local drive. -/
def isLocal (host : Host) (partition : Partition) : Bool :=
  let options := partition.options.toList.splitOn ','
  let isOneOf (words : List String) (s : List Char) : Bool :=
    words.any fun word => Text.equalsIgnoringCase s word
  !isOneOf networkFileSystems partition.fileSystem.toList &&
    !(options.any (isOneOf removableOptions)) &&
    !(host.linuxDevices && isDevicePath partition.device &&
      isRemovable host.removableFlags partition.device)

/-- The drives with one more, in the order of their mount points; of two drives at one mount point the
later one stays. -/
def insert (drive : Drive) : List Drive → List Drive
  | [] => [drive]
  | other :: rest =>
    if drive.mountPoint = other.mountPoint then drive :: rest
    else if drive.mountPoint < other.mountPoint then drive :: other :: rest
    else other :: insert drive rest

def ofPartition (partition : Partition) : Drive :=
  ⟨partition.device, partition.mountPoint, partition.fileSystem⟩

/-- The local drives among some partitions. -/
def ofPartitions (host : Host) (partitions : List Partition) : List Drive :=
  (partitions.filter (isLocal host)).foldl (fun drives p => insert (ofPartition p) drives) []

end Drive

/-- The local drives of a host, none when it cannot list its partitions. -/
def localDrives : Probe (List Drive) := do
  let host ← Probe.host
  return Drive.ofPartitions host (host.partitions.getD [])

/-- The error reported for a mount point that does not exist. -/
def missingMountPoint : ReportedError := HostFile.missingError

/-- The free space at a mount point, in mebibytes. -/
def freeMebibytes (mountPoint : String) : Probe Int := do
  match ((← Probe.host).freeSpace.lookup mountPoint).getD (.error missingMountPoint) with
  | .ok bytes => return bytes / MemoryUsage.mebibyte
  | .error error => throw (.reported error)

end HostWatch
