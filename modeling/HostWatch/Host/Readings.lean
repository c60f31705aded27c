/-
**What a host shows.**

A `Host` holds every figure and every file that the library reads, at one moment: counters, memory, clocks,
drives and threads. A file can be missing, or there and unreadable. A figure that cannot be had stands
as `none`, or as the error that the host reports in its place.
-/
import HostWatch.Failure
import HostWatch.Text.Blank

namespace HostWatch

/-- A file of the host. -/
inductive HostFile where
  /-- There is no such file. -/
  | missing
  | unreadable
  | text (s : String)

namespace HostFile

/-- The error reported for a file that does not exist. -/
def missingError : ReportedError :=
  .of ReportedError.systemCategory [.int 2, .text "No such file or directory"]

/-- The error reported for a file that cannot be read. -/
def unreadableError : ReportedError := .of ReportedError.systemCategory []

def isThere : HostFile → Bool
  | missing => false
  | _ => true

/-- The text of a file, its line ends all alike. -/
def read : HostFile → Except ReportedError (List Char)
  | missing => .error missingError
  | unreadable => .error unreadableError
  | text s => .ok (Text.unifyLineEnds s.toList)

/-- The text of a file that can be read. -/
def read? (file : HostFile) : Option (List Char) :=
  match file.read with
  | .ok s => some s
  | .error _ => none

end HostFile

/-- A figure, or the error that the host reports in its place. -/
abbrev Reading (α : Type) := Except ReportedError α

/-- The times that the CPU spent in different ways, in seconds, each with the name of the way. -/
abbrev CpuTimes := List (String × Number)

/-- The clock of the CPU time of a thread. -/
inductive CpuClock where
  /-- There is no such clock. -/
  | none
  /-- The clock shows nanoseconds. -/
  | nanos (n : Int)
  /-- Reading the clock reports an error. -/
  | fails (error : ReportedError)

/-- Whether there is such a clock. -/
def CpuClock.exists : CpuClock → Bool
  | none => false
  | _ => true

/-- A frame of a stack. -/
structure Frame where
  file : String
  line : Int
  function : String

/-- A thread of the process. -/
structure LiveThread where
  /-- The identity of the thread, once it is started. -/
  id : Option Int
  /-- The identity that the operating system gives it, when known. -/
  nativeId : Option Int
  name : String
  /-- Whether the thread does not keep the process alive. -/
  daemon : Bool
  /-- The clock of its CPU time. -/
  clock : CpuClock
  stateFile : HostFile
  /-- The frames of its stack, the innermost one first. -/
  frames : List Frame

/-- A mounted file system. -/
structure Partition where
  device : String
  mountPoint : String
  fileSystem : String
  /-- The options of the mount, with commas between them. -/
  options : String

/-- The limit that the host sets on the memory of a process. -/
inductive AddressLimit where
  /-- There is no limit. -/
  | unlimited
  /-- The limit is a number of bytes. -/
  | bytes (n : Int)

/-- What a host shows at one moment. -/
structure Host where
  system : String
  statReadable : Bool
  /-- Whether the host offers the counters of Windows. -/
  windowsCounters : Bool
  /-- Whether the host offers the limits and block devices of Linux. -/
  linuxDevices : Bool
  /-- The number of CPUs by the first count. -/
  cpus : Option Int
  /-- The number of CPUs by the second count. -/
  otherCpus : Option Int
  /-- The number of clock ticks in a second. -/
  clockTicks : Reading Int
  pageSize : Reading Int
  processId : Int
  /-- The monotonic clock, in milliseconds. -/
  clock : Int
  /-- The time at which the monotonic clock was zero, in milliseconds. -/
  clockStart : Int
  cpuFile : HostFile
  diskFile : HostFile
  /-- The file with the counters of the own process. -/
  processFile : HostFile
  memoryFile : HostFile
  /-- The total and the available physical memory. -/
  physicalMemory : Option (Int × Int)
  swap : Option (Int × Int)
  cpuTimes : Option CpuTimes
  coreTimes : List CpuTimes
  /-- The user and the system time of the own process, in seconds. -/
  processTimes : Option (Number × Number)
  /-- The times that disks spent reading and writing, in milliseconds. -/
  diskTimes : Option (Int × Int)
  /-- Whether the own process cannot be inspected. -/
  processHidden : Bool
  resident : Option Int
  /-- The limit of the address space of the own process. -/
  addressLimit : Option AddressLimit
  /-- The files with the memory limit of the group of the own process, the one that counts first. -/
  groupLimits : List HostFile
  /-- The present and the greatest size of the traced allocations, when they are traced. -/
  traced : Option (Int × Int)
  modules : Int
  threads : List LiveThread
  partitions : Option (List Partition)
  /-- The flag files of block devices that tell whether they are removable. -/
  removableFlags : List (String × HostFile)
  freeSpace : List (String × Reading Int)

/-- A Linux host at the zero of its clocks that shows nothing but its system figures. -/
def Host.bare : Host where
  system := "linux"
  statReadable := true
  windowsCounters := false
  linuxDevices := true
  cpus := some 2
  otherCpus := some 3
  clockTicks := .ok 100
  pageSize := .ok 4096
  processId := 42
  clock := 0
  clockStart := 0
  cpuFile := .missing
  diskFile := .missing
  processFile := .missing
  memoryFile := .missing
  physicalMemory := none
  swap := none
  cpuTimes := none
  coreTimes := []
  processTimes := none
  diskTimes := none
  processHidden := false
  resident := some 0
  addressLimit := some .unlimited
  groupLimits := [.missing, .missing]
  traced := none
  modules := 0
  threads := []
  partitions := some []
  removableFlags := []
  freeSpace := []

/-- The wall clock, in milliseconds. -/
def Host.time (host : Host) : Int := host.clockStart + host.clock

end HostWatch
