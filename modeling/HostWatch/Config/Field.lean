/-
**The fields of a configuration and the keys that name them.**

A configuration has integer fields, each with bounds, one encryption and text fields. Each field has a
name; most also have older names, with letters in mixed case or with points, which a mapping may use
as keys instead.

* `IntegerField.bounds` gives the least and, where there is one, the greatest value.
* `Field.ofKey?` finds the field that a key names.
-/
import HostWatch.Value

namespace HostWatch.Config

/-- The integer fields, in the order in which they are checked. -/
inductive IntegerField where
  /-- A drive with less free space, in mebibytes, is a problem. -/
  | minFreeDiskSpace
  /-- A share of time in garbage collection from here on, in percent, is high. -/
  | gcCpuThreshold
  /-- So many samples in a row with a high share are a problem. -/
  | gcCpuSamples
  /-- A core usage from here on, in percent, is high. -/
  | cpuThreshold
  /-- So many samples in a row with a high usage are a problem. -/
  | cpuSamples
  /-- A pool that is so full after a collection, in percent, is a problem. -/
  | afterCollectionThreshold
  /-- A pool that is so full, in percent, is reported. -/
  | poolThreshold
  /-- A virtual memory that is so full, in percent, is a problem. -/
  | virtualMemoryThreshold
  /-- The port of the mail server; below one for the usual port. -/
  | mailPort
deriving DecidableEq

namespace IntegerField

/-- All integer fields, in the order in which they are checked. -/
def all : List IntegerField :=
  [minFreeDiskSpace, gcCpuThreshold, gcCpuSamples, cpuThreshold, cpuSamples,
    afterCollectionThreshold, poolThreshold, virtualMemoryThreshold, mailPort]

theorem mem_all (field : IntegerField) : field ∈ all := by
  cases field <;> decide

def name : IntegerField → String
  | minFreeDiskSpace => "min_free_disk_space_mb"
  | gcCpuThreshold => "gc_cpu_threshold"
  | gcCpuSamples => "gc_cpu_threshold_samples"
  | cpuThreshold => "cpu_threshold"
  | cpuSamples => "cpu_threshold_samples"
  | afterCollectionThreshold => "mem_after_gc_usage_threshold"
  | poolThreshold => "mem_usage_threshold"
  | virtualMemoryThreshold => "host_virt_mem_threshold"
  | mailPort => "mail_smtp_port"

/-- The least value of a field. -/
def least : IntegerField → Int
  | gcCpuSamples => 1
  | cpuSamples => 1
  | mailPort => -1
  | _ => 0

/-- The greatest value of a field that has one. -/
def greatest? : IntegerField → Option Int
  | minFreeDiskSpace => none
  | gcCpuSamples => none
  | cpuSamples => none
  | mailPort => some 65535
  | _ => some 100

/-- The value of a field that is not set. -/
def default : IntegerField → Int
  | minFreeDiskSpace => 100
  | gcCpuThreshold => 50
  | gcCpuSamples => 3
  | cpuThreshold => 90
  | cpuSamples => 5
  | afterCollectionThreshold => 85
  | poolThreshold => 90
  | virtualMemoryThreshold => 80
  | mailPort => -1

end IntegerField

/-- The text fields. -/
inductive TextField where
  /-- The mail server; mail is sent only when there is one. -/
  | mailHost
  | mailUser
  | mailPassword
  | mailSender
  /-- The addresses of the mails, between commas. -/
  | mailRecipients
  | webhook
deriving DecidableEq

namespace TextField

def all : List TextField :=
  [mailHost, mailUser, mailPassword, mailSender, mailRecipients, webhook]

theorem mem_all (field : TextField) : field ∈ all := by
  cases field <;> decide

def name : TextField → String
  | mailHost => "mail_smtp_host"
  | mailUser => "mail_smtp_username"
  | mailPassword => "mail_smtp_password"
  | mailSender => "mail_from"
  | mailRecipients => "mail_to"
  | webhook => "webhook_url"

/-- The value of a field that is not set: only the addresses of the mails have a text. -/
def default : TextField → Value
  | mailRecipients => .text ""
  | _ => .null

end TextField

/-- A field of a configuration. -/
inductive Field where
  | integer (field : IntegerField)
  | encryption
  | text (field : TextField)
deriving DecidableEq

namespace Field

def encryptionName : String := "mail_smtp_encryption"

def name : Field → String
  | integer field => field.name
  | encryption => encryptionName
  | text field => field.name

def all : List Field :=
  IntegerField.all.map integer ++ [encryption] ++ TextField.all.map text

theorem mem_all (field : Field) : field ∈ all := by
  cases field with
  | integer field => simp [all, IntegerField.mem_all]
  | encryption => simp [all]
  | text field => simp [all, TextField.mem_all]

/-- The older names, each with its field. -/
def olderNames : List (String × Field) :=
  [("minFreeDiskSpaceMb", integer .minFreeDiskSpace),
    ("gcCpuTreshold", integer .gcCpuThreshold),
    ("gcCpuThreshold", integer .gcCpuThreshold),
    ("gcCpuTresholdSamples", integer .gcCpuSamples),
    ("gcCpuThresholdSamples", integer .gcCpuSamples),
    ("cpuTreshold", integer .cpuThreshold),
    ("cpuThreshold", integer .cpuThreshold),
    ("cpuTresholdSamples", integer .cpuSamples),
    ("cpuThresholdSamples", integer .cpuSamples),
    ("memAfterGcUsageTreshold", integer .afterCollectionThreshold),
    ("memAfterGcUsageThreshold", integer .afterCollectionThreshold),
    ("memUsageTreshold", integer .poolThreshold),
    ("memUsageThreshold", integer .poolThreshold),
    ("hostVirtMem", integer .virtualMemoryThreshold),
    ("hostVirtMemThreshold", integer .virtualMemoryThreshold),
    ("mail.smtp.host", text .mailHost),
    ("mail.smtp.port", integer .mailPort),
    ("mail.smtp.encryption", encryption),
    ("mail.smtp.username", text .mailUser),
    ("mail.smtp.password", text .mailPassword),
    ("mail.from", text .mailSender),
    ("mail.to", text .mailRecipients)]

def ofName? (key : String) : Option Field :=
  all.find? fun field => field.name == key

/-- The field that a key names, by its name or by an older one. -/
def ofKey? (key : String) : Option Field :=
  (olderNames.lookup key).or (ofName? key)

end Field

end HostWatch.Config
