/-
**Mails about problems.**

A mail shows a set of reports in two forms, of which the reader's program shows the last one that it
understands: as lines of text and as a table in HTML. A part that is all ASCII is sent as it is, and
any other part in the encoding of bytes as letters.
-/
import HostWatch.Config.Basic
import HostWatch.Failure
import HostWatch.Problem.Html

namespace HostWatch

/-- One form of what a mail says. -/
structure MailPart where
  mediaType : String
  text : String
deriving DecidableEq

namespace MailPart

/-- Whether a part needs no encoding. -/
def isAscii (part : MailPart) : Bool := part.text.toList.all fun c => c.toNat < 128

/-- The character set in which a part is sent. -/
def charset (part : MailPart) : String := if part.isAscii then "us-ascii" else "utf-8"

/-- The way in which the bytes of a part are sent. -/
def encoding (part : MailPart) : String := if part.isAscii then "7bit" else "base64"

end MailPart

/-- A mail. -/
structure Mail where
  subject : String
  /-- The sender as it is configured, an empty text when there is none. -/
  sender : Value
  /-- The addresses that it goes to, with commas between them. -/
  recipients : Value
  /-- The forms of what it says, the best one last. -/
  parts : List MailPart

namespace Mail

/-- The media type of a mail as a whole. -/
def mediaType : String := "multipart/alternative"

/-- What a mail is about; a mail sent as a test says so. -/
def subjectOf (testing : Bool) : String :=
  "WebMon: Problems notification" ++ if testing then " (testing mail)" else ""

/-- The lines and the table of some reports. -/
def partsOf (reports : List Report) : List MailPart :=
  [⟨"text/plain", Report.format "\n" reports⟩,
    ⟨"text/html", "<html><body>\n" ++ Html.table reports ++ "\n</body></html>"⟩]

def of (config : Config) (reports : List Report) (testing : Bool) : Except Failure Mail :=
  match config.addresses with
  | .error fault => .error (.config fault)
  | .ok addresses => .ok {
      subject := subjectOf testing
      sender := (config.text .mailSender).orEmpty
      recipients := .ofGlyphs (Config.joinAddresses addresses)
      parts := partsOf reports }

end Mail

end HostWatch
