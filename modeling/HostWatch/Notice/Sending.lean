/-
**Sending reports to servers.**

Reports go out as mails and as postings to a web address, each only when it is configured. What is said
to the servers is an `Exchange`; a `Conversation` notes the exchanges in their order and ends with the
first one that fails.

* `sendMail` opens a session with the mail server, which it also leaves when something in it fails.
* `sendPosting` posts the reports and fails when the answer has the status of an error.
-/
import HostWatch.Notice.Mail

namespace HostWatch

/-- What is posted about some reports. -/
structure Posting where
  testing : Bool
  reports : List Report
deriving DecidableEq

namespace Posting

/-- The program that postings name as their source. -/
def source : String := "webmon"

/-- Whether a posting is about a problem. -/
def problem (posting : Posting) : Bool := Report.anyFlagged posting.reports

end Posting

/-- What is said to a server. -/
inductive Exchange where
  /-- The opening of a session with a mail server; port zero is the usual one. -/
  | connect (encrypted : Bool) (host : String) (port : Int)
  | startTls
  | login (user password : Value)
  | send (mail : Mail)
  | quit
  | post (address : String) (posting : Posting)

/-- The seconds to wait for a server. -/
def Exchange.timeout : Exchange → Int
  | post .. => 10
  | _ => 30

/-- The answer of a web server. -/
structure WebAnswer where
  status : Int
  reason : String

/-- The error that the answer to a posting stands for, if it does. -/
def WebAnswer.error? (answer : WebAnswer) (address : String) : Option ReportedError :=
  let error (side : String) : Option ReportedError :=
    let text := s!"{answer.status} {side} Error: {answer.reason} for url: {address}"
    some (.of "HTTPError" [.text text])
  if 400 ≤ answer.status ∧ answer.status < 500 then error "Client"
  else if 500 ≤ answer.status ∧ answer.status < 600 then error "Server"
  else none

/-- How the servers answer. -/
structure Servers where
  /-- The error that an exchange with the mail server fails with, if it does. -/
  mailError? : Exchange → Option ReportedError
  /-- The answer to a posting, or the error that it fails with. -/
  web : Except ReportedError WebAnswer

/-- The error that an exchange fails with, if it does. -/
def Servers.error? (servers : Servers) : Exchange → Option ReportedError
  | .post address _ =>
    match servers.web with
    | .error error => some error
    | .ok answer => answer.error? address
  | exchange => servers.mailError? exchange

/-- A computation that notes the exchanges in it, and may fail. -/
abbrev Conversation := ExceptT Failure (StateM (List Exchange))

namespace Conversation

def exchange (servers : Servers) (e : Exchange) : Conversation Unit := do
  modify (· ++ [e])
  match servers.error? e with
  | none => return
  | some error => throw (.reported error)

def told {α : Type} (answer : Except Config.Fault α) : Conversation α :=
  ofExcept (answer.mapError .config)

/-- How a conversation ends, as a value to go on with. -/
def outcome {α : Type} (c : Conversation α) : Conversation (Except Failure α) := ExceptT.lift c.run

/-- The exchanges of a conversation, and how it ends. -/
def held {α : Type} (c : Conversation α) : Except Failure α × List Exchange := c.run.run []

end Conversation

open Conversation

/-- The exchanges between the opening and the end of a session with a mail server. -/
def mailSession (servers : Servers) (config : Config) (mail : Mail) : Conversation Unit := do
  if config.encryption = .tls then exchange servers .startTls
  match config.text .mailUser with
  | .null => pure ()
  | user => exchange servers (.login user (config.text .mailPassword).orEmpty)
  exchange servers (.send mail)

/-- Mails some reports when mail is configured. -/
def sendMail (servers : Servers) (config : Config) (reports : List Report) (testing : Bool) :
    Conversation Unit := do
  if ← told config.mailEnabled then
    let mail ← ofExcept (Mail.of config reports testing)
    let host ← told (config.textOf .mailHost)
    exchange servers (.connect (config.encryption = .ssl) (Text.trim host)
      (max (config.integer .mailPort) 0))
    let result ← (mailSession servers config mail).outcome
    exchange servers .quit
    ofExcept result

/-- Posts some reports when there is an address for it. -/
def sendPosting (servers : Servers) (config : Config) (reports : List Report) (testing : Bool) :
    Conversation Unit := do
  if ← told config.webhookEnabled then
    let address ← told (config.textOf .webhook)
    exchange servers (.post (Text.trim address) ⟨testing, reports⟩)

/-- The two ways in which reports go out. -/
def Servers.outlets (servers : Servers) :
    List (Config → List Report → Bool → Conversation Unit) :=
  [sendMail servers, sendPosting servers]

end HostWatch
