/-
**Encryption of a mail connection.**
-/

namespace HostWatch

/-- How the connection to a mail server is encrypted. -/
inductive Encryption where
  | none
  /-- From the first byte on. -/
  | ssl
  /-- From a command on, after a plain greeting. -/
  | tls
deriving DecidableEq

namespace Encryption

/-- The word for an encryption in a configuration. -/
def word : Encryption → String
  | none => "none"
  | ssl => "ssl"
  | tls => "tls"

/-- The name of an encryption as a constant. -/
def constant : Encryption → String
  | none => "NONE"
  | ssl => "SSL"
  | tls => "TLS"

def all : List Encryption := [none, ssl, tls]

end Encryption

end HostWatch
