import Provisioning.Digest.Sha256
import Provisioning.Table
import Provisioning.Text.Hex
import Provisioning.Text.Upper
import Provisioning.Text.Utf8

/-!
# Credentials

Who may log in. Of a password only its digest is kept; a login is accepted when the digest of the
password given is the one that is kept.
-/

namespace Provisioning

/-- The digest of a password in lower-case hexadecimal. -/
def hashPassword (password : String) : String :=
  Text.Hex.encode (Digest.Sha256.digest (Text.Utf8.encode password))

/-- One login. -/
structure Account where
  loginId : String
  passwordHash : String
  /-- The registrar that sponsors the objects of this login. -/
  registrarId : String
  deriving DecidableEq

namespace Account

/-- The account of a digest that is already known, in either case. -/
def ofHash (loginId hash registrarId : String) : Account :=
  ⟨loginId, Text.lowerAscii hash, registrarId⟩

def ofPassword (loginId password registrarId : String) : Account :=
  ofHash loginId (hashPassword password) registrarId

/-- Whether the password is the one of the account. -/
def accepts (a : Account) (password : String) : Bool := hashPassword password == a.passwordHash

end Account

/-- Accounts by their login. -/
abbrev Credentials := Table Account

namespace Credentials

/-- Adds an account, or replaces the one with its login. -/
def add (c : Credentials) (a : Account) : Credentials := c.insert a.loginId a

/-- The accounts of a row; of two with one login the later one counts. -/
def ofAccounts (accounts : List Account) : Credentials := Table.ofList (·.loginId) accounts

/-- The account of the login, if the password is right. -/
def authenticate (c : Credentials) (loginId password : String) : Option Account :=
  (c.find? loginId).filter (·.accepts password)

theorem accepts_of_authenticate {c : Credentials} {loginId password : String} {a : Account}
    (h : c.authenticate loginId password = some a) : a.accepts password = true :=
  (Option.filter_eq_some_iff.1 h).2

end Credentials

end Provisioning
