import Provisioning.Calendar.Instant
import Provisioning.Object.Address
import Provisioning.Table
import Provisioning.Text.Upper

/-!
# The registry

What is registered. Domains and hosts are found under their names in any case; contacts are found
under their identifiers as they are.
-/

namespace Provisioning

open Calendar (Instant)

/-- Who is responsible for an object, and when what happened to it. -/
structure History where
  roid : String
  /-- The registrar that the object belongs to. -/
  sponsor : String
  creator : String
  created : Instant
  updater : Option String
  updated : Option Instant
  transferred : Option Instant
  deriving DecidableEq

structure ContactRecord where
  id : String
  history : History
  /-- Another object refers to the contact. -/
  linked : Bool
  statuses : List String
  name : String
  org : Option String
  street : List String
  city : String
  state : Option String
  postalCode : Option String
  country : String
  voice : String
  voiceExtension : Option String
  fax : String
  faxExtension : Option String
  email : String
  authPassword : String
  deriving DecidableEq

structure HostRecord where
  name : String
  history : History
  /-- Another object refers to the host. -/
  linked : Bool
  statuses : List String
  addresses : List HostAddress
  deriving DecidableEq

structure DomainRecord where
  name : String
  history : History
  expires : Instant
  statuses : List String
  registrant : Option String
  admin : Option String
  billing : Option String
  tech : Option String
  nameservers : List String
  /-- The hosts whose names lie under the domain. -/
  hosts : List String
  authPassword : String
  deriving DecidableEq

/-- What a registry holds at first. -/
structure Seed where
  contacts : List ContactRecord := []
  hosts : List HostRecord := []
  domains : List DomainRecord := []

structure Registry where
  contacts : Table ContactRecord := {}
  hosts : Table HostRecord := {}
  domains : Table DomainRecord := {}

namespace Registry

/-- The key of a name in any case. -/
def nameKey (name : String) : String := Text.upper name

/-- The registry of a seed; of two objects with one key the later one counts. -/
def ofSeed (s : Seed) : Registry :=
  { contacts := Table.ofList (·.id) s.contacts
    hosts := Table.ofList (fun h => nameKey h.name) s.hosts
    domains := Table.ofList (fun d => nameKey d.name) s.domains }

def contact? (r : Registry) (id : String) : Option ContactRecord := r.contacts.find? id

def host? (r : Registry) (name : String) : Option HostRecord := r.hosts.find? (nameKey name)

def domain? (r : Registry) (name : String) : Option DomainRecord :=
  r.domains.find? (nameKey name)

/-- Whether there is an object of the kind with the name. -/
def holds (r : Registry) (k : ObjectKind) (name : String) : Bool :=
  match k with
  | .domain => (r.domain? name).isSome
  | .host => (r.host? name).isSome
  | .contact => (r.contact? name).isSome

/-- The registrar that an object belongs to. -/
def sponsor? (r : Registry) (k : ObjectKind) (name : String) : Option String :=
  match k with
  | .domain => (r.domain? name).map (·.history.sponsor)
  | .host => (r.host? name).map (·.history.sponsor)
  | .contact => (r.contact? name).map (·.history.sponsor)

theorem sponsor?_isSome (r : Registry) (k : ObjectKind) (name : String) :
    (r.sponsor? k name).isSome = r.holds k name := by
  cases k <;> simp [sponsor?, holds]

end Registry

end Provisioning
