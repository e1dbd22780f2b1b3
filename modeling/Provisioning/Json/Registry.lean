import Provisioning.Calendar.Reading
import Provisioning.Json.Object
import Provisioning.Server.Config
import Provisioning.Server.Registry

/-!
# Settings and registered objects in JSON

Times are told in UTC. When an object is read, only its name and its sponsor have to be there, and a
time of creation or expiry that is missing is the present.
-/

namespace Provisioning

open Json (field field? items?)
open Calendar (Instant)

instance : ToJson Instant := ⟨fun t => .text t.recordText⟩

instance : OfJson Instant where ofJson? := Json.named Instant.ofText?

/-! ## Registered objects -/

/-- The fields of an object's history. -/
def History.fields (h : History) : List (String × Json) :=
  field "roid" h.roid ++ field "sponsor" h.sponsor ++ field "creator" h.creator ++
    field "created" h.created ++ field "updater" h.updater ++ field "updated" h.updated ++
    field "transferred" h.transferred

instance : ToJson ContactRecord :=
  ⟨fun r => .record (field "id" r.id ++ r.history.fields ++ field "linked" r.linked ++
    field "statuses" r.statuses ++ field "name" r.name ++ field "org" r.org ++
    field "street" r.street ++ field "city" r.city ++ field "state" r.state ++
    field "postal_code" r.postalCode ++ field "country" r.country ++ field "voice" r.voice ++
    field "voice_ext" r.voiceExtension ++ field "fax" r.fax ++ field "fax_ext" r.faxExtension ++
    field "email" r.email ++ field "auth_password" r.authPassword)⟩

instance : ToJson HostRecord :=
  ⟨fun r => .record (field "name" r.name ++ r.history.fields ++ field "linked" r.linked ++
    field "statuses" r.statuses ++ field "addresses" r.addresses)⟩

instance : ToJson DomainRecord :=
  ⟨fun r => .record (field "name" r.name ++ r.history.fields ++ field "expires" r.expires ++
    field "statuses" r.statuses ++ field "registrant" r.registrant ++ field "admin" r.admin ++
    field "billing" r.billing ++ field "tech" r.tech ++ field "nameservers" r.nameservers ++
    field "hosts" r.hosts ++ field "auth_password" r.authPassword)⟩

def History.ofJson? (now : Instant) (j : Json) : Option History := do
  return { roid := ← j.readD "roid" ""
           sponsor := ← j.read "sponsor"
           creator := ← j.readD "creator" ""
           created := ← j.readD "created" now
           updater := ← j.read "updater"
           updated := ← j.read "updated"
           transferred := ← j.read "transferred" }

def ContactRecord.ofJson? (now : Instant) (j : Json) : Option ContactRecord := do
  return { id := ← j.read "id"
           history := ← History.ofJson? now j
           linked := ← j.readD "linked" false
           statuses := ← j.read "statuses"
           name := ← j.readD "name" ""
           org := ← j.read "org"
           street := ← j.read "street"
           city := ← j.readD "city" ""
           state := ← j.read "state"
           postalCode := ← j.read "postal_code"
           country := ← j.readD "country" ""
           voice := ← j.readD "voice" ""
           voiceExtension := ← j.read "voice_ext"
           fax := ← j.readD "fax" ""
           faxExtension := ← j.read "fax_ext"
           email := ← j.readD "email" ""
           authPassword := ← j.readD "auth_password" "" }

def HostRecord.ofJson? (now : Instant) (j : Json) : Option HostRecord := do
  return { name := ← j.read "name"
           history := ← History.ofJson? now j
           linked := ← j.readD "linked" false
           statuses := ← j.read "statuses"
           addresses := ← j.read "addresses" }

def DomainRecord.ofJson? (now : Instant) (j : Json) : Option DomainRecord := do
  return { name := ← j.read "name"
           history := ← History.ofJson? now j
           expires := ← j.readD "expires" now
           statuses := ← j.read "statuses"
           registrant := ← j.read "registrant"
           admin := ← j.read "admin"
           billing := ← j.read "billing"
           tech := ← j.read "tech"
           nameservers := ← j.read "nameservers"
           hosts := ← j.read "hosts"
           authPassword := ← j.readD "auth_password" "" }

def Seed.ofJson? (now : Instant) (j : Json) : Option Seed := do
  let contacts : List Json ← j.read "contacts"
  let hosts : List Json ← j.read "hosts"
  let domains : List Json ← j.read "domains"
  return { contacts := ← contacts.mapM (ContactRecord.ofJson? now)
           hosts := ← hosts.mapM (HostRecord.ofJson? now)
           domains := ← domains.mapM (DomainRecord.ofJson? now) }

/-! ## Settings -/

instance : ToJson Account :=
  ⟨fun a => .record (field "login_id" a.loginId ++ field "password_hash" a.passwordHash ++
    field "registrar_id" a.registrarId)⟩

instance : ToJson AccountSettings :=
  ⟨fun a => .record (field "login_id" a.loginId ++ field? "password" a.password ++
    field? "password_hash" a.passwordHash ++ field "registrar_id" a.registrarId)⟩

instance : OfJson AccountSettings where
  ofJson? j := do
    return { loginId := ← j.read "login_id"
             password := ← j.read "password"
             passwordHash := ← j.read "password_hash"
             registrarId := ← j.read "registrar_id" }

instance : ToJson NetworkSettings :=
  ⟨fun n => .record (field "host" n.host ++ field "port" n.port ++
    field "idle_timeout_secs" n.idleTimeout ++
    field "max_failed_login_attempts" n.maxFailedLogins ++
    field "queue_capacity" n.queueCapacity ++ field "max_frame_size" n.maxFrameSize ++
    field "server_id" n.serverId)⟩

instance : ToJson Config :=
  ⟨fun c => .record (field "network" c.network ++ field "accounts" c.accounts ++
    field "registry" (Json.record (field "seed_file" c.seedFile)))⟩

end Provisioning
