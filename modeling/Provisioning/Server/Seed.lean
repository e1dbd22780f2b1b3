import Provisioning.Calendar.Reading
import Provisioning.Server.Registry
import Provisioning.Yaml.Value

/-!
# Seed files

A file that lists contacts, hosts and domains. Only the name of an object and its sponsor have to be
there; a time that is left out is the time at which the file is read.
-/

namespace Provisioning.Seed

open Yaml
open Calendar (Instant)

/-- The fields of an object. -/
abbrev Fields := List (String × Value)

def readInstant (v : Value) : Option Instant := v.text?.bind Instant.ofText?

def readText (fields : Fields) (key : String) : Option String :=
  Value.defaulted? Value.text? "" fields key

def readOption {α : Type} (read : Value → Option α) (fields : Fields) (key : String) :
    Option (Option α) :=
  Value.defaulted? (Value.optional? read) none fields key

def readList {α : Type} (read : Value → Option α) (fields : Fields) (key : String) :
    Option (List α) :=
  Value.defaulted? (fun v => do (← v.items?).mapM read) [] fields key

def readAddress (v : Value) : Option HostAddress := do
  let fields ← v.fields?
  let ip ← IpVersion.ofLabel? (← Value.required? Value.choice? fields "ip")
  let address ← Value.required? Value.text? fields "address"
  return ⟨ip, address⟩

def readHistory (now : Instant) (fields : Fields) : Option History := do
  let roid ← readText fields "roid"
  let sponsor ← Value.required? Value.text? fields "sponsor"
  let creator ← readText fields "creator"
  let created ← Value.defaulted? readInstant now fields "created"
  let updater ← readOption Value.text? fields "updater"
  let updated ← readOption readInstant fields "updated"
  let transferred ← readOption readInstant fields "transferred"
  return ⟨roid, sponsor, creator, created, updater, updated, transferred⟩

def readContact (now : Instant) (v : Value) : Option ContactRecord := do
  let fields ← v.fields?
  return { id := ← Value.required? Value.text? fields "id"
           history := ← readHistory now fields
           linked := ← Value.defaulted? Value.bool? false fields "linked"
           statuses := ← readList Value.text? fields "statuses"
           name := ← readText fields "name"
           org := ← readOption Value.text? fields "org"
           street := ← readList Value.text? fields "street"
           city := ← readText fields "city"
           state := ← readOption Value.text? fields "state"
           postalCode := ← readOption Value.text? fields "postal_code"
           country := ← readText fields "country"
           voice := ← readText fields "voice"
           voiceExtension := ← readOption Value.text? fields "voice_ext"
           fax := ← readText fields "fax"
           faxExtension := ← readOption Value.text? fields "fax_ext"
           email := ← readText fields "email"
           authPassword := ← readText fields "auth_password" }

def readHost (now : Instant) (v : Value) : Option HostRecord := do
  let fields ← v.fields?
  return { name := ← Value.required? Value.text? fields "name"
           history := ← readHistory now fields
           linked := ← Value.defaulted? Value.bool? false fields "linked"
           statuses := ← readList Value.text? fields "statuses"
           addresses := ← readList readAddress fields "addresses" }

def readDomain (now : Instant) (v : Value) : Option DomainRecord := do
  let fields ← v.fields?
  return { name := ← Value.required? Value.text? fields "name"
           history := ← readHistory now fields
           expires := ← Value.defaulted? readInstant now fields "expires"
           statuses := ← readList Value.text? fields "statuses"
           registrant := ← readOption Value.text? fields "registrant"
           admin := ← readOption Value.text? fields "admin"
           billing := ← readOption Value.text? fields "billing"
           tech := ← readOption Value.text? fields "tech"
           nameservers := ← readList Value.text? fields "nameservers"
           hosts := ← readList Value.text? fields "hosts"
           authPassword := ← readText fields "auth_password" }

/-- The objects that the text of a file lists. -/
def ofText? (now : Instant) (s : String) : Option Seed := do
  let fields ← (← Value.ofText? s).fields?
  return { contacts := ← readList (readContact now) fields "contacts"
           hosts := ← readList (readHost now) fields "hosts"
           domains := ← readList (readDomain now) fields "domains" }

end Provisioning.Seed
