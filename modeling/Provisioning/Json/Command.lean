import Provisioning.Json.Object
import Provisioning.Message.Command

/-!
# Commands in JSON

Verbs that a command does not have are left out, and so are the kinds that a verb is not about.
-/

namespace Provisioning

open Json (field field? items?)

/-! ## Session and messages -/

instance : ToJson Login :=
  ⟨fun x => .record (field "client_id" x.clientId ++ field "password" x.password ++
    field? "new_password" x.newPassword ++ field "version" x.version ++
    field "language" x.language ++ field "object_uris" x.objectUris ++
    field "extension_uris" x.extensionUris)⟩

instance : OfJson Login where
  ofJson? j := do
    return { clientId := ← j.read "client_id"
             password := ← j.read "password"
             newPassword := ← j.read "new_password"
             version := ← j.read "version"
             language := ← j.read "language"
             objectUris := ← j.read "object_uris"
             extensionUris := ← j.read "extension_uris" }

instance : ToJson PollOp := ⟨fun op => .text op.label⟩

instance : OfJson PollOp where ofJson? := Json.named PollOp.ofLabel?

instance : ToJson Poll :=
  ⟨fun x => .record (field "op" x.op ++ field? "message_id" x.messageId)⟩

instance : OfJson Poll where
  ofJson? j := do
    return { op := ← j.read "op"
             messageId := ← j.read "message_id" }

/-! ## Check and delete -/

instance : ToJson UntypedCheck :=
  ⟨fun x => .record (field "namespaces" x.namespaces ++ field "names" x.names ++
    field "ids" x.ids)⟩

instance : OfJson UntypedCheck where
  ofJson? j := do
    return { namespaces := ← j.read "namespaces"
             names := ← j.read "names"
             ids := ← j.read "ids" }

instance : ToJson Check :=
  let names (key : String) (xs : List String) : Json := .record (field key xs)
  ⟨fun x => .record (field? "domain" (x.domain.map (names "names")) ++
    field? "host" (x.host.map (names "names")) ++
    field? "contact" (x.contact.map (names "ids")) ++ items? "generic" x.untyped)⟩

instance : OfJson Check where
  ofJson? j := do
    let names (key field : String) : Option (Option (List String)) :=
      match j.get? key with
      | none => some none
      | some x => (x.read field : Option (List String)).map some
    return { domain := ← names "domain" "names"
             host := ← names "host" "names"
             contact := ← names "contact" "ids"
             untyped := ← j.read "generic" }

instance : ToJson UntypedDelete :=
  ⟨fun x => .record (field "namespaces" x.namespaces ++ field "name" x.name ++ field "id" x.id)⟩

instance : OfJson UntypedDelete where
  ofJson? j := do
    return { namespaces := ← j.read "namespaces"
             name := ← j.read "name"
             id := ← j.read "id" }

instance : ToJson Delete :=
  let name (key : String) (n : String) : Json := .record (field key n)
  ⟨fun x => .record (field? "domain" (x.domain.map (name "name")) ++
    field? "host" (x.host.map (name "name")) ++ field? "contact" (x.contact.map (name "id")) ++
    field? "generic" x.untyped)⟩

instance : OfJson Delete where
  ofJson? j := do
    let name (key field : String) : Option (Option String) :=
      match j.get? key with
      | none => some none
      | some x => (x.read field : Option String).map some
    return { domain := ← name "domain" "name"
             host := ← name "host" "name"
             contact := ← name "contact" "id"
             untyped := ← j.read "generic" }

/-! ## Create -/

instance : ToJson DomainCreate :=
  ⟨fun x => .record (field "name" x.name ++ field "period" x.period ++ field "hosts" x.hosts ++
    field "registrant" x.registrant ++ field "contacts" x.contacts ++
    field "auth_info" (authInfoJson x.authInfo))⟩

instance : OfJson DomainCreate where
  ofJson? j := do
    return { name := ← j.read "name"
             period := ← j.read "period"
             hosts := ← j.read "hosts"
             registrant := ← j.read "registrant"
             contacts := ← j.read "contacts"
             authInfo := ← readAuthInfoJson j }

instance : ToJson HostCreate :=
  ⟨fun x => .record (field "name" x.name ++ field "addresses" x.addresses)⟩

instance : OfJson HostCreate where
  ofJson? j := do
    return { name := ← j.read "name"
             addresses := ← j.read "addresses" }

instance : ToJson ContactCreate :=
  ⟨fun x => .record (field "id" x.id ++ field "postal_info" x.postalInfo ++
    field "voice" x.voice ++ field "fax" x.fax ++ field "email" x.email ++
    field "auth_info" (authInfoJson x.authInfo))⟩

instance : OfJson ContactCreate where
  ofJson? j := do
    return { id := ← j.read "id"
             postalInfo := ← j.read "postal_info"
             voice := ← j.read "voice"
             fax := ← j.read "fax"
             email := ← j.read "email"
             authInfo := ← readAuthInfoJson j }

instance : ToJson UntypedCreate :=
  ⟨fun x => .record (field "namespaces" x.namespaces ++ field "id" x.id ++ field "name" x.name ++
    field "period" x.period ++ field "registrant" x.registrant ++ field "contacts" x.contacts ++
    field "postal_info" x.postalInfo ++ field "voice" x.voice ++ field "fax" x.fax ++
    field "email" x.email ++ field "hosts" x.hosts ++ field "addresses" x.addresses ++
    field "auth_info" (authInfoJson x.authInfo))⟩

instance : OfJson UntypedCreate where
  ofJson? j := do
    return { namespaces := ← j.read "namespaces"
             id := ← j.read "id"
             name := ← j.read "name"
             period := ← j.read "period"
             registrant := ← j.read "registrant"
             contacts := ← j.read "contacts"
             postalInfo := ← j.read "postal_info"
             voice := ← j.read "voice"
             fax := ← j.read "fax"
             email := ← j.read "email"
             hosts := ← j.read "hosts"
             addresses := ← j.read "addresses"
             authInfo := ← readAuthInfoJson j }

instance : ToJson Create :=
  ⟨fun x => .record (field? "domain" x.domain ++ field? "host" x.host ++
    field? "contact" x.contact ++ field? "generic" x.untyped)⟩

instance : OfJson Create where
  ofJson? j := do
    return { domain := ← j.read "domain"
             host := ← j.read "host"
             contact := ← j.read "contact"
             untyped := ← j.read "generic" }

/-! ## Info -/

instance : ToJson HostsFilter := ⟨fun f => .text f.label⟩

instance : OfJson HostsFilter where ofJson? := Json.named HostsFilter.ofLabel?

instance : ToJson DomainInfo :=
  ⟨fun x => .record (field "name" x.name ++ field "hosts" x.hosts ++
    field "auth_info" (authInfoJson x.authInfo))⟩

instance : OfJson DomainInfo where
  ofJson? j := do
    return { name := ← j.read "name"
             hosts := ← j.read "hosts"
             authInfo := ← readAuthInfoJson j }

instance : ToJson HostInfo :=
  ⟨fun x => .record (field "name" x.name ++ field "auth_info" (authInfoJson x.authInfo))⟩

instance : OfJson HostInfo where
  ofJson? j := do
    return { name := ← j.read "name"
             authInfo := ← readAuthInfoJson j }

instance : ToJson ContactInfo :=
  ⟨fun x => .record (field "id" x.id ++ field "auth_info" (authInfoJson x.authInfo))⟩

instance : OfJson ContactInfo where
  ofJson? j := do
    return { id := ← j.read "id"
             authInfo := ← readAuthInfoJson j }

instance : ToJson UntypedInfo :=
  ⟨fun x => .record (field "namespaces" x.namespaces ++ field "id" x.id ++ field "name" x.name ++
    field "hosts" x.hosts ++ field "auth_info" (authInfoJson x.authInfo))⟩

instance : OfJson UntypedInfo where
  ofJson? j := do
    return { namespaces := ← j.read "namespaces"
             id := ← j.read "id"
             name := ← j.read "name"
             hosts := ← j.read "hosts"
             authInfo := ← readAuthInfoJson j }

instance : ToJson Info :=
  ⟨fun x => .record (field? "domain" x.domain ++ field? "host" x.host ++
    field? "contact" x.contact ++ field? "generic" x.untyped)⟩

instance : OfJson Info where
  ofJson? j := do
    return { domain := ← j.read "domain"
             host := ← j.read "host"
             contact := ← j.read "contact"
             untyped := ← j.read "generic" }

/-! ## Renew and transfer -/

instance : ToJson DomainRenew :=
  ⟨fun x => .record (field "name" x.name ++ field "current_expiry" x.currentExpiry ++
    field "period" x.period)⟩

instance : OfJson DomainRenew where
  ofJson? j := do
    return { name := ← j.read "name"
             currentExpiry := ← j.read "current_expiry"
             period := ← j.read "period" }

instance : ToJson UntypedRenew :=
  ⟨fun x => .record (field "namespaces" x.namespaces ++ field "name" x.name ++
    field "current_expiry" x.currentExpiry ++ field "period" x.period)⟩

instance : OfJson UntypedRenew where
  ofJson? j := do
    return { namespaces := ← j.read "namespaces"
             name := ← j.read "name"
             currentExpiry := ← j.read "current_expiry"
             period := ← j.read "period" }

instance : ToJson Renew :=
  ⟨fun x => .record (field? "domain" x.domain ++ field? "generic" x.untyped)⟩

instance : OfJson Renew where
  ofJson? j := do
    return { domain := ← j.read "domain"
             untyped := ← j.read "generic" }

instance : ToJson TransferOp := ⟨fun op => .text op.label⟩

instance : OfJson TransferOp where ofJson? := Json.named TransferOp.ofLabel?

instance : ToJson DomainTransfer :=
  ⟨fun x => .record (field "name" x.name ++ field "period" x.period ++
    field "auth_info" (authInfoJson x.authInfo))⟩

instance : OfJson DomainTransfer where
  ofJson? j := do
    return { name := ← j.read "name"
             period := ← j.read "period"
             authInfo := ← readAuthInfoJson j }

instance : ToJson ContactTransfer :=
  ⟨fun x => .record (field "id" x.id ++ field "auth_info" (authInfoJson x.authInfo))⟩

instance : OfJson ContactTransfer where
  ofJson? j := do
    return { id := ← j.read "id"
             authInfo := ← readAuthInfoJson j }

instance : ToJson UntypedTransfer :=
  ⟨fun x => .record (field "namespaces" x.namespaces ++ field "name" x.name ++ field "id" x.id ++
    field "period" x.period ++ field "auth_info" (authInfoJson x.authInfo))⟩

instance : OfJson UntypedTransfer where
  ofJson? j := do
    return { namespaces := ← j.read "namespaces"
             name := ← j.read "name"
             id := ← j.read "id"
             period := ← j.read "period"
             authInfo := ← readAuthInfoJson j }

instance : ToJson Transfer :=
  ⟨fun x => .record (field "op" x.op ++ field? "domain" x.domain ++ field? "contact" x.contact ++
    field? "generic" x.untyped)⟩

instance : OfJson Transfer where
  ofJson? j := do
    return { op := ← j.read "op"
             domain := ← j.read "domain"
             contact := ← j.read "contact"
             untyped := ← j.read "generic" }

/-! ## Update -/

instance : ToJson DomainSection :=
  ⟨fun x => .record (field "hosts" x.hosts ++ field "contacts" x.contacts ++
    field "statuses" x.statuses)⟩

instance : OfJson DomainSection where
  ofJson? j := do
    return { hosts := ← j.read "hosts"
             contacts := ← j.read "contacts"
             statuses := ← j.read "statuses" }

instance : ToJson DomainUpdate :=
  ⟨fun x => .record (field "name" x.name ++ field "add" x.add ++ field "remove" x.remove ++
    field "change" (Json.record (field "registrant" x.change.registrant ++
      field "auth_info" (authInfoJson x.change.authInfo))))⟩

instance : OfJson DomainUpdate where
  ofJson? j := do
    let change : Json ← j.read "change"
    return { name := ← j.read "name"
             add := ← j.read "add"
             remove := ← j.read "remove"
             change := { registrant := ← change.read "registrant"
                         authInfo := ← readAuthInfoJson change } }

instance : ToJson HostSection :=
  ⟨fun x => .record (field "addresses" x.addresses ++ field "statuses" x.statuses)⟩

instance : OfJson HostSection where
  ofJson? j := do
    return { addresses := ← j.read "addresses"
             statuses := ← j.read "statuses" }

instance : ToJson HostUpdate :=
  ⟨fun x => .record (field "name" x.name ++ field "add" x.add ++ field "remove" x.remove ++
    field "new_name" x.newName)⟩

instance : OfJson HostUpdate where
  ofJson? j := do
    return { name := ← j.read "name"
             add := ← j.read "add"
             remove := ← j.read "remove"
             newName := ← j.read "new_name" }

instance : ToJson ContactChange :=
  ⟨fun x => .record (field "postal_info" x.postalInfo ++ field "voice" x.voice ++
    field "fax" x.fax ++ field "email" x.email ++ field "auth_info" (authInfoJson x.authInfo))⟩

instance : OfJson ContactChange where
  ofJson? j := do
    return { postalInfo := ← j.read "postal_info"
             voice := ← j.read "voice"
             fax := ← j.read "fax"
             email := ← j.read "email"
             authInfo := ← readAuthInfoJson j }

instance : ToJson ContactUpdate :=
  ⟨fun x => .record (field "id" x.id ++ field "add_statuses" x.addStatuses ++
    field "remove_statuses" x.removeStatuses ++ field "change" x.change)⟩

instance : OfJson ContactUpdate where
  ofJson? j := do
    return { id := ← j.read "id"
             addStatuses := ← j.read "add_statuses"
             removeStatuses := ← j.read "remove_statuses"
             change := ← j.read "change" }

instance : ToJson UntypedSection :=
  ⟨fun x => .record (field "hosts" x.hosts ++ field "contacts" x.contacts ++
    field "statuses" x.statuses ++ field "addresses" x.addresses)⟩

instance : OfJson UntypedSection where
  ofJson? j := do
    return { hosts := ← j.read "hosts"
             contacts := ← j.read "contacts"
             statuses := ← j.read "statuses"
             addresses := ← j.read "addresses" }

instance : ToJson UntypedChange :=
  ⟨fun x => .record (field "registrant" x.registrant ++ field "name" x.name ++
    field "postal_info" x.postalInfo ++ field "voice" x.voice ++ field "fax" x.fax ++
    field "email" x.email ++ field "auth_info" (authInfoJson x.authInfo))⟩

instance : OfJson UntypedChange where
  ofJson? j := do
    return { registrant := ← j.read "registrant"
             name := ← j.read "name"
             postalInfo := ← j.read "postal_info"
             voice := ← j.read "voice"
             fax := ← j.read "fax"
             email := ← j.read "email"
             authInfo := ← readAuthInfoJson j }

instance : ToJson UntypedUpdate :=
  ⟨fun x => .record (field "namespaces" x.namespaces ++ field "name" x.name ++ field "id" x.id ++
    field "add" x.add ++ field "remove" x.remove ++ field "change" x.change)⟩

instance : OfJson UntypedUpdate where
  ofJson? j := do
    return { namespaces := ← j.read "namespaces"
             name := ← j.read "name"
             id := ← j.read "id"
             add := ← j.read "add"
             remove := ← j.read "remove"
             change := ← j.read "change" }

instance : ToJson Update :=
  ⟨fun x => .record (field? "domain" x.domain ++ field? "host" x.host ++
    field? "contact" x.contact ++ field? "generic" x.untyped)⟩

instance : OfJson Update where
  ofJson? j := do
    return { domain := ← j.read "domain"
             host := ← j.read "host"
             contact := ← j.read "contact"
             untyped := ← j.read "generic" }

/-! ## Extensions -/

instance : ToJson Namestore := ⟨fun x => .record (field "sub_products" x.products)⟩

instance : OfJson Namestore where
  ofJson? j := do return { products := ← j.read "sub_products" }

instance : ToJson Sync := ⟨fun x => .record (field "exp_month_day" x.monthDay)⟩

instance : OfJson Sync where
  ofJson? j := do return { monthDay := ← j.read "exp_month_day" }

instance : ToJson RestoreReport :=
  ⟨fun x => .record (field "pre_data" x.preData ++ field "post_data" x.postData ++
    field "deleted_time" x.deletedTime ++ field "restored_time" x.restoredTime ++
    field "reason" x.reason ++ field "statements" x.statements ++ field "other" x.other)⟩

instance : OfJson RestoreReport where
  ofJson? j := do
    return { preData := ← j.read "pre_data"
             postData := ← j.read "post_data"
             deletedTime := ← j.read "deleted_time"
             restoredTime := ← j.read "restored_time"
             reason := ← j.read "reason"
             statements := ← j.read "statements"
             other := ← j.read "other" }

instance : ToJson Restore :=
  ⟨fun x => .record (field "op" x.op.label ++ field? "report" x.report)⟩

instance : OfJson Restore where
  ofJson? j := do
    return { op := ← Json.named RestoreOp.ofLabel? (← j.read "op")
             report := ← j.read "report" }

instance : ToJson DsRecord :=
  ⟨fun x => .record (field "key_tag" x.keyTag ++ field "alg" x.algorithm ++
    field "digest_type" x.digestType ++ field "digest" x.digest)⟩

instance : OfJson DsRecord where
  ofJson? j := do
    return { keyTag := ← j.read "key_tag"
             algorithm := ← j.read "alg"
             digestType := ← j.read "digest_type"
             digest := ← j.read "digest" }

instance : ToJson SecDnsUpdate :=
  ⟨fun x => .record (field "remove" x.remove ++ field "add" x.add)⟩

instance : OfJson SecDnsUpdate where
  ofJson? j := do
    return { remove := ← j.read "remove"
             add := ← j.read "add" }

instance : ToJson CommandExtension :=
  ⟨fun x => .record (field? "namestore" x.namestore ++ field? "sync" x.sync ++
    field? "restore" x.restore ++ field? "secdns" x.secDns ++ items? "generic" x.untyped)⟩

instance : OfJson CommandExtension where
  ofJson? j := do
    return { namestore := ← j.read "namestore"
             sync := ← j.read "sync"
             restore := ← j.read "restore"
             secDns := ← j.read "secdns"
             untyped := ← j.read "generic" }

/-- A logout has nothing to tell, so its field holds null; it cannot be read back from there. -/
instance : ToJson Command :=
  ⟨fun x => .record (field? "login" x.login ++
    (if x.logout then [("logout", Json.null)] else []) ++
    field? "check" x.check ++ field? "create" x.create ++ field? "info" x.info ++
    field? "delete" x.delete ++ field? "update" x.update ++ field? "transfer" x.transfer ++
    field? "renew" x.renew ++ field? "poll" x.poll ++ field? "extension" x.extension ++
    field "transaction_id" x.transactionId)⟩

instance : OfJson Command where
  ofJson? j := do
    return { login := ← j.read "login"
             check := ← j.read "check"
             create := ← j.read "create"
             info := ← j.read "info"
             delete := ← j.read "delete"
             update := ← j.read "update"
             transfer := ← j.read "transfer"
             renew := ← j.read "renew"
             poll := ← j.read "poll"
             extension := ← j.read "extension"
             transactionId := ← j.read "transaction_id" }

end Provisioning
