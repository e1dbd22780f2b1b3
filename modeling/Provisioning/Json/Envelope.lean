import Provisioning.Json.Command
import Provisioning.Message.Envelope

/-!
# Responses, greetings and envelopes in JSON

The slots of result data are all told, empty ones as null; everything else that a message does not
have is left out.
-/

namespace Provisioning

open Json (field field? items?)

/-! ## Result data -/

instance : ToJson CheckItem :=
  ⟨fun x => .record (field "value" x.value ++ field "available" x.available ++
    field? "reason" x.reason)⟩

instance : OfJson CheckItem where
  ofJson? j := do
    return { value := ← j.read "value"
             available := ← j.read "available"
             reason := ← j.read "reason" }

/-- Checked names in JSON. -/
def checkedJson (items : List CheckItem) : Json := .record (field "items" items)

/-- Checked names in a field. -/
def readCheckedJson (j : Json) (key : String) : Option (Option (List CheckItem)) :=
  match j.get? key with
  | none => some none
  | some x => (x.read "items" : Option (List CheckItem)).map some

instance : ToJson DomainCreated :=
  ⟨fun x => .record (field "schema_location" x.schema ++ field "name" x.name ++
    field "created" x.created ++ field "expires" x.expires)⟩

instance : OfJson DomainCreated where
  ofJson? j := do
    return { schema := ← j.read "schema_location"
             name := ← j.read "name"
             created := ← j.read "created"
             expires := ← j.read "expires" }

instance : ToJson HostCreated :=
  ⟨fun x => .record (field "schema_location" x.schema ++ field "name" x.name ++
    field "created" x.created)⟩

instance : OfJson HostCreated where
  ofJson? j := do
    return { schema := ← j.read "schema_location"
             name := ← j.read "name"
             created := ← j.read "created" }

instance : ToJson ContactCreated :=
  ⟨fun x => .record (field "schema_location" x.schema ++ field "id" x.id ++
    field "created" x.created)⟩

instance : OfJson ContactCreated where
  ofJson? j := do
    return { schema := ← j.read "schema_location"
             id := ← j.read "id"
             created := ← j.read "created" }

instance : ToJson DomainData :=
  ⟨fun x => .record (field "schema_location" x.schema ++ field "name" x.name ++
    field "roid" x.roid ++ field "statuses" x.statuses ++ field "registrant" x.registrant ++
    field "contacts" x.contacts ++ field "nameservers" x.nameservers ++ field "hosts" x.hosts ++
    field "client_id" x.clientId ++ field "creator_id" x.creatorId ++
    field "created" x.created ++ field "updater_id" x.updaterId ++ field "updated" x.updated ++
    field "expires" x.expires ++ field "transferred" x.transferred ++
    field "auth_info" (authInfoJson x.authInfo))⟩

instance : OfJson DomainData where
  ofJson? j := do
    return { schema := ← j.read "schema_location"
             name := ← j.read "name"
             roid := ← j.read "roid"
             statuses := ← j.read "statuses"
             registrant := ← j.read "registrant"
             contacts := ← j.read "contacts"
             nameservers := ← j.read "nameservers"
             hosts := ← j.read "hosts"
             clientId := ← j.read "client_id"
             creatorId := ← j.read "creator_id"
             created := ← j.read "created"
             updaterId := ← j.read "updater_id"
             updated := ← j.read "updated"
             expires := ← j.read "expires"
             transferred := ← j.read "transferred"
             authInfo := ← readAuthInfoJson j }

instance : ToJson HostData :=
  ⟨fun x => .record (field "schema_location" x.schema ++ field "name" x.name ++
    field "roid" x.roid ++ field "statuses" x.statuses ++ field "addresses" x.addresses ++
    field "client_id" x.clientId ++ field "creator_id" x.creatorId ++
    field "created" x.created ++ field "updater_id" x.updaterId ++ field "updated" x.updated ++
    field "transferred" x.transferred)⟩

instance : OfJson HostData where
  ofJson? j := do
    return { schema := ← j.read "schema_location"
             name := ← j.read "name"
             roid := ← j.read "roid"
             statuses := ← j.read "statuses"
             addresses := ← j.read "addresses"
             clientId := ← j.read "client_id"
             creatorId := ← j.read "creator_id"
             created := ← j.read "created"
             updaterId := ← j.read "updater_id"
             updated := ← j.read "updated"
             transferred := ← j.read "transferred" }

instance : ToJson ContactData :=
  ⟨fun x => .record (field "schema_location" x.schema ++ field "id" x.id ++
    field "roid" x.roid ++ field "statuses" x.statuses ++ field "postal_info" x.postalInfo ++
    field "voice" x.voice ++ field "fax" x.fax ++ field "email" x.email ++
    field "client_id" x.clientId ++ field "creator_id" x.creatorId ++
    field "created" x.created ++ field "updater_id" x.updaterId ++ field "updated" x.updated ++
    field "transferred" x.transferred ++ field "auth_info" (authInfoJson x.authInfo) ++
    field "disclose" x.disclose)⟩

instance : OfJson ContactData where
  ofJson? j := do
    return { schema := ← j.read "schema_location"
             id := ← j.read "id"
             roid := ← j.read "roid"
             statuses := ← j.read "statuses"
             postalInfo := ← j.read "postal_info"
             voice := ← j.read "voice"
             fax := ← j.read "fax"
             email := ← j.read "email"
             clientId := ← j.read "client_id"
             creatorId := ← j.read "creator_id"
             created := ← j.read "created"
             updaterId := ← j.read "updater_id"
             updated := ← j.read "updated"
             transferred := ← j.read "transferred"
             authInfo := ← readAuthInfoJson j
             disclose := ← j.read "disclose" }

instance : ToJson DomainRenewed :=
  ⟨fun x => .record (field "schema_location" x.schema ++ field "name" x.name ++
    field "expires" x.expires)⟩

instance : OfJson DomainRenewed where
  ofJson? j := do
    return { schema := ← j.read "schema_location"
             name := ← j.read "name"
             expires := ← j.read "expires" }

instance : ToJson TransferState :=
  ⟨fun x => .record (field "status" x.status ++ field "requester" x.requester ++
    field "requested" x.requested ++ field "acting" x.acting ++ field "acted" x.acted)⟩

instance : OfJson TransferState where
  ofJson? j := do
    return { status := ← j.read "status"
             requester := ← j.read "requester"
             requested := ← j.read "requested"
             acting := ← j.read "acting"
             acted := ← j.read "acted" }

instance : ToJson DomainTransferred :=
  ⟨fun x => .record (field "schema_location" x.schema ++ field "name" x.name ++
    field "state" x.state ++ field "expires" x.expires)⟩

instance : OfJson DomainTransferred where
  ofJson? j := do
    return { schema := ← j.read "schema_location"
             name := ← j.read "name"
             state := ← j.read "state"
             expires := ← j.read "expires" }

instance : ToJson ContactTransferred :=
  ⟨fun x => .record (field "schema_location" x.schema ++ field "id" x.id ++
    field "state" x.state)⟩

instance : OfJson ContactTransferred where
  ofJson? j := do
    return { schema := ← j.read "schema_location"
             id := ← j.read "id"
             state := ← j.read "state" }

instance : ToJson UntypedCheckItem :=
  ⟨fun x => .record (field "name" x.name ++ field "name_available" x.nameAvailable ++
    field "id" x.id ++ field "id_available" x.idAvailable ++ field "reason" x.reason)⟩

instance : OfJson UntypedCheckItem where
  ofJson? j := do
    return { name := ← j.read "name"
             nameAvailable := ← j.read "name_available"
             id := ← j.read "id"
             idAvailable := ← j.read "id_available"
             reason := ← j.read "reason" }

instance : ToJson UntypedChecked :=
  ⟨fun x => .record (field "namespaces" x.namespaces ++ field "items" x.items)⟩

instance : OfJson UntypedChecked where
  ofJson? j := do
    return { namespaces := ← j.read "namespaces"
             items := ← j.read "items" }

instance : ToJson UntypedCreated :=
  ⟨fun x => .record (field "namespaces" x.namespaces ++ field "name" x.name ++ field "id" x.id ++
    field "created" x.created ++ field "expires" x.expires)⟩

instance : OfJson UntypedCreated where
  ofJson? j := do
    return { namespaces := ← j.read "namespaces"
             name := ← j.read "name"
             id := ← j.read "id"
             created := ← j.read "created"
             expires := ← j.read "expires" }

instance : ToJson UntypedData :=
  ⟨fun x => .record (field "namespaces" x.namespaces ++ field "name" x.name ++ field "id" x.id ++
    field "roid" x.roid ++ field "statuses" x.statuses ++ field "registrant" x.registrant ++
    field "contacts" x.contacts ++ field "nameservers" x.nameservers ++
    field "addresses" x.addresses ++ field "hosts" x.hosts ++ field "client_id" x.clientId ++
    field "creator_id" x.creatorId ++ field "created" x.created ++ field "expires" x.expires ++
    field "updater_id" x.updaterId ++ field "updated" x.updated ++
    field "transferred" x.transferred ++ field "voice" x.voice ++ field "fax" x.fax ++
    field "password" x.password ++ field "email" x.email ++ field "disclose" x.disclose ++
    field "postal_info" x.postalInfo)⟩

instance : OfJson UntypedData where
  ofJson? j := do
    return { namespaces := ← j.read "namespaces"
             name := ← j.read "name"
             id := ← j.read "id"
             roid := ← j.read "roid"
             statuses := ← j.read "statuses"
             registrant := ← j.read "registrant"
             contacts := ← j.read "contacts"
             nameservers := ← j.read "nameservers"
             addresses := ← j.read "addresses"
             hosts := ← j.read "hosts"
             clientId := ← j.read "client_id"
             creatorId := ← j.read "creator_id"
             created := ← j.read "created"
             expires := ← j.read "expires"
             updaterId := ← j.read "updater_id"
             updated := ← j.read "updated"
             transferred := ← j.read "transferred"
             voice := ← j.read "voice"
             fax := ← j.read "fax"
             password := ← j.read "password"
             email := ← j.read "email"
             disclose := ← j.read "disclose"
             postalInfo := ← j.read "postal_info" }

instance : ToJson UntypedRenewed :=
  ⟨fun x => .record (field "namespaces" x.namespaces ++ field "name" x.name ++
    field "expires" x.expires)⟩

instance : OfJson UntypedRenewed where
  ofJson? j := do
    return { namespaces := ← j.read "namespaces"
             name := ← j.read "name"
             expires := ← j.read "expires" }

instance : ToJson UntypedTransferred :=
  ⟨fun x => .record (field "namespaces" x.namespaces ++ field "name" x.name ++ field "id" x.id ++
    field "state" x.state ++ field "expires" x.expires)⟩

instance : OfJson UntypedTransferred where
  ofJson? j := do
    return { namespaces := ← j.read "namespaces"
             name := ← j.read "name"
             id := ← j.read "id"
             state := ← j.read "state"
             expires := ← j.read "expires" }

instance : ToJson ResultData :=
  ⟨fun x => .record (field "domain_check" (x.domainCheck.map checkedJson) ++
    field "domain_create" x.domainCreate ++ field "domain_info" x.domainInfo ++
    field "domain_renew" x.domainRenew ++ field "domain_transfer" x.domainTransfer ++
    field "host_check" (x.hostCheck.map checkedJson) ++ field "host_create" x.hostCreate ++
    field "host_info" x.hostInfo ++ field "contact_check" (x.contactCheck.map checkedJson) ++
    field "contact_create" x.contactCreate ++ field "contact_info" x.contactInfo ++
    field "contact_transfer" x.contactTransfer ++ field "generic_check" x.untypedCheck ++
    field "generic_create" x.untypedCreate ++ field "generic_info" x.untypedInfo ++
    field "generic_renew" x.untypedRenew ++ field "generic_transfer" x.untypedTransfer)⟩

instance : OfJson ResultData where
  ofJson? j := do
    return { domainCheck := ← readCheckedJson j "domain_check"
             domainCreate := ← j.read "domain_create"
             domainInfo := ← j.read "domain_info"
             domainRenew := ← j.read "domain_renew"
             domainTransfer := ← j.read "domain_transfer"
             hostCheck := ← readCheckedJson j "host_check"
             hostCreate := ← j.read "host_create"
             hostInfo := ← j.read "host_info"
             contactCheck := ← readCheckedJson j "contact_check"
             contactCreate := ← j.read "contact_create"
             contactInfo := ← j.read "contact_info"
             contactTransfer := ← j.read "contact_transfer"
             untypedCheck := ← j.read "generic_check"
             untypedCreate := ← j.read "generic_create"
             untypedInfo := ← j.read "generic_info"
             untypedRenew := ← j.read "generic_renew"
             untypedTransfer := ← j.read "generic_transfer" }

/-! ## Extensions of responses -/

instance : ToJson LaunchClaim :=
  ⟨fun x => .record (field "name" x.name ++ field "exists" x.claimed ++ field "claim_key" x.key ++
    field? "validator_id" x.validator)⟩

instance : OfJson LaunchClaim where
  ofJson? j := do
    return { name := ← j.read "name"
             claimed := ← j.read "exists"
             key := ← j.read "claim_key"
             validator := ← j.read "validator_id" }

instance : ToJson LaunchCheck :=
  ⟨fun x => .record (field "phase" x.phase ++ field "cds" x.claims)⟩

instance : OfJson LaunchCheck where
  ofJson? j := do
    return { phase := ← j.read "phase"
             claims := ← j.read "cds" }

instance : ToJson SecDnsInfo := ⟨fun x => .record (field "ds_data" x.records)⟩

instance : OfJson SecDnsInfo where
  ofJson? j := do return { records := ← j.read "ds_data" }

instance : ToJson GraceStatus := ⟨fun x => .record (field "statuses" x.statuses)⟩

instance : OfJson GraceStatus where
  ofJson? j := do return { statuses := ← j.read "statuses" }

instance : ToJson JobsContact :=
  ⟨fun x => .record (field "title" x.title ++ field "website" x.website ++
    field "industry_type" x.industryType ++ field "is_admin_contact" x.isAdminContact ++
    field "is_association_member" x.isAssociationMember)⟩

instance : OfJson JobsContact where
  ofJson? j := do
    return { title := ← j.read "title"
             website := ← j.read "website"
             industryType := ← j.read "industry_type"
             isAdminContact := ← j.read "is_admin_contact"
             isAssociationMember := ← j.read "is_association_member" }

instance : ToJson ResponseExtension :=
  ⟨fun x => .record (field? "launch" x.launch ++ field? "namestore" x.namestore ++
    field? "secdns" x.secDns ++ field? "rgp" x.grace ++ field? "jobs_contact" x.jobs ++
    items? "generic" x.untyped)⟩

instance : OfJson ResponseExtension where
  ofJson? j := do
    return { launch := ← j.read "launch"
             namestore := ← j.read "namestore"
             secDns := ← j.read "secdns"
             grace := ← j.read "rgp"
             jobs := ← j.read "jobs_contact"
             untyped := ← j.read "generic" }

/-! ## Messages -/

instance : ToJson MessageQueue :=
  ⟨fun x => .record (field "count" x.count ++ field "id" x.id ++ field? "queue_date" x.queued ++
    field? "message" x.message)⟩

instance : OfJson MessageQueue where
  ofJson? j := do
    return { count := ← j.read "count"
             id := ← j.read "id"
             queued := ← j.read "queue_date"
             message := ← j.read "message" }

instance : ToJson Response :=
  ⟨fun x => .record (
    field "result" (Json.record (field "code" x.code ++ field "message" x.message)) ++
    field? "message_queue" x.queue ++ field? "result_data" x.data ++
    field? "extension" x.extension ++ field "client_transaction_id" x.clientTransactionId ++
    field "server_transaction_id" x.serverTransactionId)⟩

instance : OfJson Response where
  ofJson? j := do
    let result : Json ← j.read "result"
    return { code := ← result.read "code"
             message := ← result.read "message"
             queue := ← j.read "message_queue"
             data := ← j.read "result_data"
             extension := ← j.read "extension"
             clientTransactionId := ← j.read "client_transaction_id"
             serverTransactionId := ← j.read "server_transaction_id" }

instance : ToJson ServiceMenu :=
  ⟨fun x => .record (field "version" x.version ++ field "language" x.language ++
    field "object_uris" x.objectUris ++ field "extension_uris" x.extensionUris)⟩

instance : OfJson ServiceMenu where
  ofJson? j := do
    return { version := ← j.read "version"
             language := ← j.read "language"
             objectUris := ← j.read "object_uris"
             extensionUris := ← j.read "extension_uris" }

instance : ToJson DataPolicy :=
  ⟨fun x => .record (field "access_all" x.accessAll ++ field "purpose_admin" x.purposeAdmin ++
    field "purpose_prov" x.purposeProv ++ field "recipient_ours" x.recipientOurs ++
    field "recipient_public" x.recipientPublic ++ field "retention_stated" x.retentionStated)⟩

instance : OfJson DataPolicy where
  ofJson? j := do
    return { accessAll := ← j.read "access_all"
             purposeAdmin := ← j.read "purpose_admin"
             purposeProv := ← j.read "purpose_prov"
             recipientOurs := ← j.read "recipient_ours"
             recipientPublic := ← j.read "recipient_public"
             retentionStated := ← j.read "retention_stated" }

instance : ToJson Greeting :=
  ⟨fun x => .record (field "server_id" x.serverId ++ field "server_date" x.serverDate ++
    field "menu" x.menu ++ field "dcp" x.policy)⟩

instance : OfJson Greeting where
  ofJson? j := do
    return { serverId := ← j.read "server_id"
             serverDate := ← j.read "server_date"
             menu := ← j.read "menu"
             policy := ← j.read "dcp" }

instance : ToJson Hello := ⟨fun x => .record (field "xmlns" x.xmlns)⟩

instance : OfJson Hello where
  ofJson? j := do return { xmlns := ← j.read "xmlns" }

instance : ToJson Envelope :=
  ⟨fun x => .record (field "xsi" x.xsi ++ field "schema_location" x.schema ++
    field? "command" x.command ++ field? "greeting" x.greeting ++ field? "hello" x.hello ++
    field? "response" x.response)⟩

instance : OfJson Envelope where
  ofJson? j := do
    return { xsi := ← j.read "xsi"
             schema := ← j.read "schema_location"
             command := ← j.read "command"
             greeting := ← j.read "greeting"
             hello := ← j.read "hello"
             response := ← j.read "response" }

end Provisioning
