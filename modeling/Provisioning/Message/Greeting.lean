import Provisioning.Message.Extension.Schemas
import Provisioning.Object.Namespaces

/-!
# Greeting and hello

A server greets with its name, the time, the services it offers and its policy on collected data.
Hello asks for a greeting.
-/

namespace Provisioning

open Markup

/-- The services that a server offers, or a client asks for. -/
structure ServiceMenu where
  version : String
  language : String
  objectUris : List String
  extensionUris : List String
  deriving DecidableEq

namespace ServiceMenu

/-- The version of the protocol. -/
def protocolVersion : String := "1.0"

/-- The language of messages. -/
def defaultLanguage : String := "en"

/-- The services offered where nothing else is said. -/
def standard : ServiceMenu :=
  { version := protocolVersion
    language := defaultLanguage
    objectUris := [
      "http://www.verisign.com/epp/lowbalance-poll-1.0",
      ObjectKind.contact.xmlns,
      "http://www.verisign.com/epp/balance-1.0",
      ObjectKind.domain.xmlns,
      "http://www.verisign.com/epp/registry-1.0",
      "http://www.nic.name/epp/nameWatch-1.0",
      "http://www.verisign-grs.com/epp/suggestion-1.1",
      "http://www.verisign.com/epp/rgp-poll-1.0",
      "http://www.nic.name/epp/defReg-1.0",
      ObjectKind.host.xmlns,
      "http://www.nic.name/epp/emailFwd-1.0",
      "http://www.verisign.com/epp/whowas-1.0"]
    extensionUris := [
      Extension.secDnsXmlns,
      "http://www.verisign.com/epp/whoisInf-1.0",
      "urn:ietf:params:xml:ns:secDNS-1.0",
      "http://www.verisign.com/epp/idnLang-1.0",
      "http://www.nic.name/epp/persReg-1.0",
      Extension.jobsXmlns,
      "urn:ietf:params:xml:ns:coa-1.0",
      Extension.namestoreXmlns,
      Extension.syncXmlns,
      "http://www.verisign.com/epp/premiumdomain-1.0",
      "http://www.verisign.com/epp/relatedDomain-1.0",
      Extension.launchXmlns,
      Extension.graceXmlns] }

/-- A menu that offers nothing. -/
def none : ServiceMenu := ⟨"", "", [], []⟩

/-- The services as elements: the objects, and the extensions if there are any. -/
def serviceElements (objects extensions : List String) : List Element :=
  objects.map (.leaf "objURI") ++
    (if extensions.isEmpty then []
      else [.node "svcExtension" (extensions.map (.leaf "extURI"))])

/-- The extensions among the services of an element. -/
def readExtensions (e : Element) : List String :=
  ((e.child? "svcExtension").map (·.childTexts "extURI")).getD []

def toElement (m : ServiceMenu) : Element :=
  .node "svcMenu" ([.leaf "version" m.version, .leaf "lang" m.language] ++
    serviceElements m.objectUris m.extensionUris)

def ofElement (e : Element) : ServiceMenu :=
  { version := e.childText "version"
    language := e.childText "lang"
    objectUris := e.childTexts "objURI"
    extensionUris := readExtensions e }

end ServiceMenu

/-- The server's policy on the data it collects. -/
structure DataPolicy where
  accessAll : String := ""
  purposeAdmin : String := ""
  purposeProv : String := ""
  recipientOurs : String := ""
  recipientPublic : String := ""
  retentionStated : String := ""
  deriving DecidableEq

namespace DataPolicy

def toElement (p : DataPolicy) : Element :=
  .node "dcp" [
    .node "access" [.leaf "all" p.accessAll],
    .node "statement" [
      .node "purpose" [.leaf "admin" p.purposeAdmin, .leaf "prov" p.purposeProv],
      .node "recipient" [.leaf "ours" p.recipientOurs, .leaf "public" p.recipientPublic],
      .node "retention" [.leaf "stated" p.retentionStated]]]

def ofElement (e : Element) : DataPolicy :=
  let text (path : List String) (field : String) : String :=
    ((path.foldlM Element.child? e).map (·.childText field)).getD ""
  { accessAll := text ["access"] "all"
    purposeAdmin := text ["statement", "purpose"] "admin"
    purposeProv := text ["statement", "purpose"] "prov"
    recipientOurs := text ["statement", "recipient"] "ours"
    recipientPublic := text ["statement", "recipient"] "public"
    retentionStated := text ["statement", "retention"] "stated" }

end DataPolicy

/-- What a server says first. -/
structure Greeting where
  serverId : String
  serverDate : String
  menu : ServiceMenu
  policy : DataPolicy := {}
  deriving DecidableEq

namespace Greeting

def toElement (g : Greeting) : Element :=
  .node "greeting" [.leaf "svID" g.serverId, .leaf "svDate" g.serverDate, g.menu.toElement,
    g.policy.toElement]

def ofElement (e : Element) : Greeting :=
  { serverId := e.childText "svID"
    serverDate := e.childText "svDate"
    menu := ((e.child? "svcMenu").map ServiceMenu.ofElement).getD .none
    policy := ((e.child? "dcp").map DataPolicy.ofElement).getD {} }

end Greeting

/-- A request for a greeting, with the namespace that its element declares. -/
structure Hello where
  xmlns : Option String := some messageXmlns
  deriving DecidableEq

namespace Hello

def toElement (h : Hello) : Element := (Element.node "hello" []).withAttr? "xmlns" h.xmlns

def ofElement (e : Element) : Hello := ⟨e.exactAttr? "xmlns"⟩

end Hello

end Provisioning
