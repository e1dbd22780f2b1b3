import Provisioning.Message.Compose
import Provisioning.Proofs.Markup.PrintSize
import Provisioning.Proofs.Message.EnvelopeDelivery
import Provisioning.Proofs.Wire.Encoding
import Provisioning.Server.Service

/-!
# How large messages are

The bytes of a message follow its parts. A response is counted exactly, up to its texts and its data;
for the rest bounds are enough. What matters is what grows: to ask for a domain takes thirty-six
bytes besides its name (`size_askDomains_le`), and the answer takes eighty-nine (`size_checkItem`).
-/

namespace Provisioning

open Markup Markup.Element Text
open String (utf8ByteSize_append)

/-! ## Elements of a kind -/

namespace ObjectKind

/-- The bytes of the prefix of a kind. -/
def labelSize : ObjectKind → Nat
  | .domain => 6
  | .host => 4
  | .contact => 7

theorem utf8ByteSize_label (k : ObjectKind) : k.label.utf8ByteSize = k.labelSize := by
  cases k <;> rfl

theorem utf8ByteSize_tag (k : ObjectKind) (name : String) :
    (k.tag name).utf8ByteSize = k.labelSize + 1 + name.utf8ByteSize := by
  have hcolon : ":".utf8ByteSize = 1 := rfl
  rw [tag, utf8ByteSize_append, utf8ByteSize_append, utf8ByteSize_label, hcolon]

@[simp] theorem size_leaf (depth : Nat) (k : ObjectKind) (name text : String) :
    (k.leaf name text).size depth =
      2 * depth + 7 + 2 * k.labelSize + 2 * name.utf8ByteSize + writtenSize text := by
  rw [leaf, Element.size_leaf, utf8ByteSize_tag]
  omega

@[simp] theorem size_node (depth : Nat) (k : ObjectKind) (name : String)
    (children : List Element) :
    (k.node name children).size depth =
      2 * depth + 7 + 2 * k.labelSize + 2 * name.utf8ByteSize + childrenSize depth children := by
  rw [node, Element.size_node, utf8ByteSize_tag]
  omega

/-- The namespaces and the schemas are short. -/
theorem writtenSize_declared (k : ObjectKind) :
    writtenSize k.xmlns ≤ 210 ∧ writtenSize k.schema ≤ 312 ∧ writtenSize instanceXmlns ≤ 246 := by
  have hxmlns := writtenSize_le k.xmlns
  have hschema := writtenSize_le k.schema
  have hinstance := writtenSize_le instanceXmlns
  have hsizes : k.xmlns.utf8ByteSize ≤ 35 ∧ k.schema.utf8ByteSize ≤ 52 := by cases k <;> decide
  have hsize : instanceXmlns.utf8ByteSize = 41 := rfl
  omega

theorem size_commandRoot_le (depth : Nat) (k : ObjectKind) (name : String)
    (children : List Element) :
    (k.commandRoot name children).size depth ≤
      2 * depth + 900 + 2 * name.utf8ByteSize + childrenSize depth children := by
  have hdeclared := k.writtenSize_declared
  have hnames : "xmlns:".utf8ByteSize = 6 ∧ "xmlns:xsi".utf8ByteSize = 9 ∧
      "xsi:schemaLocation".utf8ByteSize = 18 := ⟨rfl, rfl, rfl⟩
  have hlabel : k.labelSize ≤ 7 := by cases k <;> decide
  rw [size_eq]
  simp only [commandRoot, utf8ByteSize_tag, utf8ByteSize_append, utf8ByteSize_label, attrsSize_cons,
    attrsSize_nil, writtenSize_empty, hnames]
  omega

theorem size_responseRoot_le (depth : Nat) (k : ObjectKind) (name : String)
    (children : List Element) :
    (k.responseRoot name k.schema children).size depth ≤
      2 * depth + 900 + 2 * name.utf8ByteSize + childrenSize depth children := by
  have hdeclared := k.writtenSize_declared
  have hnames : "xmlns:".utf8ByteSize = 6 ∧ "xsi:schemaLocation".utf8ByteSize = 18 := ⟨rfl, rfl⟩
  have hlabel : k.labelSize ≤ 7 := by cases k <;> decide
  rw [size_eq]
  simp only [responseRoot, utf8ByteSize_tag, utf8ByteSize_append, utf8ByteSize_label, attrsSize_cons,
    attrsSize_nil, writtenSize_empty, hnames]
  omega

theorem childrenSize_le_responseRoot (depth : Nat) (k : ObjectKind) (name schema : String)
    (children : List Element) :
    childrenSize depth children ≤ (k.responseRoot name schema children).size depth := by
  rw [size_eq]
  exact Nat.le_add_left _ _

end ObjectKind

/-! ## Envelopes and responses -/

/-- The bytes of a message whose only part is this element. -/
theorem Envelope.size_toElement {e : Envelope} {part : Element} (hxsi : e.xsi = instanceXmlns)
    (hschema : e.schema = messageSchema) (hpart : e.root.children = [part]) :
    e.toElement.size 0 = 131 + part.size 1 := by
  have hnames : "epp".utf8ByteSize = 3 ∧ "xmlns:xsi".utf8ByteSize = 9 ∧
      "xsi:schemaLocation".utf8ByteSize = 18 := ⟨rfl, rfl, rfl⟩
  have hfilled : instanceXmlns ≠ "" ∧ messageSchema ≠ "" := by decide
  have hvalues : writtenSize instanceXmlns = 41 ∧ writtenSize messageSchema = 42 := by decide
  -- the declarations come last and do not depend on the part
  have hroot : e.root = .node "epp" [part] := by
    rw [← hpart]
    rfl
  simp only [toElement_eq, hroot, hxsi, hschema, hfilled, if_false, withAttr?, size_withAttr,
    size_node, childrenSize_cons, linesSize_cons, linesSize_nil, Nat.zero_add, hnames, hvalues]
  omega

/-- **The bytes of a response** that has nothing of the queue and no extension. -/
theorem Response.size_toElement {r : Response} (hqueue : r.queue = none)
    (hextension : r.extension = none) :
    r.toElement.size 1 = 150 + writtenSize (toString r.code.toNat) + writtenSize r.message +
      linesSize 2 (r.data.map (·.toElement)).toList + writtenSize r.clientTransactionId +
      writtenSize r.serverTransactionId := by
  have hnames : "response".utf8ByteSize = 8 ∧ "result".utf8ByteSize = 6 ∧
      "code".utf8ByteSize = 4 ∧ "msg".utf8ByteSize = 3 ∧ "trID".utf8ByteSize = 4 ∧
      "clTRID".utf8ByteSize = 6 ∧ "svTRID".utf8ByteSize = 6 := ⟨rfl, rfl, rfl, rfl, rfl, rfl, rfl⟩
  have hresult : (⟨"result", [("code", toString r.code.toNat)], [.leaf "msg" r.message], ""⟩
      : Element) = (node "result" [.leaf "msg" r.message]).withAttr "code" (toString r.code.toNat) :=
    rfl
  simp only [toElement, hqueue, hextension, hresult, Option.map_none, Option.toList_none,
    List.append_nil, List.cons_append, List.nil_append, size_node, size_withAttr, Element.size_leaf,
    childrenSize_cons, linesSize_cons, linesSize_append, linesSize_nil, Nat.reduceAdd, hnames]
  omega

/-- A code and what it says are short. -/
theorem ResultCode.writtenSize_text (c : ResultCode) :
    writtenSize (toString c.code.toNat) ≤ 24 ∧ writtenSize c.message ≤ 384 := by
  have hcode : c.code.toNat < 10 ^ 4 := by cases c <;> decide
  have hmessage : c.message.utf8ByteSize ≤ 64 := by cases c <;> decide
  have hdigits := utf8ByteSize_toString (by decide) hcode
  have hwritten := writtenSize_le (toString c.code.toNat)
  have hwritten' := writtenSize_le c.message
  omega

/-- **The bytes of the answer with a code**, and with data or without. -/
theorem size_answer_le (code : ResultCode) (client server : String) (data : Option ResultData) :
    (Envelope.ofResponse { Response.ofCode code client server with data }).toElement.size 0 ≤
      689 + linesSize 2 (data.map (·.toElement)).toList + writtenSize client +
        writtenSize server := by
  obtain ⟨hcode, hmessage⟩ := code.writtenSize_text
  rw [Envelope.size_toElement rfl rfl rfl, Response.size_toElement rfl rfl]
  dsimp only [Response.ofCode]
  omega

/-- Data in an answer takes its bytes. -/
theorem linesSize_le_answer (code : ResultCode) (client server : String) (data : ResultData) :
    linesSize 2 [data.toElement] ≤ (Envelope.ofResponse
      { Response.ofCode code client server with data := some data }).toElement.size 0 := by
  rw [Envelope.size_toElement rfl rfl rfl, Response.size_toElement rfl rfl]
  dsimp only [Response.ofCode, Option.map_some, Option.toList_some]
  omega

/-! ## Greetings -/

/-- The names of services are short. -/
theorem ServiceMenu.writtenSize_standard {uri : String}
    (h : uri ∈ standard.objectUris ∨ uri ∈ standard.extensionUris) : writtenSize uri ≤ 288 := by
  have hall : ∀ u ∈ standard.objectUris ++ standard.extensionUris, u.utf8ByteSize ≤ 48 := by decide
  have hsize := hall uri (List.mem_append.mpr h)
  have hwritten := writtenSize_le uri
  omega

/-- The usual services, at any depth. -/
theorem ServiceMenu.linesSize_standard_le (depth : Nat) :
    linesSize depth (serviceElements standard.objectUris standard.extensionUris) ≤
      7707 + 54 * depth := by
  have hnames : "objURI".utf8ByteSize = 6 ∧ "svcExtension".utf8ByteSize = 12 ∧
      "extURI".utf8ByteSize = 6 := ⟨rfl, rfl, rfl⟩
  have hcounts : standard.objectUris.length = 12 ∧ standard.extensionUris.length = 13 := ⟨rfl, rfl⟩
  have hobjects : linesSize depth (standard.objectUris.map (.leaf "objURI")) ≤
      (2 * depth + 305 + 1) * (standard.objectUris.map (Element.leaf "objURI")).length :=
    linesSize_le fun e he => by
      obtain ⟨uri, huri, rfl⟩ := List.mem_map.mp he
      have hwritten := writtenSize_standard (.inl huri)
      rw [Element.size_leaf, hnames.1]
      omega
  have hextensions : linesSize (depth + 1) (standard.extensionUris.map (.leaf "extURI")) ≤
      (2 * depth + 307 + 1) * (standard.extensionUris.map (Element.leaf "extURI")).length :=
    linesSize_le fun e he => by
      obtain ⟨uri, huri, rfl⟩ := List.mem_map.mp he
      have hwritten := writtenSize_standard (.inr huri)
      rw [Element.size_leaf, hnames.2.2]
      omega
  have hsection := childrenSize_le depth (standard.extensionUris.map (.leaf "extURI"))
  have hsome : standard.extensionUris.isEmpty = false := rfl
  rw [List.length_map, hcounts.1] at hobjects
  rw [List.length_map, hcounts.2] at hextensions
  simp only [serviceElements, hsome, Bool.false_eq_true, if_false, linesSize_append, linesSize_cons,
    linesSize_nil, size_node, hnames]
  omega

theorem ServiceMenu.childrenSize_standard_le (depth : Nat) :
    childrenSize depth (serviceElements standard.objectUris standard.extensionUris) ≤
      7762 + 56 * depth := by
  have hlines := linesSize_standard_le (depth + 1)
  have hchildren := childrenSize_le depth
    (serviceElements standard.objectUris standard.extensionUris)
  omega

/-- The bytes of a menu with the usual services. -/
theorem ServiceMenu.size_standard_le : standard.toElement.size 2 ≤ 8000 := by
  have hnames : "svcMenu".utf8ByteSize = 7 ∧ "version".utf8ByteSize = 7 ∧ "lang".utf8ByteSize = 4 :=
    ⟨rfl, rfl, rfl⟩
  have hvalues : writtenSize standard.version = 3 ∧ writtenSize standard.language = 2 := by decide
  have hservices := linesSize_standard_le 3
  simp only [toElement, List.cons_append, List.nil_append, size_node, Element.size_leaf,
    childrenSize_cons, linesSize_cons, Nat.reduceAdd, hnames, hvalues]
  omega

/-- The bytes of a policy that says nothing. -/
theorem DataPolicy.size_blank : ({} : DataPolicy).toElement.size 2 = 357 := by
  have hnames : "dcp".utf8ByteSize = 3 ∧ "access".utf8ByteSize = 6 ∧ "all".utf8ByteSize = 3 ∧
      "statement".utf8ByteSize = 9 ∧ "purpose".utf8ByteSize = 7 ∧ "admin".utf8ByteSize = 5 ∧
      "prov".utf8ByteSize = 4 ∧ "recipient".utf8ByteSize = 9 ∧ "ours".utf8ByteSize = 4 ∧
      "public".utf8ByteSize = 6 ∧ "retention".utf8ByteSize = 9 ∧ "stated".utf8ByteSize = 6 :=
    ⟨rfl, rfl, rfl, rfl, rfl, rfl, rfl, rfl, rfl, rfl, rfl, rfl⟩
  simp only [toElement, size_node, Element.size_leaf, childrenSize_cons, linesSize_cons,
    linesSize_nil, Nat.reduceAdd, writtenSize_empty, hnames]

/-- The bytes of a greeting with the usual services. -/
theorem Greeting.size_toElement_le (serverId serverDate : String) :
    (Envelope.ofGreeting { serverId, serverDate, menu := .standard }).toElement.size 0 ≤
      9000 + writtenSize serverId + writtenSize serverDate := by
  have hnames : "greeting".utf8ByteSize = 8 ∧ "svID".utf8ByteSize = 4 ∧
      "svDate".utf8ByteSize = 6 := ⟨rfl, rfl, rfl⟩
  have hmenu := ServiceMenu.size_standard_le
  have hpolicy := DataPolicy.size_blank
  rw [Envelope.size_toElement rfl rfl rfl]
  simp only [toElement, size_node, Element.size_leaf, childrenSize_cons, linesSize_cons,
    linesSize_nil, Nat.reduceAdd, hnames]
  omega

/-! ## Checks -/

/-- The bytes around a name in the answer to a check. -/
def ObjectKind.itemSize : ObjectKind → Nat
  | .host => 81
  | _ => 89

/-- The bytes of the answer about some names. -/
def ObjectKind.answerSize (k : ObjectKind) (names : List String) : Nat :=
  (names.map fun name => k.itemSize + writtenSize name).sum

/-- **The bytes of one item of the answer**, and its line end. -/
theorem size_checkItem {k : ObjectKind} {x : CheckItem} (h : x.reason = none) :
    1 + (x.toElement k).size 4 = k.itemSize + writtenSize x.value := by
  have hnames : "avail".utf8ByteSize = 5 ∧ "cd".utf8ByteSize = 2 ∧ "id".utf8ByteSize = 2 ∧
      "name".utf8ByteSize = 4 := ⟨rfl, rfl, rfl, rfl⟩
  have hflag : writtenSize (flagText x.available) = 1 := by
    cases x.available <;> decide
  simp only [CheckItem.toElement, h, Option.map_none, Option.toList_none, ObjectKind.size_node,
    childrenSize_cons, linesSize_cons, linesSize_nil, size_withAttr, ObjectKind.size_leaf, hnames,
    hflag]
  cases k <;>
    simp only [reduceCtorEq, if_true, if_false, ObjectKind.labelSize, ObjectKind.itemSize, hnames] <;>
    omega

theorem linesSize_availability (v : Service) (k : ObjectKind) (names : List String) :
    linesSize 4 ((v.availability k names).map (CheckItem.toElement k)) = k.answerSize names := by
  have hitem : ∀ name, 1 + (CheckItem.toElement k ⟨name, !v.registry.holds k name, none⟩).size 4 =
      k.itemSize + writtenSize name := fun name => size_checkItem rfl
  simp only [linesSize_map, Service.availability, List.map_map, Function.comp_def, hitem,
    ObjectKind.answerSize]

/-- Every name has its item. -/
theorem itemSize_mul_length_le (k : ObjectKind) (names : List String) :
    k.itemSize * names.length ≤ k.answerSize names := by
  induction names with
  | nil => exact Nat.zero_le _
  | cons name names ih =>
      rw [ObjectKind.answerSize, List.map_cons, List.sum_cons, ← ObjectKind.answerSize,
        List.length_cons, Nat.mul_succ]
      omega

/-- The part of the answer for one kind, if it is asked for. -/
def checkedPart (v : Service) (k : ObjectKind) (names : Option (List String)) : List Element :=
  ((names.map (v.availability k)).map (checkedElement k)).toList

theorem linesSize_checkedPart_le (v : Service) (k : ObjectKind) (names : Option (List String)) :
    linesSize 3 (checkedPart v k names) ≤ 928 + k.answerSize (names.getD []) := by
  cases names with
  | none => exact Nat.zero_le _
  | some names =>
      have hroot := k.size_responseRoot_le 3 "chkData"
        ((v.availability k names).map (CheckItem.toElement k))
      have hitems := childrenSize_le 3 ((v.availability k names).map (CheckItem.toElement k))
      have hname : "chkData".utf8ByteSize = 7 := rfl
      rw [linesSize_availability] at hitems
      simp only [checkedPart, checkedElement, Option.map_some, Option.toList_some, linesSize_cons,
        linesSize_nil, Option.getD_some]
      omega

theorem answerSize_le_checkedPart (v : Service) (k : ObjectKind) (names : Option (List String)) :
    k.answerSize (names.getD []) ≤ linesSize 3 (checkedPart v k names) := by
  cases names with
  | none => exact Nat.le_refl 0
  | some names =>
      have hroot := k.childrenSize_le_responseRoot 3 "chkData" k.schema
        ((v.availability k names).map (CheckItem.toElement k))
      have hitems := linesSize_le_childrenSize 3
        ((v.availability k names).map (CheckItem.toElement k))
      rw [linesSize_availability] at hitems
      simp only [checkedPart, checkedElement, Option.map_some, Option.toList_some, linesSize_cons,
        linesSize_nil, Option.getD_some]
      omega

/-- The bytes of the names of all kinds in the answer to a check. -/
def Check.answerSize (c : Check) : Nat :=
  ObjectKind.domain.answerSize (c.domain.getD []) + ObjectKind.host.answerSize (c.host.getD []) +
    ObjectKind.contact.answerSize (c.contact.getD [])

namespace Service

/-- The data that answers a check. -/
def checkData (v : Service) (c : Check) : ResultData :=
  { domainCheck := c.domain.map (v.availability .domain)
    hostCheck := c.host.map (v.availability .host)
    contactCheck := c.contact.map (v.availability .contact) }

theorem toElement_checkData (v : Service) (c : Check) :
    (v.checkData c).toElement = .node "resData" (checkedPart v .domain c.domain ++
      checkedPart v .host c.host ++ checkedPart v .contact c.contact) := by
  simp [ResultData.toElement, checkData, checkedPart]

/-- **The answer to a check is as large as its names say**, up to a constant. -/
theorem linesSize_checkData (v : Service) (c : Check) :
    c.answerSize ≤ linesSize 2 [(v.checkData c).toElement] ∧
      linesSize 2 [(v.checkData c).toElement] ≤ 2813 + c.answerSize := by
  have hparts := childrenSize_le 2 (checkedPart v .domain c.domain ++
    checkedPart v .host c.host ++ checkedPart v .contact c.contact)
  have hparts' := linesSize_le_childrenSize 2 (checkedPart v .domain c.domain ++
    checkedPart v .host c.host ++ checkedPart v .contact c.contact)
  have hdomain := linesSize_checkedPart_le v .domain c.domain
  have hhost := linesSize_checkedPart_le v .host c.host
  have hcontact := linesSize_checkedPart_le v .contact c.contact
  have hdomain' := answerSize_le_checkedPart v .domain c.domain
  have hhost' := answerSize_le_checkedPart v .host c.host
  have hcontact' := answerSize_le_checkedPart v .contact c.contact
  have hname : "resData".utf8ByteSize = 7 := rfl
  simp only [linesSize_append, Nat.reduceAdd] at hparts hparts'
  rw [linesSize_cons, linesSize_nil, toElement_checkData, size_node, hname, Check.answerSize]
  omega

end Service

/-! ## Commands -/

/-- **The bytes of a command**, its parts lying between the tag and the identifier. -/
theorem Envelope.size_ofCommand {c : Command} (parts : List Element)
    (h : c.toElement = (Element.node "command" (parts ++ [.leaf "clTRID" c.transactionId])).withAttr
      "xmlns" messageXmlns) :
    (ofCommand c).toElement.size 0 ≤ 400 + linesSize 2 parts + writtenSize c.transactionId := by
  have hnames : "command".utf8ByteSize = 7 ∧ "clTRID".utf8ByteSize = 6 ∧
      "xmlns".utf8ByteSize = 5 := ⟨rfl, rfl, rfl⟩
  have hxmlns := writtenSize_le messageXmlns
  have hxmlnsSize : messageXmlns.utf8ByteSize = 30 := rfl
  have hchildren := childrenSize_le 1 (parts ++ [.leaf "clTRID" c.transactionId])
  have hpart : (ofCommand c).root.children = [c.toElement] := rfl
  rw [size_toElement rfl rfl hpart, h]
  simp only [size_withAttr, size_node, linesSize_append, linesSize_cons, linesSize_nil,
    Element.size_leaf, Nat.reduceAdd, hnames] at hchildren ⊢
  omega

/-- The bytes of a login that sets no new password. -/
theorem Login.size_toElement {x : Login} (h : x.newPassword = none) :
    x.toElement.size 2 = 163 + writtenSize x.clientId + writtenSize x.password +
      writtenSize x.version + writtenSize x.language +
      childrenSize 3 (ServiceMenu.serviceElements x.objectUris x.extensionUris) := by
  have hnames : "login".utf8ByteSize = 5 ∧ "clID".utf8ByteSize = 4 ∧ "pw".utf8ByteSize = 2 ∧
      "options".utf8ByteSize = 7 ∧ "version".utf8ByteSize = 7 ∧ "lang".utf8ByteSize = 4 ∧
      "svcs".utf8ByteSize = 4 := ⟨rfl, rfl, rfl, rfl, rfl, rfl, rfl⟩
  simp only [toElement, h, Option.map_none, Option.toList_none, List.append_nil, List.cons_append,
    List.nil_append, size_node, Element.size_leaf, childrenSize_cons, linesSize_cons, linesSize_nil,
    Nat.reduceAdd, hnames]
  omega

/-- The bytes of a login for the usual services. -/
theorem Envelope.size_logIn_le (clientId password id : String) :
    (ofCommand (.logIn clientId password id .standard)).toElement.size 0 ≤
      8700 + writtenSize clientId + writtenSize password + writtenSize id := by
  have hcommand := size_ofCommand (c := .logIn clientId password id .standard)
    [(Login.ofMenu clientId password .standard).toElement]
    (by simp [Command.toElement, Command.logIn, Command.ofLogin, Command.blank])
  have hlogin : (Login.ofMenu clientId password .standard).toElement.size 2 =
      163 + writtenSize clientId + writtenSize password + writtenSize ServiceMenu.protocolVersion +
        writtenSize ServiceMenu.defaultLanguage + childrenSize 3 (ServiceMenu.serviceElements
          ServiceMenu.standard.objectUris ServiceMenu.standard.extensionUris) :=
    Login.size_toElement rfl
  have hvalues : writtenSize ServiceMenu.protocolVersion = 3 ∧
      writtenSize ServiceMenu.defaultLanguage = 2 := by decide
  have hservices := ServiceMenu.childrenSize_standard_le 3
  have hid : (Command.logIn clientId password id .standard).transactionId = id := rfl
  rw [linesSize_cons, linesSize_nil, hid] at hcommand
  omega

/-- The bytes of a look into the queue. -/
theorem Envelope.size_requestMessage_le (id : String) :
    (ofCommand (.requestMessage id)).toElement.size 0 ≤ 500 + writtenSize id := by
  have hnames : "poll".utf8ByteSize = 4 ∧ "op".utf8ByteSize = 2 := ⟨rfl, rfl⟩
  have hvalue : writtenSize PollOp.request.label = 3 := by decide
  have hcommand := size_ofCommand (c := .requestMessage id) [(⟨.request, none⟩ : Poll).toElement] rfl
  have hid : (Command.requestMessage id).transactionId = id := rfl
  simp only [Poll.toElement, withAttr?, linesSize_cons, linesSize_nil, size_withAttr, size_node,
    childrenSize_nil, hnames, hvalue, hid] at hcommand
  omega

/-- The question which domains exist, asked under their names as they are. -/
def Envelope.askDomains (names : List String) (id : String) : Envelope :=
  .ofCommand { check := some { domain := some names }, transactionId := id }

/-- **The bytes of a question for domains.** -/
theorem Envelope.size_askDomains_le (names : List String) (id : String) :
    (askDomains names id).toElement.size 0 ≤
      1400 + writtenSize id + (names.map fun name => 36 + writtenSize name).sum := by
  have hname : "check".utf8ByteSize = 5 := rfl
  have hlines : linesSize 4 (names.map (ObjectKind.domain.leaf "name")) =
      (names.map fun name => 36 + writtenSize name).sum := by
    have hkey : "name".utf8ByteSize = 4 := rfl
    have hleaf : ∀ name, 1 + (ObjectKind.domain.leaf "name" name).size 4 = 36 + writtenSize name := by
      intro name
      rw [ObjectKind.size_leaf, ObjectKind.labelSize, hkey]
      omega
    simp only [linesSize_map, hleaf]
  have hbody := ObjectKind.domain.size_commandRoot_le 3 "check"
    (names.map (ObjectKind.domain.leaf "name"))
  have hleaves := childrenSize_le 3 (names.map (ObjectKind.domain.leaf "name"))
  have hcommand := size_ofCommand
    (c := { check := some { domain := some names }, transactionId := id })
    [({ domain := some names } : Check).toElement] rfl
  rw [hlines] at hleaves
  simp only [Check.toElement, Check.body, Option.map_some, Option.map_none, Option.toList_some,
    Option.toList_none, List.append_nil, linesSize_cons, linesSize_nil, size_node,
    childrenSize_cons, Nat.reduceAdd, hname] at hcommand hbody
  rw [askDomains]
  omega

/-! ## Frames -/

namespace Wire

/-- **The length of the frame of a message**: the header, the declaration and the tree. -/
theorem totalLength_ofEnvelope (e : Envelope) :
    (Frame.ofEnvelope e).totalLength = 59 + e.toElement.size 0 := by
  have hdeclaration : declaration.utf8ByteSize = 55 := rfl
  rw [Frame.totalLength, Frame.ofEnvelope, Frame.ofDocument, Utf8.length_encode,
    utf8ByteSize_append, hdeclaration, Envelope.toText, utf8ByteSize_toText, headerSize]
  omega

/-- A message whose tree takes less than a million bytes can be written. -/
theorem encode_of_size {e : Envelope} (h : e.toElement.size 0 ≤ 1000000) :
    ∃ bytes, encode e = .ok bytes :=
  encode_of_totalLength (by rw [totalLength_ofEnvelope, maxFrameSize]; omega)

theorem encode_of_large {e : Envelope} (h : maxFrameSize < (Frame.ofEnvelope e).totalLength) :
    encode e = .error (.frameTooLarge (Frame.ofEnvelope e).totalLength maxFrameSize) := by
  rw [encode, Frame.encode, if_neg (Nat.not_le.mpr h)]

end Wire

end Provisioning
