import Provisioning.Proofs.Message.Purpose
import Provisioning.Proofs.Server.Answers
import Provisioning.Proofs.Server.Automaton

/-!
# Commands reach their handlers

After the login the service looks at a message three times: its tag says which handler is meant, the
handler's body is taken out of the command, and an info or an update then finds its object by
itself. Each of the last two has an answer ready for the case that there is nothing to be found.
`Dispatched` lists how a message is answered by its purpose, and these answers are not among them
unless the purpose is unclear: the three looks agree, whatever the message consists of.
-/

namespace Provisioning

open Calendar (Instant)
open Command (Verb)

namespace Service

/-- The verbs about objects that are understood and not carried out. -/
def idleVerbs : List Verb := [.create, .delete, .renew, .transfer]

/-- How a message is answered after the login, by its purpose. -/
inductive Dispatched (v : Service) (now : Instant) (s : Session) (e : Envelope) :
    Purpose → Reply → Prop where
  | greeting : Dispatched v now s e .greeting (v.greeting now, s)
  | logout : Dispatched v now s e (.plain .logout)
      ((s.moveTo .closeConnection).respond .completedEndingSession (clientId e))
  | login : Dispatched v now s e (.plain .login) (s.respond .commandUseError (clientId e))
  | poll : Dispatched v now s e (.plain .poll) (s.respond .unimplementedCommand (clientId e))
  | check {k : ObjectKind} {x : Check} :
      e.command.bind (·.check) = some x →
      Dispatched v now s e (.about .check k) (v.handleCheck s x (clientId e))
  | info {k : ObjectKind} {x : Info} {name : String} :
      e.command.bind (·.info) = some x → x.target? = some (k, name) →
      Dispatched v now s e (.about .info k) (v.handleInfo s x (clientId e))
  | update {k : ObjectKind} {x : Update} {name : String} :
      e.command.bind (·.update) = some x → x.target? = some (k, name) →
      Dispatched v now s e (.about .update k) (v.handleUpdate s x (clientId e))
  | idle {w : Verb} {k : ObjectKind} :
      w ∈ idleVerbs →
      Dispatched v now s e (.about w k) (s.respond .unimplementedCommand (clientId e))
  | unclear : Dispatched v now s e .unclear (s.respond .unknownCommand (clientId e))

variable {v : Service} {now : Instant} {s : Session} {e : Envelope}

section Handlers

variable {k : ObjectKind}

/-- The body of a check of one kind is there. -/
theorem dispatched_check (htag : e.tag = .command (.check (some k))) :
    Dispatched v now s e (.about .check k)
      (handlePart s (e.command.bind (·.check)) (clientId e) (v.handleCheck s)) := by
  obtain ⟨c, hc, hcheck⟩ := Envelope.command_of_tag htag
  obtain ⟨x, hx, -⟩ := Command.check_of_tag hcheck
  have hbody : e.command.bind (·.check) = some x := by rw [hc, Option.bind_some, hx]
  rw [hbody]
  exact .check hbody

/-- The body of an info of one kind is there, and it names its object. -/
theorem dispatched_info (htag : e.tag = .command (.info (some k))) :
    Dispatched v now s e (.about .info k)
      (handlePart s (e.command.bind (·.info)) (clientId e) (v.handleInfo s)) := by
  obtain ⟨c, hc, hinfo⟩ := Envelope.command_of_tag htag
  obtain ⟨x, hx, hkind⟩ := Command.info_of_tag hinfo
  obtain ⟨name, hname⟩ := Info.exists_target? hkind
  have hbody : e.command.bind (·.info) = some x := by rw [hc, Option.bind_some, hx]
  rw [hbody]
  exact .info hbody hname

/-- The body of an update of one kind is there, and it names its object. -/
theorem dispatched_update (htag : e.tag = .command (.update (some k))) :
    Dispatched v now s e (.about .update k)
      (handlePart s (e.command.bind (·.update)) (clientId e) (v.handleUpdate s)) := by
  obtain ⟨c, hc, hupdate⟩ := Envelope.command_of_tag htag
  obtain ⟨x, hx, hkind⟩ := Command.update_of_tag hupdate
  obtain ⟨name, hname⟩ := Update.exists_target? hkind
  have hbody : e.command.bind (·.update) = some x := by rw [hc, Option.bind_some, hx]
  rw [hbody]
  exact .update hbody hname

end Handlers

/-- **A message is answered by its purpose.** -/
theorem handleCommand_dispatched (v : Service) (now : Instant) (s : Session) (e : Envelope) :
    Dispatched v now s e e.purpose (v.handleCommand now s e) := by
  rw [← e.purpose_tag]
  unfold handleCommand
  dsimp only
  cases htag : e.tag with
  | unclassified | greeting | response => exact .unclear
  | hello => exact .greeting
  | command t =>
      cases t with
      | unclassified => exact .unclear
      | login => exact .login
      | logout => exact .logout
      | poll => exact .poll
      | check kind =>
          cases kind with
          | none => exact .unclear
          | some k => exact dispatched_check htag
      | info kind =>
          cases kind with
          | none => exact .unclear
          | some k => exact dispatched_info htag
      | update kind =>
          cases kind with
          | none => exact .unclear
          | some k => exact dispatched_update htag
      | create kind | delete kind | renew kind | transfer kind =>
          cases kind with
          | none => exact .unclear
          | some k => exact .idle (by decide)

theorem handle_dispatched (v : Service) (now : Instant) (hs : s.state = .waitingForCommand)
    (e : Envelope) :
    Dispatched v now s.received e.typed e.typed.purpose (v.handle now s (.message e)) := by
  rw [handle_of_waitingForCommand hs]
  exact handleCommand_dispatched v now s.received e.typed

namespace Dispatched

variable {k : ObjectKind} {reply : Reply}

theorem of_check (h : Dispatched v now s e (.about .check k) reply) :
    ∃ x, e.command.bind (·.check) = some x ∧ reply = v.handleCheck s x (clientId e) := by
  cases h with
  | check hx => exact ⟨_, hx, rfl⟩
  | idle hw => exact absurd hw (by decide)

theorem of_info (h : Dispatched v now s e (.about .info k) reply) :
    ∃ x name, e.command.bind (·.info) = some x ∧ x.target? = some (k, name) ∧
      reply = v.handleInfo s x (clientId e) := by
  cases h with
  | info hx htarget => exact ⟨_, _, hx, htarget, rfl⟩
  | idle hw => exact absurd hw (by decide)

theorem of_update (h : Dispatched v now s e (.about .update k) reply) :
    ∃ x name, e.command.bind (·.update) = some x ∧ x.target? = some (k, name) ∧
      reply = v.handleUpdate s x (clientId e) := by
  cases h with
  | update hx htarget => exact ⟨_, _, hx, htarget, rfl⟩
  | idle hw => exact absurd hw (by decide)

end Dispatched

/-! ## The codes -/

/-- The codes of the answers to a message with a purpose. A greeting has no code. -/
def answerCodes : Purpose → List (Option UInt16)
  | .greeting => [none]
  | .plain .logout => [some 1500]
  | .plain .login => [some 2002]
  | .plain .poll => [some 2101]
  | .plain _ => []
  | .about .check _ => [some 1000]
  | .about .info _ => [some 1000, some 2303]
  | .about .update _ => [some 1000, some 2201, some 2303]
  | .about .create _ | .about .delete _ | .about .renew _ | .about .transfer _ => [some 2101]
  | .about _ _ => []
  | .unclear => [some 2000]

/-- An info that names its object tells what is held, or that nothing is. -/
theorem code?_handleInfo {x : Info} {k : ObjectKind} {name : String}
    (h : x.target? = some (k, name)) (client : String) :
    (v.handleInfo s x client).1.code? ∈ answerCodes (.about .info k) := by
  unfold handleInfo
  rw [h]
  dsimp only
  split
  · exact List.mem_cons_self
  · exact List.mem_cons_of_mem _ List.mem_cons_self

/-- An update that names its object is carried out, denied, or finds nothing. -/
theorem code?_handleUpdate {x : Update} {k : ObjectKind} {name : String}
    (h : x.target? = some (k, name)) (client : String) :
    (v.handleUpdate s x client).1.code? ∈ answerCodes (.about .update k) := by
  unfold handleUpdate
  rw [h]
  dsimp only
  split
  · exact List.mem_cons_of_mem _ (List.mem_cons_of_mem _ List.mem_cons_self)
  · split
    · exact List.mem_cons_self
    · exact List.mem_cons_of_mem _ List.mem_cons_self

theorem Dispatched.code {p : Purpose} {reply : Reply} (h : Dispatched v now s e p reply) :
    reply.1.code? ∈ answerCodes p := by
  cases h with
  | info _ htarget => exact code?_handleInfo htarget _
  | update _ htarget => exact code?_handleUpdate htarget _
  | idle hw =>
      simp only [idleVerbs, List.mem_cons, List.not_mem_nil, or_false] at hw
      rcases hw with rfl | rfl | rfl | rfl <;> exact List.mem_singleton_self _
  | greeting | logout | login | poll | check | unclear => exact List.mem_singleton_self _

/-- Five of the codes tell the purpose of the message. -/
theorem purpose_of_code (p : Purpose) :
    (none ∈ answerCodes p ↔ p = .greeting) ∧
    (some 1500 ∈ answerCodes p ↔ p = .plain .logout) ∧
    (some 2002 ∈ answerCodes p ↔ p = .plain .login) ∧
    (some 2101 ∈ answerCodes p ↔ p = .plain .poll ∨ ∃ w ∈ idleVerbs, ∃ k, p = .about w k) ∧
    (some 2000 ∈ answerCodes p ↔ p = .unclear) := by
  rcases p with _ | v | ⟨v, k⟩ | _
  · simp [answerCodes]
  · cases v <;> simp [answerCodes]
  · cases v <;> simp [answerCodes, idleVerbs]
  · simp [answerCodes]

/-- Where one of them is an answer, it is the only one. -/
theorem answerCodes_eq_singleton {p : Purpose} {c : Option UInt16}
    (hc : c ∈ [none, some 1500, some 2002, some 2101, some 2000]) (h : c ∈ answerCodes p) :
    answerCodes p = [c] := by
  obtain ⟨hgreeting, hended, hmisused, hidle, hunclear⟩ := purpose_of_code p
  simp only [List.mem_cons, List.not_mem_nil, or_false] at hc
  rcases hc with rfl | rfl | rfl | rfl | rfl
  · rw [hgreeting.mp h]
    rfl
  · rw [hended.mp h]
    rfl
  · rw [hmisused.mp h]
    rfl
  · rcases hidle.mp h with rfl | ⟨w, hw, k, rfl⟩
    · rfl
    · simp only [idleVerbs, List.mem_cons, List.not_mem_nil, or_false] at hw
      rcases hw with rfl | rfl | rfl | rfl <;> rfl
  · rw [hunclear.mp h]
    rfl

theorem Dispatched.code_eq_iff {p : Purpose} {reply : Reply} {c : Option UInt16}
    (h : Dispatched v now s e p reply)
    (hc : c ∈ [none, some 1500, some 2002, some 2101, some 2000]) :
    reply.1.code? = c ↔ c ∈ answerCodes p := by
  constructor
  · rintro rfl; exact h.code
  · intro hmem
    have hcode := h.code
    rw [answerCodes_eq_singleton hc hmem] at hcode
    exact List.mem_singleton.mp hcode

/-! ## Any message -/

/-- What greets has no code, and what has no code greets. -/
theorem greets_iff (v : Service) (now : Instant) (s : Session) (inbound : Inbound) :
    (v.handle now s inbound).1.greeting.isSome = true ↔
      (v.handle now s inbound).1.code? = none := by
  have hstep := handle_step v now s inbound
  generalize v.handle now s inbound = reply at hstep
  cases hstep with
  | greeting => exact ⟨fun _ => rfl, fun _ => rfl⟩
  | malformed | idle | noLogin | accepted | refused | shutOut | logout | answered | told =>
      simp [Session.respond, Session.respondWith, Envelope.ofResponse, Envelope.code?]

/-- How a session that takes commands is answered, and what becomes of it. -/
structure Dispatches (v : Service) (s : Session) (e : Envelope) (reply : Reply) : Prop where
  /-- Only the question for a greeting is answered with one. -/
  greeting : reply.1.greeting.isSome = true ↔ e.typed.parts = [.hello]
  ended : reply.1.code? = some 1500 ↔ e.typed.Asks .logout
  misused : reply.1.code? = some 2002 ↔ e.typed.Asks .login
  /-- A check of one kind reaches its handler. -/
  check : ∀ k, e.typed.AsksAbout .check k → ∃ x, e.typed.command.bind (·.check) = some x ∧
    reply = v.handleCheck s.received x (clientId e)
  /-- So does an info, and the handler finds the object that is asked for. -/
  info : ∀ k, e.typed.AsksAbout .info k → ∃ x name, e.typed.command.bind (·.info) = some x ∧
    x.target? = some (k, name) ∧ reply = v.handleInfo s.received x (clientId e)
  /-- And an update. -/
  update : ∀ k, e.typed.AsksAbout .update k → ∃ x name, e.typed.command.bind (·.update) = some x ∧
    x.target? = some (k, name) ∧ reply = v.handleUpdate s.received x (clientId e)
  /-- What is understood and not carried out. -/
  unimplemented : reply.1.code? = some 2101 ↔
    e.typed.Asks .poll ∨ ∃ w ∈ idleVerbs, ∃ k, e.typed.AsksAbout w k
  /-- Everything else is not understood. -/
  unknown : reply.1.code? = some 2000 ↔ ¬ e.typed.IsClear
  /-- What is not understood is counted and numbered, and changes nothing. -/
  stays : ¬ e.typed.IsClear →
    reply.2 = { s with messages := s.messages + 1, sequence := s.sequence + 1 }

/--
**Dispatch after the login is complete and exact.** Whatever comes to a session that takes commands:
the reply greets if the message only asks for that, and says that the session has ended, or that a
login is out of place, if the message is only a logout or only a login. A check, an info or an
update of exactly one kind of object reaches its handler with the body that the command has, and the
info and the update find their object there. A poll, and a create, delete, renewal or transfer of
one kind, is understood and not carried out. Every other message, which has no part or several, no
verb or several, or no kind or several, is not understood and leaves the session as it was, but for
its two counters.
-/
theorem dispatch_is_exact (v : Service) (now : Instant) {s : Session}
    (hs : s.state = .waitingForCommand) (e : Envelope) :
    Dispatches v s e (v.handle now s (.message e)) := by
  have hgreets := greets_iff v now s (.message e)
  have hstep := handle_dispatched v now hs e
  generalize v.handle now s (.message e) = reply at hgreets hstep
  obtain ⟨hgreeting, hended, hmisused, hidle, hunclear⟩ := purpose_of_code e.typed.purpose
  refine ⟨?_, ?_, ?_, fun k hk => ?_, fun k hk => ?_, fun k hk => ?_, ?_, ?_, fun hclear => ?_⟩
  · rw [hgreets, hstep.code_eq_iff (by simp), hgreeting, Envelope.purpose_eq_greeting]
  · rw [hstep.code_eq_iff (by simp), hended, Envelope.purpose_eq_plain rfl]
  · rw [hstep.code_eq_iff (by simp), hmisused, Envelope.purpose_eq_plain rfl]
  · rw [Envelope.purpose_eq_about.mpr hk] at hstep
    exact clientId_typed e ▸ hstep.of_check
  · rw [Envelope.purpose_eq_about.mpr hk] at hstep
    exact clientId_typed e ▸ hstep.of_info
  · rw [Envelope.purpose_eq_about.mpr hk] at hstep
    exact clientId_typed e ▸ hstep.of_update
  · rw [hstep.code_eq_iff (by simp), hidle, Envelope.purpose_eq_plain rfl]
    simp only [Envelope.purpose_eq_about]
  · rw [hstep.code_eq_iff (by simp), hunclear, Envelope.purpose_eq_unclear]
  · rw [Envelope.purpose_eq_unclear.mpr hclear] at hstep
    cases hstep with
    | unclear => rfl

/-- An update that declares two kinds is not understood and changes nothing; one that declares a
single kind reaches its handler; an info beside a logout is not understood either. -/
theorem dispatch_is_exact_thrice :
    let s : Session := {
      connection := 7, state := .waitingForCommand, sequence := 3, messages := 5 }
    let update (namespaces : Namespaces) : Update := { untyped := some {
      namespaces, name := "example.com", id := "", add := {}, remove := {}, change := none } }
    let two : Envelope := .ofCommand {
      update := some (update { domain := some "d", host := some "h" }), transactionId := "ABC-1" }
    let one : Envelope := .ofCommand {
      update := some (update { domain := some "d" }), transactionId := "ABC-2" }
    let both : Envelope := .ofCommand {
      info := some { host := some ⟨"ns1.example.com", none⟩ }, logout := true
      transactionId := "ABC-3" }
    let answer (e : Envelope) := ({} : Service).handle ⟨0, 0⟩ s (.message e)
    ((answer two).1.code? = some 2000 ∧
      (answer two).2 = { s with messages := 6, sequence := 4 }) ∧
    (∃ x name, x.target? = some (.domain, name) ∧
      answer one = ({} : Service).handleUpdate s.received x "ABC-2") ∧
    (answer both).1.code? = some 2000 := by
  intro s update two one both answer
  have hexact := dispatch_is_exact {} ⟨0, 0⟩ (s := s) rfl
  have htwo : ¬ two.typed.IsClear := Envelope.purpose_eq_unclear.mp rfl
  have hone : one.typed.AsksAbout .update .domain := Envelope.purpose_eq_about.mp rfl
  have hboth : ¬ both.typed.IsClear := Envelope.purpose_eq_unclear.mp rfl
  obtain ⟨x, name, -, htarget, hreply⟩ := (hexact one).update _ hone
  exact ⟨⟨(hexact two).unknown.mpr htwo, (hexact two).stays htwo⟩, ⟨x, name, htarget, hreply⟩,
    (hexact both).unknown.mpr hboth⟩

end Service

end Provisioning
