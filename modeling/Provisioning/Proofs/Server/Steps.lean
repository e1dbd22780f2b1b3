import Provisioning.Proofs.Message.Sole
import Provisioning.Server.Service

/-!
# What one step can do

The service answers in three functions, one for each phase of a session, and takes a message apart
to find out what it is. What comes of it is one of ten things, listed here once with all that is
known when it happens. `handle_step` says that these are all; what follows about runs, replies and
states is a case analysis over them and never opens the functions again.
-/

namespace Provisioning

open Calendar (Instant)

/-- The codes with which a command is answered that leaves the session as it is. -/
def plainCodes : List ResultCode :=
  [.commandSuccessful, .unknownCommand, .commandUseError, .unimplementedCommand,
    .authorizationError, .objectDoesNotExist]

namespace Service

theorem clientId_typed (e : Envelope) : clientId e.typed = clientId e := by
  unfold clientId Envelope.transactionId Envelope.typed
  cases e.command <;> cases e.response <;> rfl

/-- What comes of one message or one faulty document, by the phase that the session is in. -/
inductive Step (v : Service) (now : Instant) (s : Session) : Inbound → Reply → Prop where
  /-- A faulty document is answered in every phase, and to nobody's identifier. -/
  | malformed {fault : Fault} :
      Step v now s (.malformed fault) (s.received.respond .commandSyntaxError "")
  /-- Before the greeting and after the end nothing is understood. -/
  | idle {e : Envelope} :
      s.state ≠ .waitingForClient → s.state ≠ .waitingForCommand →
      Step v now s (.message e) (s.received.respond .commandUseError (clientId e))
  /-- Anything but a login closes a session that waits for one. -/
  | noLogin {e : Envelope} :
      s.state = .waitingForClient → (∀ x, ¬ e.IsOnlyLogin x) →
      Step v now s (.message e)
        ((s.received.moveTo .closeConnection).respond .commandUseError (clientId e))
  | accepted {e : Envelope} {x : Login} {a : Account} :
      s.state = .waitingForClient → e.IsOnlyLogin x →
      v.credentials.authenticate x.clientId x.password = some a →
      Step v now s (.message e) ((s.received.logIn a).respond .commandSuccessful (clientId e))
  | refused {e : Envelope} {x : Login} :
      s.state = .waitingForClient → e.IsOnlyLogin x →
      v.credentials.authenticate x.clientId x.password = none →
      s.failedLogins < v.maxFailedLogins →
      Step v now s (.message e)
        ({ s.received with
          refusals := s.refusals + 1
          failedLogins := s.failedLogins + 1 }.respond .authenticationError (clientId e))
  | shutOut {e : Envelope} {x : Login} :
      s.state = .waitingForClient → e.IsOnlyLogin x →
      v.credentials.authenticate x.clientId x.password = none →
      v.maxFailedLogins ≤ s.failedLogins →
      Step v now s (.message e)
        (({ s.received with refusals := s.refusals + 1 }.moveTo .closeConnection).respond
          .authenticationErrorClosing (clientId e))
  | greeting {e : Envelope} :
      s.state = .waitingForCommand → e.typed.tag = .hello →
      Step v now s (.message e) (v.greeting now, s.received)
  | logout {e : Envelope} :
      s.state = .waitingForCommand → e.typed.tag = .command .logout →
      Step v now s (.message e)
        ((s.received.moveTo .closeConnection).respond .completedEndingSession (clientId e))
  | answered {e : Envelope} {code : ResultCode} :
      s.state = .waitingForCommand → code ∈ plainCodes →
      Step v now s (.message e) (s.received.respond code (clientId e))
  | told {e : Envelope} {data : ResultData} :
      s.state = .waitingForCommand →
      Step v now s (.message e) (s.received.respondWith (clientId e) data)

variable {v : Service} {now : Instant} {s : Session}

theorem login?_eq_some {e : Envelope} {x : Login} : login? e = some x ↔ e.IsOnlyLogin x := by
  unfold login?
  split
  · rename_i htag
    obtain ⟨y, h1, h2, h3, c, hc, hy⟩ := Envelope.tag_eq_login.mp htag
    rw [hc, Option.bind_some, hy.login, Option.some.injEq]
    constructor
    · rintro rfl; exact ⟨h1, h2, h3, c, hc, hy⟩
    · rintro ⟨-, -, -, d, hd, hx⟩
      rw [hc, Option.some.injEq] at hd
      subst hd
      exact Option.some.inj (hy.login.symm.trans hx.login)
  · rename_i htag
    constructor
    · intro h; exact absurd h (by simp)
    · intro hx; exact absurd (Envelope.tag_eq_login.mpr ⟨x, hx⟩) htag

theorem handleClient_step {e : Envelope} (hs : s.state = .waitingForClient) :
    Step v now s (.message e) (v.handleClient s.received e.typed) := by
  unfold handleClient
  rw [clientId_typed]
  cases hx : login? e.typed with
  | none =>
      refine .noLogin hs fun x he => ?_
      rw [login?_eq_some.mpr (Envelope.isOnlyLogin_typed.mpr he)] at hx
      exact absurd hx (by simp)
  | some x =>
      have he := Envelope.isOnlyLogin_typed.mp (login?_eq_some.mp hx)
      simp only [handleLogin]
      cases ha : v.credentials.authenticate x.clientId x.password with
      | some a => exact .accepted hs he ha
      | none =>
          dsimp only
          split
          · rename_i hmax; exact .shutOut hs he ha hmax
          · rename_i hmax; exact .refused hs he ha (Nat.lt_of_not_le hmax)

theorem handleCheck_step {e : Envelope} (hs : s.state = .waitingForCommand) (c : Check) :
    Step v now s (.message e) (v.handleCheck s.received c (clientId e)) := .told hs

theorem handleInfo_step {e : Envelope} (hs : s.state = .waitingForCommand) (x : Info) :
    Step v now s (.message e) (v.handleInfo s.received x (clientId e)) := by
  unfold handleInfo
  split
  · exact .answered hs (by decide)
  · split
    · exact .told hs
    · exact .answered hs (by decide)

theorem handleUpdate_step {e : Envelope} (hs : s.state = .waitingForCommand) (x : Update) :
    Step v now s (.message e) (v.handleUpdate s.received x (clientId e)) := by
  unfold handleUpdate
  split
  · exact .answered hs (by decide)
  · split
    · exact .answered hs (by decide)
    · split
      · exact .answered hs (by decide)
      · exact .answered hs (by decide)

theorem handlePart_step {α : Type} {e : Envelope} (hs : s.state = .waitingForCommand)
    {part : Option α} {handle : α → String → Reply}
    (h : ∀ x, Step v now s (.message e) (handle x (clientId e))) :
    Step v now s (.message e) (handlePart s.received part (clientId e) handle) := by
  unfold handlePart
  split
  · exact h _
  · exact .answered hs (by decide)

theorem handleCommand_step {e : Envelope} (hs : s.state = .waitingForCommand) :
    Step v now s (.message e) (v.handleCommand now s.received e.typed) := by
  unfold handleCommand
  rw [clientId_typed]
  dsimp only
  split
  · rename_i htag; exact .greeting hs htag
  · rename_i htag; exact .logout hs htag
  · exact .answered hs (by decide)
  · exact handlePart_step hs fun c => handleCheck_step hs c
  · exact handlePart_step hs fun x => handleInfo_step hs x
  · exact handlePart_step hs fun x => handleUpdate_step hs x
  · split
    · exact .answered hs (by decide)
    · exact .answered hs (by decide)
  · exact .answered hs (by decide)

theorem handle_of_waitingForCommand {e : Envelope} (hs : s.state = .waitingForCommand) :
    v.handle now s (.message e) = v.handleCommand now s.received e.typed := by
  have hstate : s.received.state = .waitingForCommand := hs
  simp only [handle, hstate]

/-- **Every step is one of these.** -/
theorem handle_step (v : Service) (now : Instant) (s : Session) (inbound : Inbound) :
    Step v now s inbound (v.handle now s inbound) := by
  unfold handle
  cases inbound with
  | malformed fault => exact .malformed
  | message e =>
      have hstate : s.received.state = s.state := rfl
      dsimp only
      split
      · rename_i hs; exact handleClient_step (hstate ▸ hs)
      · rename_i hs; exact handleCommand_step (hstate ▸ hs)
      · rename_i hs
        rw [clientId_typed]
        rw [hstate] at hs
        exact .idle (by simp [hs]) (by simp [hs])
      · rename_i hs
        rw [clientId_typed]
        rw [hstate] at hs
        exact .idle (by simp [hs]) (by simp [hs])

/-- A session greets once. -/
theorem handle_greeted {inbound : Inbound} (h : s.state ≠ .prepareGreeting) :
    (v.handle now s inbound).2.state ≠ .prepareGreeting := by
  have hstep := handle_step v now s inbound
  generalize v.handle now s inbound = reply at hstep
  cases hstep with
  | malformed | idle | refused | greeting | answered | told => exact h
  | noLogin | accepted | shutOut | logout =>
      simp [Session.respond, Session.advance, Session.moveTo, Session.logIn]

end Service

end Provisioning
