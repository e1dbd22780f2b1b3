import Provisioning.Proofs.Server.Run
import Provisioning.Proofs.Server.Steps

/-!
# Sessions only move forward

A session closes for three reasons, and they are decided in three different places: the client logs
out, it tries one login too many, or it says something else where a login is due. Only one of the
three codes lies in the range that announces the end of a session, so the range alone does not tell
which replies close. `Moves` says exactly which do, and a run of a session is then one phase after
the other with no way back.
-/

namespace Provisioning

open Calendar (Instant)

/-! ## What a reply says -/

/-- The code of a response. -/
def Envelope.code? (e : Envelope) : Option UInt16 := e.response.map (·.code)

/-- The identifier that a reply to a message has to carry: that of its command, or else that of its
response. -/
def Envelope.replyId (e : Envelope) : String :=
  match e.command, e.response with
  | some c, _ => c.transactionId
  | none, some r => r.clientTransactionId
  | none, none => ""

namespace Session

variable (s : Session) (code : ResultCode) (client : String)

@[simp] theorem code?_respond : (s.respond code client).1.code? = some code.code := rfl

@[simp] theorem code?_respondWith (data : ResultData) :
    (s.respondWith client data).1.code? = some ResultCode.commandSuccessful.code := rfl

@[simp] theorem state_respond : (s.respond code client).2.state = s.state := rfl

@[simp] theorem state_respondWith (data : ResultData) :
    (s.respondWith client data).2.state = s.state := rfl

@[simp] theorem state_received : s.received.state = s.state := rfl

@[simp] theorem state_moveTo (state : SessionState) : (s.moveTo state).state = state := rfl

@[simp] theorem state_logIn (a : Account) : (s.logIn a).state = .waitingForCommand := rfl

end Session

namespace Service

variable {v : Service} {now : Instant} {s : Session} {reply : Reply}

@[simp] theorem code?_greeting : (v.greeting now).code? = none := rfl

theorem clientId_eq_replyId (e : Envelope) : clientId e = e.replyId := by
  unfold clientId Envelope.transactionId Envelope.replyId
  cases e.command <;> cases e.response <;> rfl

/-! ## One step -/

/-- A session and a reply to what has come, as the phases allow them. -/
structure Moves (s : Session) (reply : Reply) : Prop where
  /-- A code that announces the end of the session comes with that end. -/
  fatal : ∀ code, reply.1.code? = some code → isFatalCode code = true →
    reply.2.state = .closeConnection
  /-- These replies close a session that was open, and no others do. -/
  closes : s.state ≠ .closeConnection ∧ reply.2.state = .closeConnection ↔
    reply.1.code? = some 1500 ∨ reply.1.code? = some 2501 ∨
      (reply.1.code? = some 2002 ∧ s.state = .waitingForClient)
  /-- A session that takes commands takes more of them, or it closes. -/
  commands : s.state = .waitingForCommand →
    reply.2.state = .waitingForCommand ∨ reply.2.state = .closeConnection
  /-- What is closed stays closed. -/
  closed : s.state = .closeConnection → reply.2.state = .closeConnection

/-- The codes that alone close nothing; one of them does where a login is due. -/
def quietCodes : List ResultCode := .commandSyntaxError :: .authenticationError :: plainCodes

theorem quiet_stays : ∀ code ∈ quietCodes,
    isFatalCode code.code = false ∧ code.code ≠ 1500 ∧ code.code ≠ 2501 := by
  decide

/-- A session that stays in its phase moves as it may if the code is none of those that close. -/
theorem moves_of_stays (hstate : reply.2.state = s.state)
    (hcode : ∀ n, reply.1.code? = some n → ∃ code ∈ quietCodes, code.code = n)
    (huse : reply.1.code? = some 2002 → s.state ≠ .waitingForClient) : Moves s reply where
  fatal n hn hfatal := by
    obtain ⟨code, hquiet, rfl⟩ := hcode n hn
    rw [(quiet_stays code hquiet).1] at hfatal
    exact absurd hfatal (by simp)
  closes := by
    constructor
    · rintro ⟨hopen, hclosed⟩
      exact absurd (hstate ▸ hclosed) hopen
    · rintro (hn | hn | ⟨hn, hs⟩)
      · obtain ⟨code, hquiet, hcode⟩ := hcode _ hn
        exact absurd hcode (quiet_stays code hquiet).2.1
      · obtain ⟨code, hquiet, hcode⟩ := hcode _ hn
        exact absurd hcode (quiet_stays code hquiet).2.2
      · exact absurd hs (huse hn)
  commands hs := .inl (hstate.trans hs)
  closed hs := hstate.trans hs

/-- A session that closes moves as it may if it was open and the code is one of those that close. -/
theorem moves_of_closes (hopen : s.state ≠ .closeConnection)
    (hstate : reply.2.state = .closeConnection)
    (hcode : reply.1.code? = some 1500 ∨ reply.1.code? = some 2501 ∨
      (reply.1.code? = some 2002 ∧ s.state = .waitingForClient)) : Moves s reply where
  fatal _ _ _ := hstate
  closes := ⟨fun _ => hcode, fun _ => ⟨hopen, hstate⟩⟩
  commands _ := .inr hstate
  closed _ := hstate

/-- **Every step moves the session as the phases allow.** -/
theorem handle_moves (v : Service) (now : Instant) (s : Session) (inbound : Inbound) :
    Moves s (v.handle now s inbound) := by
  have hstep := handle_step v now s inbound
  generalize v.handle now s inbound = reply at hstep
  cases hstep with
  | malformed =>
      exact moves_of_stays rfl (fun _ hn => ⟨.commandSyntaxError, by decide, Option.some.inj hn⟩)
        (by simp [ResultCode.code])
  | idle hclient =>
      -- the code is the one that closes where a login is due, and none is due here
      exact moves_of_stays rfl (fun _ hn => ⟨.commandUseError, by decide, Option.some.inj hn⟩)
        fun _ => hclient
  | noLogin hs => exact moves_of_closes (by simp [hs]) rfl (.inr (.inr ⟨rfl, hs⟩))
  -- the one way from the login to the commands
  | accepted hs =>
      refine ⟨fun n hn hfatal => ?_, by simp [ResultCode.code], fun _ => .inl rfl,
        fun hclosed => ?_⟩
      · obtain rfl := Option.some.inj hn
        have hquiet := (quiet_stays .commandSuccessful (by decide)).1
        exact absurd (hquiet.symm.trans hfatal) (by simp)
      · rw [hs] at hclosed
        exact absurd hclosed (by simp)
  | refused =>
      exact moves_of_stays rfl (fun _ hn => ⟨.authenticationError, by decide, Option.some.inj hn⟩)
        (by simp [ResultCode.code])
  | shutOut hs => exact moves_of_closes (by simp [hs]) rfl (.inr (.inl rfl))
  | greeting hs => exact moves_of_stays rfl (by simp) fun _ => by simp [hs]
  | logout hs => exact moves_of_closes (by simp [hs]) rfl (.inl rfl)
  | answered hs hcode =>
      exact moves_of_stays rfl
        (fun _ hn => ⟨_, by simp [quietCodes, hcode], Option.some.inj hn⟩) fun _ => by simp [hs]
  | told hs =>
      exact moves_of_stays rfl (fun _ hn => ⟨.commandSuccessful, by decide, Option.some.inj hn⟩)
        fun _ => by simp [hs]

/-- **A response is addressed to the message** that it answers. -/
theorem handle_addressed (v : Service) (now : Instant) (s : Session) (e : Envelope) {r : Response}
    (h : (v.handle now s (.message e)).1.response = some r) :
    r.clientTransactionId = e.replyId := by
  rw [← clientId_eq_replyId]
  have hstep := handle_step v now s (.message e)
  generalize v.handle now s (.message e) = reply at hstep h
  cases hstep with
  | greeting => exact absurd h (by simp [greeting, Envelope.ofGreeting])
  | idle | noLogin | accepted | refused | shutOut | logout | answered | told =>
      cases h
      rfl

/-! ## Runs -/

/-- The phases of a session after all that comes. -/
def phases (v : Service) (s : Session) (arrivals : List Arrival) : List SessionState :=
  (v.answers s arrivals).map (·.2.state)

theorem phases_cons (a : Arrival) (arrivals : List Arrival) :
    v.phases s (a :: arrivals) =
      (v.handle a.1 s a.2).2.state :: v.phases (v.handle a.1 s a.2).2 arrivals := rfl

theorem phases_closed (hs : s.state = .closeConnection) (arrivals : List Arrival) :
    v.phases s arrivals = List.replicate arrivals.length .closeConnection := by
  induction arrivals generalizing s with
  | nil => rfl
  | cons a arrivals ih =>
      have hnext := (handle_moves v a.1 s a.2).closed hs
      rw [phases_cons, hnext, ih hnext, List.length_cons, List.replicate_succ]

theorem phases_commands (hs : s.state = .waitingForCommand) (arrivals : List Arrival) :
    ∃ b c, v.phases s arrivals =
      List.replicate b .waitingForCommand ++ List.replicate c .closeConnection := by
  induction arrivals generalizing s with
  | nil => exact ⟨0, 0, rfl⟩
  | cons a arrivals ih =>
      rw [phases_cons]
      rcases (handle_moves v a.1 s a.2).commands hs with hnext | hnext
      · obtain ⟨b, c, hrest⟩ := ih hnext
        exact ⟨b + 1, c, by rw [hnext, hrest]; rfl⟩
      · exact ⟨0, arrivals.length + 1, by rw [hnext, phases_closed hnext]; rfl⟩

theorem phases_client (hs : s.state = .waitingForClient) (arrivals : List Arrival) :
    ∃ a b c, v.phases s arrivals =
      List.replicate a .waitingForClient ++ List.replicate b .waitingForCommand ++
        List.replicate c .closeConnection := by
  induction arrivals generalizing s with
  | nil => exact ⟨0, 0, 0, rfl⟩
  | cons x arrivals ih =>
      rw [phases_cons]
      -- a session that was greeted is not greeted again
      have hgreeted : (v.handle x.1 s x.2).2.state ≠ .prepareGreeting :=
        handle_greeted (by simp [hs])
      cases hnext : (v.handle x.1 s x.2).2.state with
      | prepareGreeting => exact absurd hnext hgreeted
      | waitingForClient =>
          obtain ⟨a, b, c, hrest⟩ := ih hnext
          exact ⟨a + 1, b, c, by rw [hrest]; rfl⟩
      | waitingForCommand =>
          obtain ⟨b, c, hrest⟩ := phases_commands hnext arrivals
          exact ⟨0, b + 1, c, by rw [hrest]; rfl⟩
      | closeConnection =>
          exact ⟨0, 0, arrivals.length + 1, by rw [phases_closed hnext]; rfl⟩

/--
**Sessions only move forward.** Whatever the service, the session and what comes: the reply closes
an open session exactly if it says that the session was ended, that a login failed once too often,
or that something else came where a login was due; a code that announces the end comes with it,
commands lead to more commands or to the end, and the end is for good. A faulty document is answered
as one, to nobody's identifier, and moves nothing; every other response carries the identifier of
the message it answers. So a session that was greeted waits for a login, then takes commands, then
is closed, and any of the three may be missing.
-/
theorem sessions_move_forward (v : Service) :
    (∀ now s inbound, Moves s (v.handle now s inbound)) ∧
    (∀ now s fault, (∃ r, (v.handle now s (.malformed fault)).1 = .ofResponse r ∧
        r.code = 2001 ∧ r.clientTransactionId = "") ∧
      (v.handle now s (.malformed fault)).2.state = s.state ∧
      (v.handle now s (.malformed fault)).2.account = s.account ∧
      (v.handle now s (.malformed fault)).2.failedLogins = s.failedLogins) ∧
    (∀ now s e, ∀ r ∈ (v.handle now s (.message e)).1.response,
      r.clientTransactionId = e.replyId) ∧
    ∀ connection arrivals, ∃ a b c,
      v.phases (.greeted connection) arrivals =
        List.replicate a .waitingForClient ++ List.replicate b .waitingForCommand ++
          List.replicate c .closeConnection := by
  refine ⟨handle_moves v, fun now s fault => ?_, fun now s e r hr => handle_addressed v now s e hr,
    fun connection arrivals => phases_client rfl arrivals⟩
  exact ⟨⟨_, rfl, rfl, rfl⟩, rfl, rfl, rfl⟩

end Service

end Provisioning
