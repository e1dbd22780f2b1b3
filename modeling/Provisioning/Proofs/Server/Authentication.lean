import Provisioning.Proofs.Server.Run
import Provisioning.Proofs.Server.Steps

/-!
# Nobody is known without a login

A session becomes somebody's in one way only: it waits for a login, the message that comes is a
login and nothing else, and the password is right. The phase of the session and the account bound to
it are two fields, and a message may have any shape, so the claim is carried by two invariants:
`Outside` until that step and `Bound` to one account from it on. `outside_step` is the only place
where the two meet.
-/

namespace Provisioning

open Calendar (Instant)

/-- The session is nobody's, and commands are not answered. -/
def Session.Outside (s : Session) : Prop := s.state ≠ .waitingForCommand ∧ s.account = none

/-- The session is somebody's and will not take another login. -/
def Session.Bound (a : Account) (s : Session) : Prop :=
  s.account = some a ∧ s.state ≠ .waitingForClient

/-- The session waits for commands, or it is somebody's. -/
def Session.Known (s : Session) : Prop := s.state = .waitingForCommand ∨ s.account.isSome = true

/-- The reply carries neither data about objects nor a greeting. -/
def Envelope.IsBare (e : Envelope) : Prop :=
  e.greeting = none ∧ ∀ r ∈ e.response, r.data = none

/-- The session waits for a login, and what comes is one that is accepted for the account. -/
def Service.Admits (v : Service) (s : Session) (inbound : Inbound) (a : Account) : Prop :=
  s.state = .waitingForClient ∧ ∃ e x, inbound = .message e ∧ e.IsOnlyLogin x ∧
    v.credentials.authenticate x.clientId x.password = some a

namespace Service

variable {v : Service} {now : Instant} {s : Session} {inbound : Inbound}

theorem not_known_of_outside (h : s.Outside) : ¬ s.Known := by
  rintro (hs | ha)
  · exact h.1 hs
  · rw [h.2] at ha
    exact absurd ha (by simp)

theorem respond_bare (s : Session) (code : ResultCode) (client : String) :
    (s.respond code client).1.IsBare :=
  ⟨rfl, fun r hr => by cases hr; rfl⟩

/-- **A step from outside stays outside, or it is an accepted login.** Either way the reply tells
nothing. -/
theorem outside_step (h : s.Outside) (now : Instant) (inbound : Inbound) :
    (v.handle now s inbound).1.IsBare ∧
      ((v.handle now s inbound).2.Outside ∨
        ∃ a, v.Admits s inbound a ∧ (v.handle now s inbound).2.Bound a) := by
  obtain ⟨hstate, haccount⟩ := h
  have hstep := handle_step v now s inbound
  generalize v.handle now s inbound = reply at hstep
  cases hstep with
  | malformed => exact ⟨respond_bare _ _ _, .inl ⟨hstate, haccount⟩⟩
  | idle => exact ⟨respond_bare _ _ _, .inl ⟨hstate, haccount⟩⟩
  | noLogin => exact ⟨respond_bare _ _ _, .inl ⟨by simp [Session.respond, Session.advance,
      Session.moveTo], haccount⟩⟩
  | @accepted e x a hs he ha =>
      exact ⟨respond_bare _ _ _, .inr ⟨a, ⟨hs, e, x, rfl, he, ha⟩, rfl, by
        simp [Session.respond, Session.advance, Session.logIn]⟩⟩
  | refused => exact ⟨respond_bare _ _ _, .inl ⟨hstate, haccount⟩⟩
  | shutOut => exact ⟨respond_bare _ _ _, .inl ⟨by simp [Session.respond, Session.advance,
      Session.moveTo], haccount⟩⟩
  -- the rest happens to sessions that wait for commands
  | greeting hs => exact absurd hs hstate
  | logout hs => exact absurd hs hstate
  | answered hs => exact absurd hs hstate
  | told hs => exact absurd hs hstate

/-- **An account that is bound stays bound**, whatever comes, another login included. -/
theorem bound_step {a : Account} (now : Instant) (s : Session) (inbound : Inbound)
    (h : s.Bound a) : (v.handle now s inbound).2.Bound a := by
  obtain ⟨haccount, hstate⟩ := h
  have hstep := handle_step v now s inbound
  generalize v.handle now s inbound = reply at hstep
  cases hstep with
  | malformed => exact ⟨haccount, hstate⟩
  | idle => exact ⟨haccount, hstate⟩
  -- only a session that waits for a login can take one
  | noLogin hs => exact absurd hs hstate
  | accepted hs => exact absurd hs hstate
  | refused hs => exact absurd hs hstate
  | shutOut hs => exact absurd hs hstate
  | greeting => exact ⟨haccount, hstate⟩
  | logout => exact ⟨haccount, by simp [Session.respond, Session.advance, Session.moveTo]⟩
  | answered => exact ⟨haccount, hstate⟩
  | told => exact ⟨haccount, hstate⟩

/-- A run from outside stays outside, or there is a first accepted login in it. -/
theorem outside_run (h : s.Outside) (arrivals : List Arrival) :
    ((∀ r ∈ v.answers s arrivals, r.1.IsBare ∧ r.2.Outside) ∧ (v.after s arrivals).Outside) ∨
      ∃ earlier now inbound later a, arrivals = earlier ++ (now, inbound) :: later ∧
        v.Admits (v.after s earlier) inbound a ∧
        (∀ r ∈ v.answers s earlier, r.1.IsBare ∧ r.2.Outside) ∧
        (v.handle now (v.after s earlier) inbound).1.IsBare ∧
        (v.handle now (v.after s earlier) inbound).2.Bound a := by
  induction arrivals generalizing s with
  | nil => exact .inl ⟨by simp [answers], h⟩
  | cons x arrivals ih =>
      obtain ⟨now, inbound⟩ := x
      obtain ⟨hbare, hout | ⟨a, hadmits, hbound⟩⟩ := outside_step (v := v) h now inbound
      · rcases ih hout with ⟨hall, hend⟩ |
          ⟨earlier, now', inbound', later, a, harr, hadmits, hall, hlast⟩
        · refine .inl ⟨fun r hr => ?_, hend⟩
          rcases List.mem_cons.mp hr with rfl | hr
          · exact ⟨hbare, hout⟩
          · exact hall r hr
        · refine .inr ⟨(now, inbound) :: earlier, now', inbound', later, a, by rw [harr]; rfl,
            hadmits, fun r hr => ?_, hlast⟩
          rcases List.mem_cons.mp hr with rfl | hr
          · exact ⟨hbare, hout⟩
          · exact hall r hr
      · exact .inr ⟨[], now, inbound, arrivals, a, rfl, hadmits, by simp [answers], hbare, hbound⟩

theorem outside_greeted (connection : UInt64) : (Session.greeted connection).Outside :=
  ⟨by simp [Session.greeted, Session.moveTo], rfl⟩

/--
**A session is known only by a login.** If after some arrivals it waits for commands or has an
account, then one of them was a login and nothing else, came while the session waited for it, and
was accepted for an account. No reply up to that one told anything and nobody was known before it;
after it the account is that one for good, whatever more comes. And as long as the session is not
known, no reply tells anything.
-/
theorem known_only_by_login (v : Service) (connection : UInt64) (arrivals : List Arrival) :
    ((v.after (.greeted connection) arrivals).Known →
      ∃ earlier now inbound later a, arrivals = earlier ++ (now, inbound) :: later ∧
        v.Admits (v.after (.greeted connection) earlier) inbound a ∧
        (∀ r ∈ v.answers (.greeted connection) (earlier ++ [(now, inbound)]), r.1.IsBare) ∧
        (∀ r ∈ v.answers (.greeted connection) earlier, ¬ r.2.Known) ∧
        ∀ more, ∀ r ∈ v.answers (v.after (.greeted connection) earlier)
          ((now, inbound) :: later ++ more), r.2.account = some a) ∧
    (¬ (v.after (.greeted connection) arrivals).Known →
      ∀ r ∈ v.answers (.greeted connection) arrivals, r.1.IsBare) := by
  rcases outside_run (v := v) (outside_greeted connection) arrivals with ⟨hall, hend⟩ |
    ⟨earlier, now, inbound, later, a, harr, hadmits, hall, hbare, hbound⟩
  · exact ⟨fun hknown => absurd hknown (not_known_of_outside hend),
      fun _ r hr => (hall r hr).1⟩
  · have hkept := fun more => run_keeps (bound_step (v := v) (a := a)) hbound (later ++ more)
    constructor
    · intro _
      refine ⟨earlier, now, inbound, later, a, harr, hadmits, ?_, ?_, ?_⟩
      · intro r hr
        rw [answers_append] at hr
        rcases List.mem_append.mp hr with hr | hr
        · exact (hall r hr).1
        · rw [List.mem_singleton.mp hr]
          exact hbare
      · exact fun r hr => not_known_of_outside (hall r hr).2
      · intro more r hr
        rcases List.mem_cons.mp hr with rfl | hr
        · exact hbound.1
        · exact ((hkept more).2 r hr).1
    · intro hunknown
      refine absurd (Or.inr ?_) hunknown
      have hlast := (hkept []).1
      rw [List.append_nil] at hlast
      rw [harr, after_append, after_cons, hlast.1]
      rfl

/-- A faulty document, a wrong password, the right one, and then another login. -/
theorem known_only_by_login_third :
    let account : Account := ⟨"registrar1", hashPassword "pw1", "REG-1"⟩
    let other : Account := ⟨"registrar2", hashPassword "pw2", "REG-2"⟩
    let v : Service := { credentials := ⟨[("registrar1", account), ("registrar2", other)]⟩ }
    let login (name password : String) : Inbound := .message (.ofCommand {
      login := some { clientId := name, password, objectUris := [], extensionUris := [] }
      transactionId := "ABC-1" })
    let arrivals : List Arrival :=
      [(⟨0, 0⟩, .malformed .markup), (⟨0, 0⟩, login "registrar0" "pw1"),
        (⟨1, 0⟩, login "registrar1" "pw1"), (⟨2, 0⟩, login "registrar2" "pw2")]
    (v.after (.greeted 7) arrivals).Known ∧
      ∃ earlier now inbound later a, arrivals = earlier ++ (now, inbound) :: later ∧
        v.Admits (v.after (.greeted 7) earlier) inbound a ∧
        (∀ r ∈ v.answers (.greeted 7) (earlier ++ [(now, inbound)]), r.1.IsBare) ∧
        (∀ r ∈ v.answers (.greeted 7) earlier, ¬ r.2.Known) ∧
        ∀ more, ∀ r ∈ v.answers (v.after (.greeted 7) earlier)
          ((now, inbound) :: later ++ more), r.2.account = some a := by
  intro account other v login arrivals
  have hknown : (v.after (.greeted 7) arrivals).Known := by
    refine .inl ?_
    simp [arrivals, after, login, v, account, handle, handleClient, handleCommand, handleLogin,
      Session.greeted, Session.moveTo, Session.received, Session.respond, Session.advance,
      Session.logIn, Credentials.authenticate, Table.find?, Account.accepts, login?,
      Envelope.ofCommand, Envelope.typed, Command.typed, Envelope.tag, Command.tag, soleOr,
      Option.filter]
  exact ⟨hknown, (known_only_by_login v 7 arrivals).1 hknown⟩

end Service

end Provisioning
