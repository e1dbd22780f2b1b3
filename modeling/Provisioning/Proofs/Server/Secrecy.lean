import Provisioning.Proofs.Related
import Provisioning.Proofs.Server.Admission
import Provisioning.Proofs.Server.Authentication

/-!
# Passwords of objects stay with their sponsors

The password of a domain or a contact is told to its sponsor. Nobody else can find out anything
about it: not from a reply, not from an identifier of a transaction, and not from what the session
does. So the statement is about two runs. Two registries that differ in nothing but passwords, and
not in the password of any object of the registrar that logs in, are run on the same messages, at
any times, and nothing that can be seen from outside differs, the time in a greeting aside.

Which registrar that is turns out in the run. A step before the login never looks at the registry,
and a step after it sees the registrar that stays bound until the end; so the agreement that is
needed at each step is the one for the registrar at the end.
-/

namespace Provisioning

open Calendar (Instant)

/-! ## What a registrar may see of a registry -/

/-- Two records of a domain are one and the same to a registrar: they differ at most in the
password, and not in it either if the domain is the registrar's own. -/
structure DomainRecord.AgreesFor (registrar : Option String) (d d' : DomainRecord) : Prop where
  rest : { d with authPassword := d'.authPassword } = d'
  own : registrar = some d.history.sponsor → d.authPassword = d'.authPassword

/-- Two records of a contact are one and the same to a registrar. -/
structure ContactRecord.AgreesFor (registrar : Option String) (c c' : ContactRecord) : Prop where
  rest : { c with authPassword := c'.authPassword } = c'
  own : registrar = some c.history.sponsor → c.authPassword = c'.authPassword

/-- Two registries are one and the same to a registrar: so are their records under every name. -/
structure Registry.AgreesFor (registrar : Option String) (r r' : Registry) : Prop where
  domains : ∀ name, Option.Rel (DomainRecord.AgreesFor registrar) (r.domain? name) (r'.domain? name)
  hosts : ∀ name, r.host? name = r'.host? name
  contacts : ∀ id, Option.Rel (ContactRecord.AgreesFor registrar) (r.contact? id) (r'.contact? id)

variable {registrar : Option String} {r r' : Registry}

theorem DomainRecord.AgreesFor.data_eq {d d' : DomainRecord} (h : d.AgreesFor registrar d')
    (filter : HostsFilter) :
    d.data filter (registrar == some d.history.sponsor) =
      d'.data filter (registrar == some d'.history.sponsor) := by
  obtain ⟨hrest, hown⟩ := h
  rw [← hrest]
  by_cases hsponsor : registrar = some d.history.sponsor
  · rw [← hown hsponsor]
  · -- to anybody else the password is not told
    have hother : (registrar == some d.history.sponsor) = false := by simpa using hsponsor
    simp only [data, hother]
    rfl

theorem ContactRecord.AgreesFor.data_eq {c c' : ContactRecord} (h : c.AgreesFor registrar c') :
    c.data (registrar == some c.history.sponsor) =
      c'.data (registrar == some c'.history.sponsor) := by
  obtain ⟨hrest, hown⟩ := h
  rw [← hrest]
  by_cases hsponsor : registrar = some c.history.sponsor
  · rw [← hown hsponsor]
  · have hother : (registrar == some c.history.sponsor) = false := by simpa using hsponsor
    simp only [data, hother]
    rfl

namespace Registry.AgreesFor

theorem sponsor?_eq (h : r.AgreesFor registrar r') (k : ObjectKind) (name : String) :
    r.sponsor? k name = r'.sponsor? k name := by
  cases k with
  | domain =>
      refine map_congr_of_rel (fun hd => ?_) (h.domains name)
      rw [← hd.rest]
  | host => rw [sponsor?, sponsor?, h.hosts]
  | contact =>
      refine map_congr_of_rel (fun hc => ?_) (h.contacts name)
      rw [← hc.rest]

theorem holds_eq (h : r.AgreesFor registrar r') (k : ObjectKind) (name : String) :
    r.holds k name = r'.holds k name := by
  rw [← sponsor?_isSome, ← sponsor?_isSome, h.sponsor?_eq]

end Registry.AgreesFor

/-! ## One step -/

/-- The message without the time at which it was written, which only a greeting has. -/
def Envelope.undated (e : Envelope) : Envelope :=
  { e with greeting := e.greeting.map fun g => { g with serverDate := "" } }

/-- What can be seen from outside of a reply and the session after it. -/
def Reply.seen (reply : Reply) : Reply := (reply.1.undated, reply.2)

namespace Service

/-- The service with another registry. -/
def serving (v : Service) (r : Registry) : Service := { v with registry := r }

variable {v : Service} {s : Session}

theorem availability_congr (h : r.AgreesFor registrar r') (k : ObjectKind) :
    (v.serving r).availability k = (v.serving r').availability k := by
  funext names
  simp only [availability, serving, h.holds_eq]

theorem describe_congr (h : r.AgreesFor s.registrarId? r') (filter : HostsFilter)
    (k : ObjectKind) (name : String) :
    (v.serving r).describe s filter k name = (v.serving r').describe s filter k name := by
  cases k with
  | domain =>
      refine map_congr_of_rel (fun hd => ?_) (h.domains name)
      rw [Session.sponsors, Session.sponsors, hd.data_eq filter]
  | host => simp only [describe, serving, h.hosts]
  | contact =>
      refine map_congr_of_rel (fun hc => ?_) (h.contacts name)
      rw [Session.sponsors, Session.sponsors, hc.data_eq]

theorem handleCheck_congr (h : r.AgreesFor registrar r') :
    (v.serving r).handleCheck s = (v.serving r').handleCheck s := by
  funext c client
  simp only [handleCheck, availability_congr h]

theorem handleInfo_congr (h : r.AgreesFor s.registrarId? r') :
    (v.serving r).handleInfo s = (v.serving r').handleInfo s := by
  funext x client
  simp only [handleInfo, describe_congr h]

theorem handleUpdate_congr (h : r.AgreesFor registrar r') :
    (v.serving r).handleUpdate s = (v.serving r').handleUpdate s := by
  funext x client
  simp only [handleUpdate, serving, h.sponsor?_eq]

theorem handleCommand_congr (h : r.AgreesFor s.registrarId? r') (now : Instant) (e : Envelope) :
    (v.serving r).handleCommand now s e = (v.serving r').handleCommand now s e := by
  have hgreeting : (v.serving r).greeting now = (v.serving r').greeting now := rfl
  simp only [handleCommand, hgreeting, handleCheck_congr h, handleInfo_congr h,
    handleUpdate_congr h]

/-- **Only a session that takes commands looks at the registry.** -/
theorem handle_congr (h : s.state = .waitingForCommand → r.AgreesFor s.registrarId? r')
    (now : Instant) (inbound : Inbound) :
    (v.serving r).handle now s inbound = (v.serving r').handle now s inbound := by
  cases inbound with
  | malformed => rfl
  | message e =>
      unfold handle
      cases hs : s.received.state with
      | waitingForCommand =>
          simp only [hs]
          exact handleCommand_congr (s := s.received) (h hs) now e.typed
      | waitingForClient =>
          -- a login is decided by the accounts alone
          simp only [hs]
          rfl
      | prepareGreeting | closeConnection => simp only [hs]

theorem undated_greeting (v : Service) (now now' : Instant) :
    (v.greeting now).undated = (v.greeting now').undated := by
  simp only [greeting, Envelope.ofGreeting, Envelope.undated, Option.map_some]

/-- **When a step is made can be seen in nothing but a greeting.** -/
theorem seen_handle (v : Service) (now now' : Instant) (s : Session) (inbound : Inbound) :
    Reply.seen (v.handle now s inbound) = Reply.seen (v.handle now' s inbound) := by
  cases inbound with
  | malformed => rfl
  | message e =>
      unfold handle
      cases hs : s.received.state with
      | waitingForCommand =>
          have hgreeting := v.undated_greeting now now'
          simp only [hs, handleCommand]
          -- the greetings are all that depends on the times
          generalize v.greeting now = g at hgreeting ⊢
          generalize v.greeting now' = g' at hgreeting ⊢
          split
          · exact congrArg (·, s.received) hgreeting
          all_goals rfl
      | prepareGreeting | waitingForClient | closeConnection => simp only [hs]

/-! ## Runs -/

/-- The session is nobody's and takes no commands, or it is somebody's for good. -/
def Settled (s : Session) : Prop := s.Outside ∨ ∃ a, s.Bound a

theorem settled_step (h : Settled s) (now : Instant) (inbound : Inbound) :
    Settled (v.handle now s inbound).2 := by
  rcases h with houtside | ⟨a, hbound⟩
  · obtain ⟨-, hnext | ⟨a, -, hnext⟩⟩ := outside_step (v := v) houtside now inbound
    · exact .inl hnext
    · exact .inr ⟨a, hnext⟩
  · exact .inr ⟨a, bound_step now s inbound hbound⟩

/-- A session that takes commands has the registrar that it has at the end. -/
theorem registrarId?_after (h : Settled s) (hs : s.state = .waitingForCommand)
    (arrivals : List Arrival) : (v.after s arrivals).registrarId? = s.registrarId? := by
  rcases h with houtside | ⟨a, hbound⟩
  · exact absurd hs houtside.1
  · have hlast := (run_keeps (bound_step (v := v) (a := a)) hbound arrivals).1
    rw [Session.registrarId?, Session.registrarId?, hlast.1, hbound.1]

theorem seen_answers {xs ys : List Arrival} (hs : Settled s)
    (hsame : xs.map Prod.snd = ys.map Prod.snd)
    (h : r.AgreesFor ((v.serving r).after s xs).registrarId? r') :
    ((v.serving r).answers s xs).map Reply.seen = ((v.serving r').answers s ys).map Reply.seen := by
  induction xs generalizing s ys with
  | nil =>
      obtain rfl := List.map_eq_nil_iff.mp hsame.symm
      rfl
  | cons x xs ih =>
      obtain ⟨y, ys, rfl, hy, hrest⟩ := List.map_eq_cons_iff.mp hsame.symm
      -- the registrar of the end is the one of this step, if this step asks for one
      have hnow : s.state = .waitingForCommand → r.AgreesFor s.registrarId? r' := by
        intro hcommand
        rwa [registrarId?_after hs hcommand] at h
      have hseen : Reply.seen ((v.serving r).handle x.1 s x.2) =
          Reply.seen ((v.serving r').handle y.1 s y.2) := by
        rw [hy, seen_handle _ x.1 y.1, handle_congr hnow]
      have hnext : ((v.serving r).handle x.1 s x.2).2 = ((v.serving r').handle y.1 s y.2).2 :=
        (Prod.ext_iff.mp hseen).2
      rw [after_cons] at h
      rw [answers, answers, List.map_cons, List.map_cons, hseen,
        ih (settled_step hs x.1 x.2) hrest.symm h, hnext]

/--
**Passwords of objects stay with their sponsors.** A session that is nobody's is given the same
messages over two registries that are one and the same to the registrar whom the session has at the
end of the first run, so that they may differ in every password of every object that is not that
registrar's, and in all passwords if there is no registrar. Whatever the credentials, the messages
and the two times at which each is answered: the replies are the same but for the times in
greetings, with the identifiers of their transactions, and so is the session after each of them.
-/
theorem passwords_stay_with_sponsors (v : Service) {r r' : Registry} {s : Session}
    {xs ys : List Arrival} (hs : s.Outside) (hsame : xs.map Prod.snd = ys.map Prod.snd)
    (h : r.AgreesFor ((v.serving r).after s xs).registrarId? r') :
    ((v.serving r).answers s xs).map Reply.seen = ((v.serving r').answers s ys).map Reply.seen :=
  seen_answers (.inl hs) hsame h

/-- One registrar logs in, asks with a guessed password about a domain of another, asks for a
greeting, and sees nothing of which of two passwords the domain has. -/
theorem passwords_stay_with_sponsors_guess :
    let account : Account := ⟨"registrar2", hashPassword "pw2", "REG-2"⟩
    let v : Service := { credentials := ⟨[("registrar2", account)]⟩ }
    let epoch : Instant := ⟨0, 0⟩
    let domain (password : String) : DomainRecord := {
      name := "EXAMPLE.COM", history := ⟨"D-1", "REG-1", "REG-1", epoch, none, none, none⟩
      expires := epoch, statuses := [], registrant := none, admin := none, billing := none
      tech := none, nameservers := [], hosts := [], authPassword := password }
    let registry (password : String) : Registry :=
      { domains := ⟨[(Registry.nameKey "example.com", domain password)]⟩ }
    let login : Inbound := .message (.ofCommand (.logIn "registrar2" "pw2" "ABC-1" .standard))
    let guess : Inbound := .message (.ofCommand {
      info := some { domain := some ⟨"example.com", .all, some "secret-1"⟩ }
      transactionId := "ABC-2" })
    let asked : List Inbound := [login, guess, .message .askGreeting]
    let xs : List Arrival := asked.map (⟨0, 0⟩, ·)
    let ys : List Arrival := asked.map (⟨9, 0⟩, ·)
    ((registry "secret-1").domain? "example.com").map (·.authPassword) = some "secret-1" ∧
      ((registry "secret-2").domain? "example.com").map (·.authPassword) = some "secret-2" ∧
      ((v.serving (registry "secret-1")).after (.greeted 7) xs).registrarId? = some "REG-2" ∧
      ((v.serving (registry "secret-1")).answers (.greeted 7) xs).map Reply.seen =
        ((v.serving (registry "secret-2")).answers (.greeted 7) ys).map Reply.seen := by
  intro account v epoch domain registry login guess asked xs ys
  have hdomain (password : String) :
      (registry password).domain? "example.com" = some (domain password) := by
    simp [registry, Registry.domain?, Table.find?]
  have hagrees : (registry "secret-1").AgreesFor (some "REG-2") (registry "secret-2") := by
    refine ⟨fun name => ?_, fun _ => rfl, fun _ => .none⟩
    by_cases hname : Registry.nameKey "example.com" = Registry.nameKey name
    · have hfound (password : String) :
          (registry password).domain? name = some (domain password) := by
        simp [registry, Registry.domain?, Table.find?, hname]
      rw [hfound, hfound]
      exact .some ⟨rfl, by simp [domain]⟩
    · have hmissing (password : String) : (registry password).domain? name = none := by
        simp [registry, Registry.domain?, Table.find?, hname]
      rw [hmissing, hmissing]
      exact .none
  -- the login binds an account that stays until the end
  have hbound : ((v.serving (registry "secret-1")).handle ⟨0, 0⟩ (.greeted 7) login).2.Bound
      account := by
    have hfound : v.credentials.authenticate "registrar2" "pw2" = some account := by
      simp [v, account, Credentials.authenticate, Table.find?, Account.accepts]
    have hdecides : (Session.greeted 7).Decides _
        ((v.serving (registry "secret-1")).handle ⟨0, 0⟩ (.greeted 7) login) :=
      handle_login rfl (Envelope.isOnlyLogin_logIn "registrar2" "pw2" "ABC-1" .standard)
    have hstate := hdecides.loggedIn.mpr (congrArg Option.isSome hfound)
    refine ⟨hdecides.bound.trans (congrArg (Option.or · none) hfound), ?_⟩
    rw [hstate]
    simp
  have hlast := (run_keeps (bound_step (v := v.serving (registry "secret-1")) (a := account)) hbound
    xs.tail).1
  have hregistrar : ((v.serving (registry "secret-1")).after (.greeted 7) xs).registrarId? =
      some "REG-2" := by
    have hxs : xs = (⟨0, 0⟩, login) :: xs.tail := rfl
    rw [hxs, after_cons, Session.registrarId?, hlast.1, Option.map_some]
  refine ⟨by rw [hdomain]; rfl, by rw [hdomain]; rfl, hregistrar, ?_⟩
  refine passwords_stay_with_sponsors v (outside_greeted 7) ?_ (hregistrar ▸ hagrees)
  simp [xs, ys]

end Service

end Provisioning
