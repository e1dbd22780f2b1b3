import Provisioning.Proofs.Server.Admission
import Provisioning.Proofs.Server.Authentication
import Provisioning.Proofs.Server.Automaton
import Provisioning.Proofs.Server.Sessions

/-!
# How often a login may fail

A session keeps count of the logins that failed, and the count is compared with the limit before it
grows. So a limit of two lets two logins fail and ends the session with the third, and the count
never passes the limit: that third failure is told apart from the others by its code and is not
counted in the session, only in the service. What is no login at all does not wait for the limit,
and a faulty document neither counts nor clears the count.
-/

namespace Provisioning

open Calendar (Instant)

namespace Service

/-- What has come is a login and nothing else, and no account takes its password. -/
def refuses (v : Service) : Inbound → Bool
  | .malformed _ => false
  | .message e =>
    (login? e).any fun x => (v.credentials.authenticate x.clientId x.password).isNone

variable {v : Service} {now : Instant} {s : Session}

@[simp] theorem refuses_malformed (fault : Fault) : v.refuses (.malformed fault) = false := rfl

theorem refuses_iff {inbound : Inbound} :
    v.refuses inbound = true ↔ ∃ e x, inbound = .message e ∧ e.IsOnlyLogin x ∧
      v.credentials.authenticate x.clientId x.password = none := by
  cases inbound with
  | malformed fault => simp [refuses]
  | message e => simp [refuses, Option.any_eq_true, login?_eq_some]

/-! ## Counting -/

/-- No command is answered as a failed login is. -/
theorem plain_counts : ∀ code ∈ plainCodes, code.code ≠ 2200 ∧ code.code ≠ 2501 := by decide

/-- A failed login is counted in its session if the session goes on. -/
theorem failedLogins_step (v : Service) (now : Instant) (s : Session) (inbound : Inbound) :
    (v.handle now s inbound).2.failedLogins =
      s.failedLogins + if (v.handle now s inbound).1.code? = some 2200 then 1 else 0 := by
  have hstep := handle_step v now s inbound
  generalize v.handle now s inbound = reply at hstep
  cases hstep with
  | refused => rfl
  | answered _ hcode =>
      rw [if_neg (by simpa using (plain_counts _ hcode).1)]
      rfl
  | malformed | idle | noLogin | accepted | shutOut | greeting | logout | told => rfl

/-- A failed login is counted in the service in any case. -/
theorem refusals_step (v : Service) (now : Instant) (s : Session) (inbound : Inbound) :
    (v.handle now s inbound).2.refusals =
      s.refusals + if (v.handle now s inbound).1.code? = some 2200 ∨
        (v.handle now s inbound).1.code? = some 2501 then 1 else 0 := by
  have hstep := handle_step v now s inbound
  generalize v.handle now s inbound = reply at hstep
  cases hstep with
  | refused | shutOut => rfl
  | answered _ hcode =>
      rw [if_neg (by simpa using plain_counts _ hcode)]
      exact (UInt64.add_zero _).symm
  | malformed | idle | noLogin | accepted | greeting | logout | told =>
      exact (UInt64.add_zero _).symm

/-- The count does not pass the limit, since it is compared before it grows. -/
theorem failedLogins_le_step (now : Instant) (s : Session) (inbound : Inbound)
    (h : s.failedLogins ≤ v.maxFailedLogins) :
    (v.handle now s inbound).2.failedLogins ≤ v.maxFailedLogins := by
  have hstep := handle_step v now s inbound
  generalize v.handle now s inbound = reply at hstep
  cases hstep with
  | refused _ _ _ hless => exact hless
  | malformed | idle | noLogin | accepted | shutOut | greeting | logout | answered | told => exact h

theorem failedLogins_after (v : Service) (s : Session) (arrivals : List Arrival) :
    (v.after s arrivals).failedLogins =
      s.failedLogins + (v.answers s arrivals).countP fun r => r.1.code? = some 2200 := by
  induction arrivals generalizing s with
  | nil => rfl
  | cons a arrivals ih =>
      rw [after_cons, ih, failedLogins_step, answers, List.countP_cons]
      simp only [decide_eq_true_eq]
      omega

theorem refusals_turn {ι : Type} [DecidableEq ι] (v : Service) (ss : Sessions ι)
    (d : Delivery ι) : (v.turn ss d).refusals =
      ss.refusals + if (v.replyIn ss d).1.code? = some 2200 ∨
        (v.replyIn ss d).1.code? = some 2501 then 1 else 0 := by
  -- what the session has added is what the service adds, whatever the other sessions did
  have hstep := refusals_step v d.2.1 (ss.each d.1) d.2.2
  rw [turn, replyIn, hstep, UInt64.add_comm (ss.each d.1).refusals, UInt64.add_sub_cancel]

theorem refusals_afterAll {ι : Type} [DecidableEq ι] (v : Service) (ss : Sessions ι)
    (deliveries : List (Delivery ι)) :
    (v.afterAll ss deliveries).refusals =
      ss.refusals + UInt64.ofNat ((v.answersAll ss deliveries).countP fun r =>
        r.1.code? = some 2200 ∨ r.1.code? = some 2501) := by
  induction deliveries generalizing ss with
  | nil => exact (UInt64.add_zero _).symm
  | cons d deliveries ih =>
      rw [afterAll_cons, ih, refusals_turn, answersAll, List.countP_cons, UInt64.ofNat_add,
        UInt64.add_assoc, UInt64.add_comm (UInt64.ofNat _)]
      simp only [decide_eq_true_eq, apply_ite UInt64.ofNat]
      rfl

/-- The service counts in 64 bits. -/
theorem toNat_refusals_afterAll {ι : Type} [DecidableEq ι] (v : Service) (ss : Sessions ι)
    (deliveries : List (Delivery ι)) :
    (v.afterAll ss deliveries).refusals.toNat =
      (ss.refusals.toNat + (v.answersAll ss deliveries).countP fun r =>
        r.1.code? = some 2200 ∨ r.1.code? = some 2501) % 2 ^ 64 := by
  rw [refusals_afterAll, UInt64.toNat_add, UInt64.toNat_ofNat', Nat.add_mod_mod]

/-! ## Waiting for a login -/

/-- A login that is refused counts, or it is the one too many. -/
theorem refused_step {inbound : Inbound} (now : Instant) (hs : s.state = .waitingForClient)
    (h : v.refuses inbound = true) :
    (s.failedLogins < v.maxFailedLogins ∧
      (v.handle now s inbound).1.code? = some 2200 ∧
      (v.handle now s inbound).2.state = .waitingForClient ∧
      (v.handle now s inbound).2.failedLogins = s.failedLogins + 1) ∨
    (v.maxFailedLogins ≤ s.failedLogins ∧
      (v.handle now s inbound).1.code? = some 2501 ∧
      (v.handle now s inbound).2.state = .closeConnection) := by
  obtain ⟨e, x, rfl, hlogin, hnobody⟩ := refuses_iff.mp h
  have hstep := handle_step v now s (.message e)
  generalize v.handle now s (.message e) = reply at hstep
  cases hstep with
  | refused _ _ _ hless => exact .inl ⟨hless, rfl, hs, rfl⟩
  | shutOut _ _ _ hmax => exact .inr ⟨hmax, rfl, rfl⟩
  | noLogin _ hno => exact absurd hlogin (hno x)
  | accepted _ hother hfound =>
      rw [hother.unique hlogin, hnobody] at hfound
      exact absurd hfound (by simp)
  -- the session waits for a login
  | idle hclient => exact absurd hs hclient
  | greeting hcommand | logout hcommand | answered hcommand | told hcommand =>
      rw [hs] at hcommand
      exact absurd hcommand (by simp)

/-- A session waits after a step only if it did before, and what came was a faulty document or a
login that was refused, which alone is counted. -/
theorem waited_of_waits {inbound : Inbound}
    (h : (v.handle now s inbound).2.state = .waitingForClient) :
    s.state = .waitingForClient ∧
      ((∃ fault, inbound = .malformed fault) ∨ v.refuses inbound = true) ∧
      (v.handle now s inbound).2.failedLogins =
        s.failedLogins + if v.refuses inbound = true then 1 else 0 := by
  have hstep := handle_step v now s inbound
  generalize v.handle now s inbound = reply at hstep h
  cases hstep with
  | malformed => exact ⟨h, .inl ⟨_, rfl⟩, rfl⟩
  | @refused e x hs hlogin hnobody hless =>
      have hrefused := refuses_iff.mpr ⟨e, x, rfl, hlogin, hnobody⟩
      exact ⟨hs, .inr hrefused, by rw [if_pos hrefused]; rfl⟩
  | idle hclient => exact absurd h hclient
  | noLogin | accepted | shutOut | logout => exact absurd h (by simp)
  | greeting hs | answered hs | told hs =>
      simp only [Session.state_respond, Session.state_respondWith, Session.state_received] at h
      rw [hs] at h
      exact absurd h (by simp)

/-- All that has come is faulty documents and logins that are refused. -/
def OnlyRefused (v : Service) (arrivals : List Arrival) : Prop :=
  ∀ a ∈ arrivals, (∃ fault, a.2 = .malformed fault) ∨ v.refuses a.2 = true

/-- How many logins are refused among what has come. -/
def refusedIn (v : Service) (arrivals : List Arrival) : Nat :=
  arrivals.countP fun a => v.refuses a.2

theorem refusedIn_cons (a : Arrival) (arrivals : List Arrival) :
    v.refusedIn (a :: arrivals) =
      v.refusedIn arrivals + if v.refuses a.2 = true then 1 else 0 := List.countP_cons

/-- **As long as only logins fail, and not too many, a session waits** and has counted them all. -/
theorem waits_of_refused {arrivals : List Arrival} (hs : s.state = .waitingForClient)
    (honly : v.OnlyRefused arrivals)
    (hcount : s.failedLogins + v.refusedIn arrivals ≤ v.maxFailedLogins) :
    (v.after s arrivals).state = .waitingForClient ∧
      (v.after s arrivals).failedLogins = s.failedLogins + v.refusedIn arrivals := by
  induction arrivals generalizing s with
  | nil => exact ⟨hs, rfl⟩
  | cons a arrivals ih =>
      have hrest : v.OnlyRefused arrivals := fun b hb => honly b (List.mem_cons_of_mem _ hb)
      rw [refusedIn_cons] at hcount ⊢
      rw [after_cons]
      rcases honly a List.mem_cons_self with ⟨fault, hfault⟩ | hrefused
      · -- a faulty document is not counted, and the session is what it was
        rw [hfault, refuses_malformed] at hcount ⊢
        exact ih (s := (v.handle a.1 s (.malformed fault)).2) hs hrest hcount
      · rw [if_pos hrefused] at hcount ⊢
        rcases refused_step a.1 hs hrefused with ⟨-, -, hstate, hfailed⟩ | ⟨hmax, -⟩
        · obtain ⟨hwaits, hall⟩ := ih hstate hrest (by omega)
          exact ⟨hwaits, by omega⟩
        · -- a session that is full has no refusal left to count
          omega

/-- **A session that still waits has seen nothing else**, and not too many of them. -/
theorem refused_of_waits {arrivals : List Arrival} (hmax : s.failedLogins ≤ v.maxFailedLogins)
    (h : (v.after s arrivals).state = .waitingForClient) :
    s.state = .waitingForClient ∧ v.OnlyRefused arrivals ∧
      s.failedLogins + v.refusedIn arrivals ≤ v.maxFailedLogins := by
  induction arrivals generalizing s with
  | nil => exact ⟨h, by simp [OnlyRefused], hmax⟩
  | cons a arrivals ih =>
      rw [after_cons] at h
      -- it waits at the end, so it waits after the first step, so it did before
      obtain ⟨hstate, honly, hcount⟩ := ih (failedLogins_le_step a.1 s a.2 hmax) h
      obtain ⟨hs, hhead, hcounted⟩ := waited_of_waits hstate
      refine ⟨hs, fun b hb => ?_, ?_⟩
      · rcases List.mem_cons.mp hb with rfl | hb
        · exact hhead
        · exact honly b hb
      · rw [hcounted] at hcount
        rw [refusedIn_cons]
        omega

/-- A right login is accepted by a session that waits for it. -/
theorem admitted_step {inbound : Inbound} {a : Account} (h : v.Admits s inbound a) :
    (v.handle now s inbound).1.code? = some 1000 ∧
      (v.handle now s inbound).2.state = .waitingForCommand ∧
      (v.handle now s inbound).2.account = some a := by
  obtain ⟨hs, e, x, rfl, hlogin, hfound⟩ := h
  have hdecides : s.Decides _ (v.handle now s (.message e)) := handle_login hs hlogin
  obtain ⟨⟨r, hreply, hcode⟩, hstate, haccount⟩ := hfound ▸ hdecides
  refine ⟨?_, hstate.mpr rfl, haccount⟩
  rw [hreply, ← hcode.mpr rfl]
  rfl

/-- What a session that waits for a login makes of the next one. -/
structure Decided (v : Service) (now : Instant) (s : Session) (inbound : Inbound) : Prop where
  /-- Below the limit it may fail. -/
  refused : v.refuses inbound = true → s.failedLogins < v.maxFailedLogins →
    (v.handle now s inbound).1.code? = some 2200 ∧
      (v.handle now s inbound).2.state = .waitingForClient
  /-- At the limit it may not. -/
  shutOut : v.refuses inbound = true → s.failedLogins = v.maxFailedLogins →
    (v.handle now s inbound).1.code? = some 2501 ∧
      (v.handle now s inbound).2.state = .closeConnection
  /-- A right one is accepted at any count. -/
  admitted : ∀ a, v.Admits s inbound a →
    (v.handle now s inbound).1.code? = some 1000 ∧
      (v.handle now s inbound).2.state = .waitingForCommand ∧
      (v.handle now s inbound).2.account = some a

theorem decided_of_waits (hs : s.state = .waitingForClient) (now : Instant) (inbound : Inbound) :
    v.Decided now s inbound where
  refused h hless := by
    rcases refused_step now hs h with ⟨-, hcode, hstate, -⟩ | ⟨hmax, -⟩
    · exact ⟨hcode, hstate⟩
    · exact absurd hmax (Nat.not_le.mpr hless)
  shutOut h hfull := by
    rcases refused_step now hs h with ⟨hless, -⟩ | ⟨-, hcode, hstate⟩
    · exact absurd hfull (Nat.ne_of_lt hless)
    · exact ⟨hcode, hstate⟩
  admitted _ h := admitted_step h

/--
**Logins may fail up to the limit.** For every limit of 32 bits and whatever has come to a session
since its greeting: the session has counted the replies that say a login failed, never more of them
than the limit. It waits for a login exactly if nothing but faulty documents and failing logins has
come, and of those not more than the limit; then these are what it has counted, and the next login
is decided by that count. A faulty document neither counts nor clears the count.

And whatever comes to any number of sessions in any order, the service counts, in 64 bits, the replies
to all of them that say a login failed, those that close a session included.
-/
theorem logins_fail_up_to_limit (v : Service) (limit : UInt32) (ι : Type) [DecidableEq ι] :
    let w : Service := { v with maxFailedLogins := limit.toNat }
    (∀ connection arrivals,
      let s := w.after (.greeted connection) arrivals
      s.failedLogins = ((w.answers (.greeted connection) arrivals).countP fun r =>
        r.1.code? = some 2200) ∧
      s.failedLogins ≤ limit.toNat ∧ s.failedLogins < 2 ^ 32 ∧
      (s.state = .waitingForClient ↔
        w.OnlyRefused arrivals ∧ w.refusedIn arrivals ≤ limit.toNat) ∧
      (s.state = .waitingForClient → s.failedLogins = w.refusedIn arrivals ∧
        ∀ now inbound, w.Decided now s inbound)) ∧
    (∀ now s fault, (w.handle now s (.malformed fault)).2.failedLogins = s.failedLogins ∧
      (w.handle now s (.malformed fault)).2.state = s.state) ∧
    ∀ (ss : Sessions ι) (deliveries : List (Delivery ι)),
      (w.afterAll ss deliveries).refusals.toNat =
        (ss.refusals.toNat + (w.answersAll ss deliveries).countP fun r =>
          r.1.code? = some 2200 ∨ r.1.code? = some 2501) % 2 ^ 64 := by
  intro w
  refine ⟨fun connection arrivals => ?_, fun _ _ _ => ⟨rfl, rfl⟩, toNat_refusals_afterAll w⟩
  intro s
  have hlimit : s.failedLogins ≤ limit.toNat :=
    (run_keeps (P := fun s => s.failedLogins ≤ w.maxFailedLogins)
      (fun now s inbound => failedLogins_le_step now s inbound) (Nat.zero_le _) arrivals).1
  -- a session that was greeted has counted nothing yet
  have hzero : (Session.greeted connection).failedLogins = 0 := rfl
  have hcounted := failedLogins_after w (.greeted connection) arrivals
  rw [hzero, Nat.zero_add] at hcounted
  have hwaits : w.OnlyRefused arrivals → w.refusedIn arrivals ≤ limit.toNat →
      s.state = .waitingForClient ∧ s.failedLogins = w.refusedIn arrivals := by
    intro honly hcount
    obtain ⟨hstate, hall⟩ := waits_of_refused (s := .greeted connection) rfl honly
      (by rwa [hzero, Nat.zero_add])
    exact ⟨hstate, by rwa [hzero, Nat.zero_add] at hall⟩
  have hrefused : s.state = .waitingForClient →
      w.OnlyRefused arrivals ∧ w.refusedIn arrivals ≤ limit.toNat := by
    intro hs
    obtain ⟨-, honly, hcount⟩ := refused_of_waits (s := .greeted connection) (Nat.zero_le _) hs
    exact ⟨honly, by rwa [hzero, Nat.zero_add] at hcount⟩
  refine ⟨hcounted, hlimit, Nat.lt_of_le_of_lt hlimit limit.toNat_lt,
    ⟨hrefused, fun h => (hwaits h.1 h.2).1⟩, fun hs => ⟨?_, decided_of_waits hs⟩⟩
  obtain ⟨honly, hcount⟩ := hrefused hs
  exact (hwaits honly hcount).2

/-- With a limit of one: a login of nobody between two faulty documents leaves the session waiting,
and then another one closes it, while the right one is accepted. -/
theorem logins_fail_up_to_limit_one :
    let account : Account := ⟨"registrar1", hashPassword "pw1", "REG-1"⟩
    let v : Service := { credentials := ⟨[("registrar1", account)]⟩, maxFailedLogins := 1 }
    let login (name : String) : Inbound :=
      .message (.ofCommand (.logIn name "pw1" "ABC-1" .standard))
    let arrivals : List Arrival :=
      [(⟨0, 0⟩, .malformed .markup), (⟨0, 0⟩, login "registrar0"), (⟨1, 0⟩, .malformed .markup)]
    let s := v.after (.greeted 7) arrivals
    s.state = .waitingForClient ∧ s.failedLogins = 1 ∧
      (v.handle ⟨2, 0⟩ s (login "registrar0")).1.code? = some 2501 ∧
      (v.handle ⟨2, 0⟩ s (login "registrar1")).1.code? = some 1000 ∧
      (v.handle ⟨2, 0⟩ s (login "registrar1")).2.account = some account := by
  intro account v login arrivals s
  have honly (name : String) := Envelope.isOnlyLogin_logIn name "pw1" "ABC-1" .standard
  have hnobody : v.refuses (login "registrar0") = true := by
    refine refuses_iff.mpr ⟨_, _, rfl, honly "registrar0", ?_⟩
    simp [v, Credentials.authenticate, Table.find?, Login.ofMenu]
  have hcount : v.refusedIn arrivals = 1 := by
    simp [refusedIn, arrivals, hnobody]
  obtain ⟨-, -, -, hwaits, hnext⟩ := (logins_fail_up_to_limit v 1 Unit).1 7 arrivals
  have hs : s.state = .waitingForClient := by
    refine hwaits.mpr ⟨?_, Nat.le_of_eq hcount⟩
    simpa [OnlyRefused, arrivals] using hnobody
  obtain ⟨hcounted, hdecided⟩ := hnext hs
  have hadmits : v.Admits s (login "registrar1") account := by
    refine ⟨hs, _, _, rfl, honly "registrar1", ?_⟩
    simp [v, account, Credentials.authenticate, Table.find?, Account.accepts, Login.ofMenu]
  have hfull : s.failedLogins = 1 := hcounted.trans hcount
  obtain ⟨hcode, -, haccount⟩ := (hdecided ⟨2, 0⟩ (login "registrar1")).admitted account hadmits
  exact ⟨hs, hfull, ((hdecided ⟨2, 0⟩ (login "registrar0")).shutOut hnobody hfull).1, hcode,
    haccount⟩

end Service

end Provisioning
