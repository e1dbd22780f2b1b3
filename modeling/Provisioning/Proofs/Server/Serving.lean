import Provisioning.Server.Conversation
import Provisioning.Proofs.Server.Run
import Provisioning.Proofs.Server.Steps
import Provisioning.Proofs.Wire.Encoding
import Provisioning.Proofs.Wire.Frames

/-!
# A conversation is the exchange it was going to be

A client's bytes come in pieces, the reader cuts them and queues, the session answers, and time
passes, in any order. What is written does not depend on the order: it is the greeting and then the
replies to the complete frames of all the bytes, one after the other, up to the first reply that
closes the session (`Service.transcript`).

The proof tells the future. From a conversation and the pieces that have not come, `foretold` computes
what will have been written at the end and how the conversation will end, as if everything were cut
and answered at once. A step of either side moves a frame or a message on and leaves the prediction
as it was (`foretold_readerStep?`, `foretold_sessionStep?`), so the prediction at the end, which is
what has happened, is the one at the start, which is the transcript.
-/

namespace Provisioning

open Calendar (Instant)

/-! ## One after the other -/

/-- The replies to all that comes, up to the first one that closes the session, and the session
after them. The `n`-th message is written at `clock n`. -/
def Service.exchange (v : Service) (clock : Nat → Instant) (n : Nat) (s : Session) :
    List Inbound → List Envelope × Session
  | [] => ([], s)
  | inbound :: rest =>
    if s.isClosing then ([], s)
    else
      let (reply, s) := v.handle (clock n) s inbound
      let (replies, s) := v.exchange clock (n + 1) s rest
      (reply :: replies, s)

/-- How a reader ends that finds no more complete frames and no more bytes. -/
def readerEnding : Reading (List UInt8) → Ending
  | .error fault => .error (.protocol fault)
  | .ok [] => .ok ()
  | .ok (_ :: _) => .error .connectionClosed

/-- What is in the frames. -/
def inbounds (frames : List Wire.Frame) : List Inbound := frames.map fun f => .ofPayload f.payload

/-- All that is written to a client that sends these bytes, and how the conversation ends. -/
def Service.transcript (v : Service) (l : Limits) (clock : Nat → Instant) (connection : UInt64)
    (script : List UInt8) : List Envelope × Ending :=
  let f := Wire.frames l.maxFrameSize script
  let x := v.exchange clock 1 (.greeted connection) (inbounds f.1)
  (v.greeting (clock 0) :: x.1, if x.2.isClosing then .ok () else readerEnding f.2)

namespace Conversation

/-! ## In any order -/

/-- The conversations that are possible with a client that sends some pieces and then nothing more,
each with the pieces that have not come yet. -/
inductive Serves (v : Service) (l : Limits) (clock : Nat → Instant) (connection : UInt64)
    (pieces : List (List UInt8)) : List (List UInt8) → Conversation → Prop
  | start : Serves v l clock connection pieces pieces (start l connection)
  | reader {todo : List (List UInt8)} {c d : Conversation}
      (h : Serves v l clock connection pieces todo c) (hstep : c.readerStep? l = some d) :
      Serves v l clock connection pieces todo d
  | session {todo : List (List UInt8)} {c d : Conversation}
      (h : Serves v l clock connection pieces todo c)
      (hstep : c.sessionStep? v l (clock c.sent.length) = some d) :
      Serves v l clock connection pieces todo d
  | arrival {piece : List UInt8} {todo : List (List UInt8)} {c : Conversation}
      (h : Serves v l clock connection pieces (piece :: todo) c) :
      Serves v l clock connection pieces todo (c.receive piece)
  | goodbye {c : Conversation} (h : Serves v l clock connection pieces [] c) :
      Serves v l clock connection pieces [] { c with ended := true }
  | wait {todo : List (List UInt8)} {c : Conversation} {time : Nat}
      (h : Serves v l clock connection pieces todo c) (htime : c.clock ≤ time) :
      Serves v l clock connection pieces todo (c.passTo l time)

/-! ## What a step can do -/

/-- The steps of the reader, by what is at the front of the bytes. -/
inductive ReaderMove (l : Limits) (c : Conversation) : Conversation → Prop
  | fault {fault : Fault} :
      Wire.Frame.next? c.decoder.max c.decoder.pending = .error fault →
      ReaderMove l c { c with outcome := some (.error (.protocol fault)) }
  | frame {frame : Wire.Frame} {rest : List UInt8} :
      Wire.Frame.next? c.decoder.max c.decoder.pending = .ok (some (frame, rest)) →
      c.queue.length < l.room →
      ReaderMove l c { c with
        decoder := { c.decoder with pending := rest }
        queue := c.queue ++ [Inbound.ofPayload frame.payload] }
  | read {piece : List UInt8} {unread : List (List UInt8)} :
      Wire.Frame.next? c.decoder.max c.decoder.pending = .ok none →
      c.unread = piece :: unread →
      ReaderMove l c { c with decoder := c.decoder.extend piece, unread }
  | stop :
      Wire.Frame.next? c.decoder.max c.decoder.pending = .ok none →
      c.unread = [] → c.ended = true →
      ReaderMove l c { c with
        outcome := some (if c.decoder.buffered = 0 then .ok () else .error .connectionClosed) }

/-- The steps of the session, by the state it is in and what waits for it. -/
inductive SessionMove (v : Service) (l : Limits) (now : Instant) (c : Conversation) :
    Conversation → Prop
  | greet :
      c.session.state = .prepareGreeting →
      SessionMove v l now c ({ c with
        session := c.session.moveTo .waitingForClient
        waitingSince := c.clock }.write (v.greeting now))
  | close :
      c.session.state = .closeConnection →
      SessionMove v l now c { c with result := some (.ok ()) }
  | reply {inbound : Inbound} {queue : List Inbound} :
      c.session.state ≠ .prepareGreeting → c.session.state ≠ .closeConnection →
      c.queue = inbound :: queue →
      SessionMove v l now c ({ c with
        queue
        session := (v.handle now c.session inbound).2
        waitingSince := c.clock }.write (v.handle now c.session inbound).1)
  | late :
      c.queue = [] → c.isLate l = true →
      SessionMove v l now c { c with result := some (.error .clientTimeout) }
  | finish {ending : Ending} :
      c.session.state ≠ .prepareGreeting → c.session.state ≠ .closeConnection →
      c.queue = [] → c.outcome = some ending →
      SessionMove v l now c { c with result := some ending }

variable {v : Service} {l : Limits} {clock : Nat → Instant} {c d : Conversation}
  {todo : List (List UInt8)}

theorem readerStep?_move (h : c.readerStep? l = some d) :
    c.result = none ∧ c.outcome = none ∧ ReaderMove l c d := by
  unfold readerStep? Wire.Decoder.nextFrame at h
  split at h
  · exact absurd h (by simp)
  · rename_i hgoing
    simp only [Bool.or_eq_true, not_or, Bool.not_eq_true, Option.isSome_eq_false_iff,
      Option.isNone_iff_eq_none] at hgoing
    refine ⟨hgoing.1, hgoing.2, ?_⟩
    cases hnext : Wire.Frame.next? c.decoder.max c.decoder.pending with
    | error fault =>
        rw [hnext] at h
        obtain rfl := Option.some.inj h
        exact .fault hnext
    | ok found =>
        rw [hnext] at h
        cases found with
        | some p =>
            dsimp only at h
            split at h
            · rename_i hroom
              obtain rfl := Option.some.inj h
              exact .frame hnext hroom
            · exact absurd h (by simp)
        | none =>
            dsimp only at h
            split at h
            · rename_i hunread
              obtain rfl := Option.some.inj h
              exact .read hnext hunread
            · rename_i hunread
              split at h
              · rename_i hend
                obtain rfl := Option.some.inj h
                exact .stop hnext hunread hend
              · exact absurd h (by simp)

theorem readerStep?_of_frame {frame : Wire.Frame} {rest : List UInt8} (hresult : c.result = none)
    (houtcome : c.outcome = none)
    (hnext : Wire.Frame.next? c.decoder.max c.decoder.pending = .ok (some (frame, rest)))
    (hroom : c.queue.length < l.room) :
    c.readerStep? l = some { c with
      decoder := { c.decoder with pending := rest }
      queue := c.queue ++ [Inbound.ofPayload frame.payload] } := by
  simp [readerStep?, Wire.Decoder.nextFrame, hresult, houtcome, hnext, hroom]

theorem sessionStep?_move {now : Instant} (h : c.sessionStep? v l now = some d) :
    c.result = none ∧ SessionMove v l now c d := by
  unfold sessionStep? at h
  split at h
  · exact absurd h (by simp)
  · rename_i hgoing
    refine ⟨by simpa using hgoing, ?_⟩
    split at h
    · rename_i hstate
      obtain rfl := Option.some.inj h
      exact .greet hstate
    · rename_i hstate
      obtain rfl := Option.some.inj h
      exact .close hstate
    · rename_i hgreeted hopen
      split at h
      · rename_i hqueue
        obtain rfl := Option.some.inj h
        exact .reply hgreeted hopen hqueue
      · rename_i hqueue
        split at h
        · rename_i hlate
          obtain rfl := Option.some.inj h
          exact .late hqueue hlate
        · obtain ⟨ending, houtcome, hd⟩ := Option.map_eq_some_iff.mp h
          subst hd
          exact .finish hgreeted hopen hqueue houtcome

/-! ## The prediction -/

/-- What the session has still to answer, and how the reader will have ended. -/
def ahead (c : Conversation) (todo : List (List UInt8)) : List Inbound × Ending :=
  match c.outcome with
  | some ending => (c.queue, ending)
  | none =>
    let f := Wire.frames c.decoder.max (c.decoder.pending ++ (c.unread.flatten ++ todo.flatten))
    (c.queue ++ inbounds f.1, readerEnding f.2)

/-- The conversation once the greeting is written. -/
def greeted (v : Service) (clock : Nat → Instant) (c : Conversation) : Conversation :=
  if c.session.state = .prepareGreeting then
    { c with
      session := c.session.moveTo .waitingForClient
      sent := c.sent ++ [v.greeting (clock c.sent.length)] }
  else c

/-- What will have been written at the end, and how the conversation will have ended. -/
def foretold (v : Service) (clock : Nat → Instant) (c : Conversation) (todo : List (List UInt8)) :
    List Envelope × Ending :=
  match c.result with
  | some ending => (c.sent, ending)
  | none =>
    let g := c.greeted v clock
    let x := v.exchange clock g.sent.length g.session (c.ahead todo).1
    (g.sent ++ x.1, if x.2.isClosing then .ok () else (c.ahead todo).2)

theorem foretold_congr {todo' : List (List UInt8)} (hresult : d.result = c.result)
    (hsent : d.sent = c.sent) (hsession : d.session = c.session)
    (hahead : d.ahead todo' = c.ahead todo) :
    d.foretold v clock todo' = c.foretold v clock todo := by
  have hgs : (d.greeted v clock).sent = (c.greeted v clock).sent := by
    simp only [greeted, hsession, hsent]
    split <;> simp [hsent]
  have hgss : (d.greeted v clock).session = (c.greeted v clock).session := by
    simp only [greeted, hsession]
    split <;> simp [hsession]
  simp only [foretold, hresult, hsent, hgs, hgss, hahead]

/-- What is written is part of the prediction. -/
theorem sent_prefix_foretold (c : Conversation) (todo : List (List UInt8)) :
    c.sent <+: (c.foretold v clock todo).1 := by
  unfold foretold greeted
  split
  · exact List.prefix_rfl
  · split
    · dsimp only
      rw [List.append_assoc]
      exact List.prefix_append _ _
    · exact List.prefix_append _ _

/-! ## The reader leaves it as it is -/

/-- Bytes that are read or come are ahead in another place. -/
theorem ahead_eq_of_bytes {todo' : List (List UInt8)} (houtcome : d.outcome = c.outcome)
    (hqueue : d.queue = c.queue) (hmax : d.decoder.max = c.decoder.max)
    (hbytes : d.decoder.pending ++ (d.unread.flatten ++ todo'.flatten) =
      c.decoder.pending ++ (c.unread.flatten ++ todo.flatten)) :
    d.ahead todo' = c.ahead todo := by
  simp only [ahead, houtcome, hqueue, hmax, hbytes]

/-- A frame goes from the bytes to the end of the queue. -/
theorem ahead_of_frame {frame : Wire.Frame} {rest : List UInt8} (houtcome : c.outcome = none)
    (hnext : Wire.Frame.next? c.decoder.max c.decoder.pending = .ok (some (frame, rest))) :
    { c with
      decoder := { c.decoder with pending := rest }
      queue := c.queue ++ [Inbound.ofPayload frame.payload] }.ahead todo = c.ahead todo := by
  simp only [ahead, houtcome]
  rw [Wire.frames_of_some (Wire.next?_some_append hnext _)]
  simp [inbounds]

/-- A header that can never become a frame ends what is ahead. -/
theorem ahead_of_fault {fault : Fault} (houtcome : c.outcome = none)
    (hnext : Wire.Frame.next? c.decoder.max c.decoder.pending = .error fault) :
    { c with outcome := some (.error (.protocol fault)) }.ahead todo = c.ahead todo := by
  simp only [ahead, houtcome]
  rw [Wire.frames_of_error (Wire.next?_error_append hnext _)]
  simp [inbounds, readerEnding]

/-- Bytes that hold no whole frame and that nothing follows are the end of the reader. -/
theorem ahead_of_end (houtcome : c.outcome = none) (hunread : c.unread = [])
    (hnext : Wire.Frame.next? c.decoder.max c.decoder.pending = .ok none) :
    { c with
      outcome := some (if c.decoder.buffered = 0 then .ok () else .error .connectionClosed)
      }.ahead [] = c.ahead [] := by
  simp only [ahead, houtcome, hunread, List.flatten_nil, List.append_nil]
  rw [Wire.frames_of_none hnext]
  cases hpending : c.decoder.pending with
  | nil => simp [inbounds, readerEnding, Wire.Decoder.buffered, hpending]
  | cons b bytes => simp [inbounds, readerEnding, Wire.Decoder.buffered, hpending]

/-- **A step of the reader leaves the prediction as it was.** -/
theorem foretold_readerStep? (hended : c.ended = true → todo = []) (h : c.readerStep? l = some d) :
    d.foretold v clock todo = c.foretold v clock todo := by
  obtain ⟨_, houtcome, hmove⟩ := readerStep?_move h
  cases hmove with
  | fault hnext => exact foretold_congr rfl rfl rfl (ahead_of_fault houtcome hnext)
  | frame hnext => exact foretold_congr rfl rfl rfl (ahead_of_frame houtcome hnext)
  | read _ hunread =>
      refine foretold_congr rfl rfl rfl (ahead_eq_of_bytes rfl rfl rfl ?_)
      simp [hunread, Wire.Decoder.extend]
  | stop hnext hunread hend =>
      rw [hended hend]
      exact foretold_congr rfl rfl rfl (ahead_of_end houtcome hunread hnext)

/-! ## The session leaves it as it is -/

theorem write_of_encode {e : Envelope} (hlistening : c.listening = true)
    (h : ∃ bytes, Wire.encode e = .ok bytes) : c.write e = { c with sent := c.sent ++ [e] } := by
  obtain ⟨bytes, hbytes⟩ := h
  simp only [write, hbytes, hlistening, if_true]

/-- What is predicted to be written, and can be encoded, is written. -/
theorem foretold_write {b : Conversation} {e : Envelope} (hlistening : b.listening = true)
    (hencode : ∀ e ∈ (c.foretold v clock todo).1, ∃ bytes, Wire.encode e = .ok bytes)
    (h : { b with sent := b.sent ++ [e] }.foretold v clock todo = c.foretold v clock todo) :
    (b.write e).foretold v clock todo = c.foretold v clock todo ∧
      (b.write e).listening = true := by
  have hmem : e ∈ (c.foretold v clock todo).1 := by
    rw [← h]
    exact (sent_prefix_foretold _ todo).subset (by simp)
  rw [write_of_encode hlistening (hencode e hmem)]
  exact ⟨h, hlistening⟩

theorem foretold_of_greeting {since : Nat} (hresult : c.result = none)
    (hstate : c.session.state = .prepareGreeting) :
    { c with
      session := c.session.moveTo .waitingForClient
      waitingSince := since
      sent := c.sent ++ [v.greeting (clock c.sent.length)] }.foretold v clock todo =
      c.foretold v clock todo := by
  simp only [foretold, hresult, greeted, hstate, if_true, Session.moveTo, reduceCtorEq, if_false]
  rfl

/-- A session that closes answers nothing more. -/
theorem foretold_of_closing (hresult : c.result = none)
    (hstate : c.session.state = .closeConnection) :
    { c with result := some (.ok ()) }.foretold v clock todo = c.foretold v clock todo := by
  have hclosing : c.session.isClosing = true := by simp [Session.isClosing, hstate]
  have hx : ∀ n inbounds, v.exchange clock n c.session inbounds = ([], c.session) := by
    intro n inbounds
    cases inbounds with
    | nil => rfl
    | cons inbound rest => rw [Service.exchange, if_pos hclosing]
  simp [foretold, hresult, greeted, hstate, hx, hclosing]

/-- The first message that waits is the next one that is answered. -/
theorem foretold_of_reply {inbound : Inbound} {queue : List Inbound} {since : Nat}
    (hresult : c.result = none) (hqueue : c.queue = inbound :: queue)
    (hgreeted : c.session.state ≠ .prepareGreeting) (hopen : c.session.state ≠ .closeConnection) :
    { c with
      queue
      session := (v.handle (clock c.sent.length) c.session inbound).2
      waitingSince := since
      sent := c.sent ++ [(v.handle (clock c.sent.length) c.session inbound).1]
      }.foretold v clock todo = c.foretold v clock todo := by
  have hahead : c.ahead todo = (inbound :: ({ c with queue }.ahead todo).1,
      ({ c with queue }.ahead todo).2) := by
    unfold ahead
    cases c.outcome <;> simp [hqueue]
  have hclosing : c.session.isClosing = false := by simp [Session.isClosing, hopen]
  have hnext : (v.handle (clock c.sent.length) c.session inbound).2.state ≠ .prepareGreeting :=
    Service.handle_greeted hgreeted
  simp only [foretold, hresult, greeted, if_neg hgreeted, if_neg hnext, hahead, Service.exchange,
    hclosing, List.length_append, List.length_singleton, List.append_assoc, List.singleton_append]
  rfl

/-- With nothing to wait for, the end is the reader's. -/
theorem foretold_of_outcome {ending : Ending} (hresult : c.result = none) (hqueue : c.queue = [])
    (houtcome : c.outcome = some ending) (hgreeted : c.session.state ≠ .prepareGreeting)
    (hopen : c.session.state ≠ .closeConnection) :
    { c with result := some ending }.foretold v clock todo = c.foretold v clock todo := by
  simp [foretold, hresult, greeted, if_neg hgreeted, ahead, houtcome, hqueue, Service.exchange,
    Session.isClosing, hopen]

/-- **A step of the session leaves the prediction as it was**, if what is written can be written
and the client has not taken too long. -/
theorem foretold_sessionStep? (hlistening : c.listening = true)
    (hencode : ∀ e ∈ (c.foretold v clock todo).1, ∃ bytes, Wire.encode e = .ok bytes)
    (h : c.sessionStep? v l (clock c.sent.length) = some d)
    (hpatient : d.result ≠ some (.error .clientTimeout)) :
    d.foretold v clock todo = c.foretold v clock todo ∧ d.listening = true := by
  obtain ⟨hresult, hmove⟩ := sessionStep?_move h
  cases hmove with
  | greet hstate =>
      refine foretold_write ?_ hencode ?_
      · exact hlistening
      · exact foretold_of_greeting hresult hstate
  | close hstate => exact ⟨foretold_of_closing hresult hstate, hlistening⟩
  | reply hgreeted hopen hqueue =>
      refine foretold_write ?_ hencode ?_
      · exact hlistening
      · exact foretold_of_reply hresult hqueue hgreeted hopen
  | late => exact absurd rfl hpatient
  | finish hgreeted hopen hqueue houtcome =>
      exact ⟨foretold_of_outcome hresult hqueue houtcome hgreeted hopen, hlistening⟩

/-! ## Every order -/

theorem ended_readerStep? (h : c.readerStep? l = some d) : d.ended = c.ended := by
  obtain ⟨_, _, hmove⟩ := readerStep?_move h
  cases hmove <;> rfl

theorem listening_readerStep? (h : c.readerStep? l = some d) : d.listening = c.listening := by
  obtain ⟨_, _, hmove⟩ := readerStep?_move h
  cases hmove <;> rfl

theorem ended_write (c : Conversation) (e : Envelope) : (c.write e).ended = c.ended := by
  unfold write
  split
  · rfl
  · split <;> rfl

theorem ended_sessionStep? {now : Instant} (h : c.sessionStep? v l now = some d) :
    d.ended = c.ended := by
  obtain ⟨_, hmove⟩ := sessionStep?_move h
  cases hmove with
  | greet | reply => rw [ended_write]
  | close | late | finish => rfl

theorem result_passTo (l : Limits) (c : Conversation) (time : Nat) :
    (c.passTo l time).result = some (.error .clientTimeout) ∨
      (c.passTo l time).result = c.result := by
  cases hdeadline : c.deadline? l with
  | none => exact .inr (by simp [passTo, hdeadline])
  | some deadline =>
      rcases Nat.lt_or_ge deadline time with hlate | hearly
      · exact .inl (by simp [passTo, hdeadline, hlate])
      · exact .inr (by simp [passTo, hdeadline, Nat.not_lt.mpr hearly])

/-- A client that has taken too long is not forgiven. -/
theorem patient_of_passTo {time : Nat}
    (h : (c.passTo l time).result ≠ some (.error .clientTimeout)) :
    (c.passTo l time).result = c.result := by
  rcases result_passTo l c time with hlate | hsame
  · exact absurd hlate h
  · exact hsame

/-- What every step keeps: the prediction is the transcript. -/
structure Foretells (v : Service) (l : Limits) (clock : Nat → Instant) (connection : UInt64)
    (script : List UInt8) (todo : List (List UInt8)) (c : Conversation) : Prop where
  foretold : c.foretold v clock todo = v.transcript l clock connection script
  listening : c.listening = true
  ended : c.ended = true → todo = []

variable {connection : UInt64} {pieces : List (List UInt8)}

theorem foretells_start :
    Foretells v l clock connection pieces.flatten pieces (start l connection) where
  foretold := by
    simp only [Conversation.foretold, start, greeted, ahead, Service.transcript, if_true,
      List.flatten_nil, List.nil_append]
    rfl
  listening := rfl
  ended := by simp [start]

/-- **In every order, the prediction is the transcript**, as long as the client has not taken too
long. -/
theorem foretells_of_serves
    (hencode : ∀ e ∈ (v.transcript l clock connection pieces.flatten).1,
      ∃ bytes, Wire.encode e = .ok bytes)
    (h : Serves v l clock connection pieces todo c)
    (hpatient : c.result ≠ some (.error .clientTimeout)) :
    Foretells v l clock connection pieces.flatten todo c := by
  induction h with
  | start => exact foretells_start
  | reader _ hstep ih =>
      have hf := ih (by simp [(readerStep?_move hstep).1])
      refine ⟨?_, ?_, ?_⟩
      · rw [foretold_readerStep? hf.ended hstep, hf.foretold]
      · rw [listening_readerStep? hstep, hf.listening]
      · rw [ended_readerStep? hstep]
        exact hf.ended
  | session _ hstep ih =>
      have hf := ih (by simp [(sessionStep?_move hstep).1])
      rw [← hf.foretold] at hencode
      obtain ⟨hsame, hlistening⟩ := foretold_sessionStep? hf.listening hencode hstep hpatient
      refine ⟨by rw [hsame, hf.foretold], hlistening, ?_⟩
      rw [ended_sessionStep? hstep]
      exact hf.ended
  | @arrival piece todo c _ ih =>
      have hf := ih hpatient
      refine ⟨?_, hf.listening, fun hend => ?_⟩
      · rw [← hf.foretold]
        refine foretold_congr rfl rfl rfl (ahead_eq_of_bytes rfl rfl rfl ?_)
        simp [receive]
      · exact absurd (hf.ended hend) (by simp)
  | goodbye _ ih =>
      have hf := ih hpatient
      refine ⟨?_, hf.listening, fun _ => rfl⟩
      rw [← hf.foretold]
      exact foretold_congr rfl rfl rfl (ahead_eq_of_bytes rfl rfl rfl rfl)
  | wait _ _ ih =>
      have hresult := patient_of_passTo hpatient
      have hf := ih (by rw [← hresult]; exact hpatient)
      refine ⟨?_, hf.listening, hf.ended⟩
      rw [← hf.foretold]
      exact foretold_congr hresult rfl rfl (ahead_eq_of_bytes rfl rfl rfl rfl)

/-! ## A run is one of the orders -/

theorem serves_settle {now : Instant} (h : Serves v l (fun _ => now) connection pieces todo c) :
    Serves v l (fun _ => now) connection pieces todo (c.settle v l now) := by
  fun_induction settle v l now c with
  | case1 c d hnext ih =>
      rcases Option.or_eq_some_iff.mp hnext with hsession | ⟨_, hreader⟩
      · exact ih (h.session hsession)
      · exact ih (h.reader hreader)
  | case2 => exact h

/-- What a client sends, of all that it does. -/
def sends (acts : List Act) : List (List UInt8) :=
  acts.filterMap fun
    | .send bytes => some bytes
    | .wait _ => none

theorem serves_acts {now : Instant} (acts : List Act)
    (h : Serves v l (fun _ => now) connection pieces (sends acts) c) :
    Serves v l (fun _ => now) connection pieces [] (acts.foldl (act v l now) c) := by
  induction acts generalizing c with
  | nil => exact h
  | cons a acts ih =>
      cases a with
      | wait ms => exact ih (h.wait (Nat.le_add_right _ _))
      | send bytes => exact ih (serves_settle h.arrival)

/-- **A run is one of the orders.** -/
theorem serves_run (v : Service) (l : Limits) (now : Instant) (connection : UInt64)
    (acts : List Act) :
    Serves v l (fun _ => now) connection (sends acts) [] (run v l now connection acts) :=
  serves_settle (serves_acts acts (serves_settle .start)).goodbye

/-! ## Answered in order -/

/-- Neither side waits for the other once the client has ended. -/
theorem step_of_ended (now : Instant) (hended : c.ended = true) (hresult : c.result = none) :
    (c.readerStep? l).isSome ∨ (c.sessionStep? v l now).isSome := by
  by_cases hsession : (c.sessionStep? v l now).isSome
  · exact .inr hsession
  · refine .inl ?_
    -- a session that cannot go on has nothing to answer, and the reader has not ended
    have hidle : c.queue = [] ∧ c.outcome = none := by
      simp only [sessionStep?, hresult, Option.isSome_none, Bool.false_eq_true, if_false] at hsession
      split at hsession
      · exact absurd rfl hsession
      · exact absurd rfl hsession
      · split at hsession
        · exact absurd rfl hsession
        · rename_i hqueue
          split at hsession
          · exact absurd rfl hsession
          · exact ⟨hqueue, by simpa using hsession⟩
    unfold readerStep?
    rw [hresult, hidle.1, hidle.2]
    have hroom : ([] : List Inbound).length < l.room := by
      rw [List.length_nil, Limits.room]
      omega
    grind

/--
**Whatever the order, a client is answered one message after the other.** What has been written is
the front of the transcript, and a conversation that has ended has written all of it and ended as it
says. Once the client has ended there is always a step until the conversation has ended too, and every
step leaves less to be done, so it does end. The client is taken not to be too slow in logging in,
and the messages of the transcript not to be too large for a frame.
-/
theorem answered_in_order (v : Service) (l : Limits) (clock : Nat → Instant) (connection : UInt64)
    (pieces todo : List (List UInt8)) (c : Conversation)
    (h : Serves v l clock connection pieces todo c)
    (hpatient : c.result ≠ some (.error .clientTimeout))
    (hencode : ∀ e ∈ (v.transcript l clock connection pieces.flatten).1,
      ∃ bytes, Wire.encode e = .ok bytes) :
    c.sent <+: (v.transcript l clock connection pieces.flatten).1 ∧
      (∀ ending, c.result = some ending →
        (c.sent, ending) = v.transcript l clock connection pieces.flatten) ∧
      (c.ended = true → c.result = none →
        ∀ now, (c.readerStep? l).isSome ∨ (c.sessionStep? v l now).isSome) ∧
      ∀ now d, c.readerStep? l = some d ∨ c.sessionStep? v l now = some d →
        d.weight < c.weight := by
  have hf := foretells_of_serves hencode h hpatient
  refine ⟨?_, ?_, ?_, ?_⟩
  · rw [← hf.foretold]
    exact sent_prefix_foretold c todo
  · intro ending hending
    rw [← hf.foretold, Conversation.foretold, hending]
  · exact fun hended hresult now => step_of_ended now hended hresult
  · rintro now d (hd | hd)
    · exact weight_readerStep? hd
    · exact weight_sessionStep? hd

theorem encode_plain_greeting :
    ∃ bytes, Wire.encode (({ menu := .none } : Service).greeting .epoch) = .ok bytes :=
  Wire.encode_of_totalLength (Wire.totalLength_le (by decide +kernel))

theorem encode_syntax_error :
    ∃ bytes, Wire.encode ((Session.greeted 7).received.respond .commandSyntaxError "").1 =
      .ok bytes :=
  Wire.encode_of_totalLength (Wire.totalLength_le (by decide +kernel))

/-- A frame comes in two pieces, its document is no text, and the client goes away inside the next
frame, which the reader finds before the session has answered the first. -/
theorem answered_in_order_cut :
    let v : Service := { menu := .none }
    let l : Limits := { maxFrameSize := 16 }
    let clock : Nat → Instant := fun _ => .epoch
    let pieces : List (List UInt8) := [[0, 0, 0, 5], [255, 0, 0]]
    ∃ c, Serves v l clock 7 pieces [] c ∧
      c.result = some (.error .connectionClosed) ∧
      (∀ e ∈ (v.transcript l clock 7 pieces.flatten).1, ∃ bytes, Wire.encode e = .ok bytes) ∧
      (c.sent, .error .connectionClosed) = v.transcript l clock 7 pieces.flatten := by
  intro v l clock pieces
  have hfault : Inbound.ofPayload [255] = .malformed (.encoding (.invalid 1 0)) := by
    simp [Inbound.ofPayload, Envelope.ofBytes, Text.Utf8.decode, Text.Utf8.decodeFrom,
      Text.Utf8.step, Text.Utf8.width?, Text.Utf8.secondBounds, Except.map]
  have hreply : v.handle (clock 1) (.greeted 7) (.ofPayload [255]) =
      (Session.greeted 7).received.respond .commandSyntaxError "" := by rw [hfault]; rfl
  have hframe : Wire.Frame.next? 16 [0, 0, 0, 5, 255, 0, 0] = .ok (some (⟨[255]⟩, [0, 0])) := by
    simp [Wire.Frame.next?, Wire.declared?, Wire.split?, Wire.headerSize]
  have htranscript : v.transcript l clock 7 pieces.flatten =
      ([v.greeting (clock 0), ((Session.greeted 7).received.respond .commandSyntaxError "").1],
        .error .connectionClosed) := by
    have hshort : Wire.Frame.next? 16 [0, 0] = .ok none := rfl
    have hframes : Wire.frames 16 [0, 0, 0, 5, 255, 0, 0] = ([⟨[255]⟩], .ok [0, 0]) := by
      rw [Wire.frames_of_some hframe, Wire.frames_of_none hshort]
    have hopen : (Session.greeted 7).isClosing = false := rfl
    change v.transcript l clock 7 [0, 0, 0, 5, 255, 0, 0] = _
    have hlimit : l.maxFrameSize = 16 := rfl
    simp only [Service.transcript, hlimit, hframes, inbounds, List.map_cons, List.map_nil,
      Service.exchange, hopen, hreply, Bool.false_eq_true, if_false, readerEnding]
    rfl
  have hencode : ∀ e ∈ (v.transcript l clock 7 pieces.flatten).1,
      ∃ bytes, Wire.encode e = .ok bytes := by
    rw [htranscript]
    intro e he
    rcases List.mem_cons.mp he with rfl | he
    · exact encode_plain_greeting
    · rw [List.mem_singleton.mp he]
      exact encode_syntax_error
  have hgreet : (start l 7).sessionStep? v l (clock 0) = some { start l 7 with
      session := .greeted 7, sent := [v.greeting (clock 0)] } := by
    change some (Conversation.write _ _) = _
    rw [write_of_encode rfl encode_plain_greeting]
    rfl
  -- the frame is queued and the reader has ended
  let held : Conversation := { start l 7 with
    ended := true
    decoder := ⟨[0, 0], 16⟩
    outcome := some (.error .connectionClosed)
    queue := [.ofPayload [255]]
    session := .greeted 7
    sent := [v.greeting (clock 0)] }
  have hheld : Serves v l clock 7 pieces [] held := by
    have hstart : Serves v l clock 7 pieces pieces (start l 7) := .start
    have hgreeted := hstart.session hgreet
    have hfirst := hgreeted.arrival.reader rfl
    have hsecond := hfirst.arrival.reader rfl
    have hqueued := hsecond.reader (readerStep?_of_frame rfl rfl hframe (by decide))
    exact hqueued.goodbye.reader rfl
  have hanswer : held.sessionStep? v l (clock 1) = some { held with
      queue := []
      session := ((Session.greeted 7).received.respond .commandSyntaxError "").2
      sent := [v.greeting (clock 0),
        ((Session.greeted 7).received.respond .commandSyntaxError "").1] } := by
    have hstep : held.sessionStep? v l (clock 1) = some (Conversation.write { held with
        queue := []
        session := (v.handle (clock 1) (.greeted 7) (.ofPayload [255])).2 }
        (v.handle (clock 1) (.greeted 7) (.ofPayload [255])).1) := rfl
    rw [hstep, hreply, write_of_encode rfl encode_syntax_error]
    rfl
  have hend := (hheld.session hanswer).session rfl
  exact ⟨_, hend, rfl, hencode,
    (answered_in_order v l clock 7 pieces [] _ hend (by simp) hencode).2.1 _ rfl⟩

end Conversation

end Provisioning
