import Provisioning.Proofs.Server.Steps
import Provisioning.Proofs.Text.Numeral

/-!
# No transaction is numbered twice

The server's identifier of a transaction is made of two numbers: that of the connection, which a
process hands out when a client connects, and that of the transaction, which the session counts. A
session counts its responses and nothing else, and no two sessions of a process have one connection,
so all identifiers that leave a process differ, as long as neither number has been through all words
of 64 bits. That they differ as texts is a matter of the hyphen between the numbers: without it the
first transaction of connection 11 would be called what the eleventh of connection 1 is called.
-/

namespace Provisioning

open Calendar (Instant)

/-- The sessions of a process, in the order in which their clients have connected. -/
structure Process where
  /-- The number of the next connection. -/
  nextConnection : UInt64 := 1
  sessions : List Session := []
  /-- All replies, the first one first, each with the place of its session. -/
  replies : List (Nat × Envelope) := []

/-- What happens in a process. -/
inductive Happening where
  /-- A client connects, and its session begins. -/
  | connects
  /-- A session is put in a phase, as when its greeting has been sent. -/
  | moves (i : Nat) (state : SessionState)
  /-- Something has come to a session, and a service answers it. -/
  | comes (v : Service) (i : Nat) (now : Instant) (inbound : Inbound)

namespace Process

/-- The process after something has happened. What is about no session of the process does
nothing. -/
def step (p : Process) : Happening → Process
  | .connects =>
    { p with
      nextConnection := p.nextConnection + 1
      sessions := p.sessions ++ [{ connection := p.nextConnection }] }
  | .moves i state =>
    match p.sessions[i]? with
    | none => p
    | some s => { p with sessions := p.sessions.set i (s.moveTo state) }
  | .comes v i now inbound =>
    match p.sessions[i]? with
    | none => p
    | some s =>
      let (reply, s) := v.handle now s inbound
      { p with sessions := p.sessions.set i s, replies := p.replies ++ [(i, reply)] }

/-- The process after all that has happened since it began. -/
def run (happenings : List Happening) : Process := happenings.foldl step {}

/-- The server's identifiers of all responses, the first one first, each with the place of its
session. Other replies have none. -/
def transactions (p : Process) : List (Nat × String) :=
  p.replies.filterMap fun (i, reply) => reply.response.map fun r => (i, r.serverTransactionId)

/-- The server's identifiers of the responses of one session, the first one first. -/
def transactionsOf (p : Process) (i : Nat) : List String :=
  (p.transactions.filter fun t => t.1 == i).map Prod.snd

end Process

/-- The identifier of a transaction of a connection. -/
def transactionText (connection number : Nat) : String :=
  "SRV-" ++ toString connection ++ "-" ++ toString number

theorem transactionText_inj {a b c d : Nat} (h : transactionText a b = transactionText c d) :
    a = c ∧ b = d := by
  refine Text.hyphenated_inj ((String.append_right_inj "SRV-").mp ?_)
  simpa only [transactionText, String.append_assoc] using h

/-! ## One reply -/

/-- What a reply does to the numbers of a session: a response takes the next number, and a greeting
takes none. -/
inductive Service.Numbers (v : Service) (now : Instant) (s : Session) (reply : Reply) : Prop where
  | response (r : Response) : reply.1.response = some r →
      r.serverTransactionId = transactionText s.connection.toNat s.sequence.toNat →
      reply.2.sequence = s.sequence + 1 → Numbers v now s reply
  | greeting : reply.1 = v.greeting now → reply.2.sequence = s.sequence → Numbers v now s reply

/-- **Every response takes one number, whatever it says.** -/
theorem Service.handle_numbers (v : Service) (now : Instant) (s : Session) (inbound : Inbound) :
    v.Numbers now s (v.handle now s inbound) := by
  have hstep := handle_step v now s inbound
  generalize v.handle now s inbound = reply at hstep
  cases hstep with
  | greeting => exact .greeting rfl rfl
  | malformed | idle | noLogin | accepted | refused | shutOut | logout | answered | told =>
      exact .response _ rfl rfl rfl

theorem Service.connection_handle (v : Service) (now : Instant) (s : Session) (inbound : Inbound) :
    (v.handle now s inbound).2.connection = s.connection := by
  have hstep := handle_step v now s inbound
  generalize v.handle now s inbound = reply at hstep
  cases hstep with
  | malformed | idle | noLogin | accepted | refused | shutOut | greeting | logout | answered
    | told => rfl

namespace Process

/-! ## One step -/

/-- How the sessions of a process and their transactions are numbered. -/
structure Numbered (p : Process) : Prop where
  next : p.nextConnection = UInt64.ofNat (p.sessions.length + 1)
  /-- Connections are numbered in turn. -/
  connection : ∀ i s, p.sessions[i]? = some s → s.connection = UInt64.ofNat (i + 1)
  /-- A session counts its responses. -/
  sequence : ∀ i s, p.sessions[i]? = some s →
    s.sequence = UInt64.ofNat ((p.transactionsOf i).length + 1)
  /-- The responses carry the numbers that it has counted. -/
  texts : ∀ i s, p.sessions[i]? = some s → ∀ k text, (p.transactionsOf i)[k]? = some text →
    text = transactionText s.connection.toNat (UInt64.ofNat (k + 1)).toNat
  /-- Only sessions have responses. -/
  bounded : ∀ t ∈ p.transactions, t.1 < p.sessions.length

variable {p q : Process} {i j : Nat} {s t : Session}

theorem numbered_init : Numbered {} where
  next := rfl
  connection := by intro i s hs; simp at hs
  sequence := by intro i s hs; simp at hs
  texts := by intro i s hs; simp at hs
  bounded := by intro t ht; simp [transactions] at ht

theorem transactionsOf_congr (h : q.transactions = p.transactions) (j : Nat) :
    q.transactionsOf j = p.transactionsOf j := by
  rw [transactionsOf, transactionsOf, h]

theorem transactionsOf_self {text : String} (h : q.transactions = p.transactions ++ [(i, text)]) :
    q.transactionsOf i = p.transactionsOf i ++ [text] := by
  rw [transactionsOf, transactionsOf, h]
  simp

theorem transactionsOf_ne {text : String} (h : q.transactions = p.transactions ++ [(i, text)])
    (hj : j ≠ i) : q.transactionsOf j = p.transactionsOf j := by
  rw [transactionsOf, transactionsOf, h]
  simp [hj.symm]

/-- What has not connected yet has no responses. -/
theorem Numbered.transactionsOf_of_le (h : p.Numbered) (hi : p.sessions.length ≤ i) :
    p.transactionsOf i = [] := by
  rw [transactionsOf, List.map_eq_nil_iff, List.filter_eq_nil_iff]
  intro t ht
  have hlt := h.bounded t ht
  simp only [beq_iff_eq]
  omega

/-- After one session has changed, every other one is what it was. -/
theorem sessions_set_cases {s' : Session} (hsessions : q.sessions = p.sessions.set i s')
    (ht : q.sessions[j]? = some t) : (j = i ∧ t = s') ∨ (j ≠ i ∧ p.sessions[j]? = some t) := by
  rw [hsessions, List.getElem?_set] at ht
  by_cases hj : i = j
  · rw [if_pos hj] at ht
    split at ht
    · exact .inl ⟨hj.symm, (Option.some.inj ht).symm⟩
    · exact absurd ht (by simp)
  · rw [if_neg hj] at ht
    exact .inr ⟨Ne.symm hj, ht⟩

/-- A session that changes without a response keeps its numbers, and so does the process. -/
theorem Numbered.unanswered {s' : Session} (h : p.Numbered) (hs : p.sessions[i]? = some s)
    (hnext : q.nextConnection = p.nextConnection) (hsessions : q.sessions = p.sessions.set i s')
    (htransactions : q.transactions = p.transactions) (hconnection : s'.connection = s.connection)
    (hsequence : s'.sequence = s.sequence) : q.Numbered := by
  have hlength : q.sessions.length = p.sessions.length := by rw [hsessions, List.length_set]
  constructor
  · rw [hnext, hlength]
    exact h.next
  · intro j t ht
    rcases sessions_set_cases hsessions ht with ⟨rfl, rfl⟩ | ⟨-, ht⟩
    · rw [hconnection]
      exact h.connection j s hs
    · exact h.connection j t ht
  · intro j t ht
    rw [transactionsOf_congr htransactions]
    rcases sessions_set_cases hsessions ht with ⟨rfl, rfl⟩ | ⟨-, ht⟩
    · rw [hsequence]
      exact h.sequence j s hs
    · exact h.sequence j t ht
  · intro j t ht
    rw [transactionsOf_congr htransactions]
    rcases sessions_set_cases hsessions ht with ⟨rfl, rfl⟩ | ⟨-, ht⟩
    · rw [hconnection]
      exact h.texts j s hs
    · exact h.texts j t ht
  · intro t ht
    rw [htransactions] at ht
    rw [hlength]
    exact h.bounded t ht

/-- A session that responds takes its next number. -/
theorem Numbered.answered {s' : Session} (h : p.Numbered) (hs : p.sessions[i]? = some s)
    (hnext : q.nextConnection = p.nextConnection) (hsessions : q.sessions = p.sessions.set i s')
    (htransactions : q.transactions =
      p.transactions ++ [(i, transactionText s.connection.toNat s.sequence.toNat)])
    (hconnection : s'.connection = s.connection) (hsequence : s'.sequence = s.sequence + 1) :
    q.Numbered := by
  have hlength : q.sessions.length = p.sessions.length := by rw [hsessions, List.length_set]
  have hcount := h.sequence i s hs
  constructor
  · rw [hnext, hlength]
    exact h.next
  · intro j t ht
    rcases sessions_set_cases hsessions ht with ⟨rfl, rfl⟩ | ⟨-, ht⟩
    · rw [hconnection]
      exact h.connection j s hs
    · exact h.connection j t ht
  · intro j t ht
    rcases sessions_set_cases hsessions ht with ⟨rfl, rfl⟩ | ⟨hj, ht⟩
    · rw [transactionsOf_self htransactions, hsequence, hcount, List.length_append,
        List.length_singleton]
      exact (UInt64.ofNat_add _ 1).symm
    · rw [transactionsOf_ne htransactions hj]
      exact h.sequence j t ht
  · intro j t ht k text hk
    rcases sessions_set_cases hsessions ht with ⟨rfl, rfl⟩ | ⟨hj, ht⟩
    · rw [transactionsOf_self htransactions] at hk
      rw [hconnection]
      rcases Nat.lt_trichotomy k (p.transactionsOf j).length with hlt | heq | hgt
      · rw [List.getElem?_append_left hlt] at hk
        exact h.texts j s hs k text hk
      · -- the response that has just been given
        rw [List.getElem?_append_right (Nat.le_of_eq heq.symm), heq, Nat.sub_self] at hk
        rw [heq, ← hcount]
        exact (Option.some.inj hk).symm
      · rw [List.getElem?_append_right (Nat.le_of_lt hgt), List.getElem?_eq_none] at hk
        · exact absurd hk (by simp)
        · rw [List.length_singleton]
          omega
    · rw [transactionsOf_ne htransactions hj] at hk
      exact h.texts j t ht k text hk
  · intro t ht
    rw [htransactions] at ht
    rw [hlength]
    rcases List.mem_append.mp ht with ht | ht
    · exact h.bounded t ht
    · rw [List.mem_singleton.mp ht]
      exact (List.getElem?_eq_some_iff.mp hs).1

/-- A session that begins has the next connection, and no responses yet. -/
theorem Numbered.connected (h : p.Numbered) : (p.step .connects).Numbered := by
  have htransactions : (p.step .connects).transactions = p.transactions := rfl
  have hsessions : (p.step .connects).sessions =
      p.sessions ++ [{ connection := p.nextConnection }] := rfl
  have hlength : (p.step .connects).sessions.length = p.sessions.length + 1 := by
    rw [hsessions, List.length_append, List.length_singleton]
  -- a session of the process after the step was there before, or it is the new one
  have hcases : ∀ j t, (p.step .connects).sessions[j]? = some t → p.sessions[j]? = some t ∨
      (j = p.sessions.length ∧ t = { connection := p.nextConnection }) := by
    intro j t ht
    rw [hsessions] at ht
    rcases Nat.lt_trichotomy j p.sessions.length with hlt | heq | hgt
    · rw [List.getElem?_append_left hlt] at ht
      exact .inl ht
    · rw [List.getElem?_append_right (Nat.le_of_eq heq.symm), heq, Nat.sub_self] at ht
      exact .inr ⟨heq, (Option.some.inj ht).symm⟩
    · rw [List.getElem?_append_right (Nat.le_of_lt hgt), List.getElem?_eq_none] at ht
      · exact absurd ht (by simp)
      · rw [List.length_singleton]
        omega
  constructor
  · rw [hlength, UInt64.ofNat_add (p.sessions.length + 1) 1, ← h.next]
    rfl
  · intro j t ht
    rcases hcases j t ht with ht | ⟨rfl, rfl⟩
    · exact h.connection j t ht
    · exact h.next
  · intro j t ht
    rw [transactionsOf_congr htransactions]
    rcases hcases j t ht with ht | ⟨rfl, rfl⟩
    · exact h.sequence j t ht
    · rw [h.transactionsOf_of_le (Nat.le_refl _)]
      rfl
  · intro j t ht k text hk
    rw [transactionsOf_congr htransactions] at hk
    rcases hcases j t ht with ht | ⟨rfl, rfl⟩
    · exact h.texts j t ht k text hk
    · rw [h.transactionsOf_of_le (Nat.le_refl _)] at hk
      exact absurd hk (by simp)
  · intro t ht
    rw [htransactions] at ht
    have hlt := h.bounded t ht
    omega

section Comes

variable {v : Service} {now : Instant} {inbound : Inbound}

theorem step_comes_of_none (hs : p.sessions[i]? = none) :
    p.step (.comes v i now inbound) = p := by
  simp only [step, hs]

/-- What comes to a session changes it and no other. -/
theorem sessions_comes (hs : p.sessions[i]? = some s) :
    (p.step (.comes v i now inbound)).sessions =
      p.sessions.set i (v.handle now s inbound).2 := by
  simp only [step, hs]

theorem nextConnection_comes :
    (p.step (.comes v i now inbound)).nextConnection = p.nextConnection := by
  simp only [step]
  split <;> rfl

theorem transactions_comes (hs : p.sessions[i]? = some s) :
    (p.step (.comes v i now inbound)).transactions =
      p.transactions ++ ((v.handle now s inbound).1.response.map fun r =>
        (i, r.serverTransactionId)).toList := by
  simp only [step, hs, transactions, List.filterMap_append]
  congr 1

/-- A response adds its identifier to the transactions of a process. -/
theorem transactions_response {r : Response} {text : String} (hs : p.sessions[i]? = some s)
    (hr : (v.handle now s inbound).1.response = some r) (htext : r.serverTransactionId = text) :
    (p.step (.comes v i now inbound)).transactions = p.transactions ++ [(i, text)] := by
  rw [transactions_comes hs, hr, Option.map_some, Option.toList_some, htext]

/-- A greeting adds nothing to them. -/
theorem transactions_greeting (hs : p.sessions[i]? = some s)
    (hreply : (v.handle now s inbound).1 = v.greeting now) :
    (p.step (.comes v i now inbound)).transactions = p.transactions := by
  have hnone : (v.handle now s inbound).1.response = none := by rw [hreply]; rfl
  rw [transactions_comes hs, hnone, Option.map_none, Option.toList_none, List.append_nil]

end Comes

/-- What happens to a session by itself adds no transaction. -/
theorem transactions_moves (i : Nat) (state : SessionState) :
    (p.step (.moves i state)).transactions = p.transactions := by
  simp only [step]
  split <;> rfl

/-- **Whatever happens, transactions stay numbered.** -/
theorem numbered_step (h : p.Numbered) (x : Happening) : (p.step x).Numbered := by
  cases x with
  | connects => exact h.connected
  | moves i state =>
      cases hs : p.sessions[i]? with
      | none =>
          have hstep : p.step (.moves i state) = p := by simp only [step, hs]
          rw [hstep]
          exact h
      | some s =>
          have hstep : p.step (.moves i state) =
              { p with sessions := p.sessions.set i (s.moveTo state) } := by simp only [step, hs]
          rw [hstep]
          exact h.unanswered hs rfl rfl rfl rfl rfl
  | comes v i now inbound =>
      cases hs : p.sessions[i]? with
      | none =>
          rw [step_comes_of_none hs]
          exact h
      | some s =>
          have hconnection := v.connection_handle now s inbound
          cases v.handle_numbers now s inbound with
          | response r hr htext hsequence =>
              exact h.answered hs nextConnection_comes (sessions_comes hs)
                (transactions_response hs hr htext) hconnection hsequence
          | greeting hreply hsequence =>
              exact h.unanswered hs nextConnection_comes (sessions_comes hs)
                (transactions_greeting hs hreply) hconnection hsequence

/-! ## No identifier twice -/

theorem sessions_length_le_step (p : Process) (x : Happening) :
    p.sessions.length ≤ (p.step x).sessions.length := by
  cases x with
  | connects => simp [step]
  | moves i state =>
      simp only [step]
      split <;> simp
  | comes v i now inbound =>
      simp only [step]
      split <;> simp

/-- What has been given stays given. -/
theorem exists_transactions_step (p : Process) (x : Happening) :
    ∃ given, (p.step x).transactions = p.transactions ++ given := by
  cases x with
  | connects => exact ⟨[], (List.append_nil _).symm⟩
  | moves i state => exact ⟨[], by rw [transactions_moves, List.append_nil]⟩
  | comes v i now inbound =>
      cases hs : p.sessions[i]? with
      | none => exact ⟨[], by rw [step_comes_of_none hs, List.append_nil]⟩
      | some s => exact ⟨_, transactions_comes hs⟩

theorem length_transactionsOf_le_step (p : Process) (x : Happening) (i : Nat) :
    (p.transactionsOf i).length ≤ ((p.step x).transactionsOf i).length := by
  obtain ⟨given, hgiven⟩ := exists_transactions_step p x
  rw [transactionsOf, transactionsOf, hgiven, List.filter_append, List.map_append,
    List.length_append]
  exact Nat.le_add_right _ _

theorem length_transactionsOf_le (p : Process) (i : Nat) :
    (p.transactionsOf i).length ≤ p.transactions.length := by
  rw [transactionsOf, List.length_map]
  exact List.length_filter_le _ _

/-- Connections are told by their numbers as long as the numbers have not been through all words. -/
theorem Numbered.connection_toNat (h : p.Numbered) (hfew : p.sessions.length < UInt64.size)
    (hs : p.sessions[i]? = some s) : s.connection.toNat = i + 1 := by
  have hi : i < p.sessions.length := (List.getElem?_eq_some_iff.mp hs).1
  rw [h.connection i s hs]
  exact UInt64.toNat_ofNat_of_lt (by omega)

/-- So are the responses of a session. -/
theorem Numbered.texts_toNat (h : p.Numbered) (hs : p.sessions[i]? = some s)
    (hshort : (p.transactionsOf i).length < UInt64.size) {k : Nat} {text : String}
    (hk : (p.transactionsOf i)[k]? = some text) :
    text = transactionText s.connection.toNat (k + 1) := by
  have hlt : k < (p.transactionsOf i).length := (List.getElem?_eq_some_iff.mp hk).1
  have hnumber : (UInt64.ofNat (k + 1)).toNat = k + 1 := UInt64.toNat_ofNat_of_lt' (by omega)
  rw [h.texts i s hs k text hk, hnumber]

/-- The next identifier of a session has not been given by it, nor by any other session. -/
theorem Numbered.fresh (h : p.Numbered) (hfew : p.sessions.length < UInt64.size)
    (hshort : (p.transactionsOf i).length < UInt64.size) (hs : p.sessions[i]? = some s) :
    ∀ t ∈ p.transactions, t.2 ≠ transactionText s.connection.toNat s.sequence.toNat := by
  intro t ht heq
  -- the session that has given it, and when
  obtain ⟨u, hu⟩ : ∃ u, p.sessions[t.1]? = some u :=
    ⟨_, List.getElem?_eq_getElem (h.bounded t ht)⟩
  have hmem : t.2 ∈ p.transactionsOf t.1 :=
    List.mem_map.mpr ⟨t, List.mem_filter.mpr ⟨ht, by simp⟩, rfl⟩
  obtain ⟨k, hk⟩ := List.mem_iff_getElem?.mp hmem
  have htext := h.texts t.1 u hu k t.2 hk
  obtain ⟨hconnection, hnumber⟩ := transactionText_inj (htext.symm.trans heq)
  -- the connection is that of the session itself, which has not come to this number yet
  rw [h.connection_toNat hfew hu, h.connection_toNat hfew hs] at hconnection
  have hi : t.1 = i := by omega
  rw [hi] at hk
  have hlt : k < (p.transactionsOf i).length := (List.getElem?_eq_some_iff.mp hk).1
  have hsize : UInt64.size = 2 ^ 64 := rfl
  rw [h.sequence i s hs, UInt64.toNat_ofNat', UInt64.toNat_ofNat'] at hnumber
  omega

theorem distinct_step (h : p.Numbered) (hfew : p.sessions.length < UInt64.size)
    (hshort : ∀ i, (p.transactionsOf i).length < UInt64.size)
    (hnodup : (p.transactions.map Prod.snd).Nodup) (x : Happening) :
    ((p.step x).transactions.map Prod.snd).Nodup := by
  cases x with
  | connects => exact hnodup
  | moves i state =>
      rw [transactions_moves]
      exact hnodup
  | comes v i now inbound =>
      cases hs : p.sessions[i]? with
      | none =>
          rw [step_comes_of_none hs]
          exact hnodup
      | some s =>
          cases v.handle_numbers now s inbound with
          | response r hr htext _ =>
              rw [transactions_response hs hr htext, List.map_append, List.nodup_append]
              refine ⟨hnodup, by simp, ?_⟩
              intro old hold new hnew
              obtain ⟨t, ht, rfl⟩ := List.mem_map.mp hold
              rw [List.map_singleton, List.mem_singleton] at hnew
              rw [hnew]
              exact h.fresh hfew (hshort i) hs t ht
          | greeting hreply _ =>
              rw [transactions_greeting hs hreply]
              exact hnodup

/-! ## Runs -/

theorem run_append (happenings : List Happening) (x : Happening) :
    run (happenings ++ [x]) = (run happenings).step x := by
  simp [run]

theorem numbered_run (happenings : List Happening) : (run happenings).Numbered := by
  induction happenings using List.reverseRecOn with
  | nil => exact numbered_init
  | append_singleton happenings x ih =>
      rw [run_append]
      exact numbered_step ih x

theorem distinct_run {happenings : List Happening}
    (hfew : (run happenings).sessions.length < UInt64.size)
    (hshort : ∀ i, ((run happenings).transactionsOf i).length < UInt64.size) :
    ((run happenings).transactions.map Prod.snd).Nodup := by
  induction happenings using List.reverseRecOn with
  | nil => exact List.nodup_nil
  | append_singleton happenings x ih =>
      rw [run_append] at hfew hshort ⊢
      -- there have never been more sessions, or more responses of one, than in the end
      have hfew' := Nat.lt_of_le_of_lt (sessions_length_le_step (run happenings) x) hfew
      have hshort' := fun i =>
        Nat.lt_of_le_of_lt (length_transactionsOf_le_step (run happenings) x i) (hshort i)
      exact distinct_step (numbered_run happenings) hfew' hshort' (ih hfew' hshort') x

/--
**No transaction is numbered twice.** Whatever happens in a process with fewer than 2⁶⁴ connections,
and fewer than 2⁶⁴ responses of each: the sessions have the connections 1, 2, 3 and so on; the
responses of a session, and nothing else that it replies, carry the number of its connection and the
numbers 1, 2, 3 and so on, so that its own number is one more than that of its responses; and all
identifiers differ as texts. A reply is either a response, which takes one number whatever its code,
or a greeting, which takes none.
-/
theorem transactions_are_numbered_once {happenings : List Happening}
    (hfew : (run happenings).sessions.length < UInt64.size)
    (hshort : ∀ i, ((run happenings).transactionsOf i).length < UInt64.size) :
    (∀ i s, (run happenings).sessions[i]? = some s →
      s.connection.toNat = i + 1 ∧
      s.sequence = UInt64.ofNat (((run happenings).transactionsOf i).length + 1) ∧
      ∀ k id, ((run happenings).transactionsOf i)[k]? = some id →
        id = "SRV-" ++ toString s.connection.toNat ++ "-" ++ toString (k + 1)) ∧
    ((run happenings).transactions.map Prod.snd).Nodup ∧
    ∀ (v : Service) now s inbound, v.Numbers now s (v.handle now s inbound) := by
  have hnumbered := numbered_run happenings
  refine ⟨?_, distinct_run hfew hshort, fun v now s inbound => v.handle_numbers now s inbound⟩
  intro i s hs
  refine ⟨hnumbered.connection_toNat hfew hs, hnumbered.sequence i s hs, ?_⟩
  intro k id hk
  exact hnumbered.texts_toNat hs (hshort i) hk

/-- Two clients connect. The second one is answered first; the first one sends a document that is
faulty, asks for a greeting, and sends another such document. -/
theorem transactions_are_numbered_once_two :
    let epoch : Instant := ⟨0, 0⟩
    let p := run [.connects, .connects, .comes {} 1 epoch (.malformed .markup),
      .moves 0 .waitingForCommand, .comes {} 0 epoch (.malformed .markup),
      .comes {} 0 epoch (.message .askGreeting), .comes {} 0 epoch (.malformed .markup)]
    p.sessions.length < UInt64.size ∧ p.replies.length = 4 ∧
      p.transactionsOf 0 = ["SRV-1-1", "SRV-1-2"] ∧ p.transactionsOf 1 = ["SRV-2-1"] ∧
      (p.transactions.map Prod.snd).Nodup := by
  intro epoch p
  have hfew : p.sessions.length < UInt64.size := by decide
  have hshort : ∀ i, (p.transactionsOf i).length < UInt64.size := fun i =>
    Nat.lt_of_le_of_lt (length_transactionsOf_le p i) (by decide)
  exact ⟨hfew, rfl, by decide, by decide, (transactions_are_numbered_once hfew hshort).2.1⟩

end Process

end Provisioning
