import Provisioning.Server.Service

/-!
# Runs of a session

What comes from a client is answered one after the other, each at its own time, and every reply
leaves a session for the next one. A run is nothing but this fold, so whatever one step keeps a run
keeps, and a run over two rows is a run over the first and then one over the second.
-/

namespace Provisioning

open Calendar (Instant)

/-- What has come, and when it is answered. -/
abbrev Arrival := Instant × Inbound

/-- A session whose greeting has been sent. -/
def Session.greeted (connection : UInt64) : Session :=
  ({ connection } : Session).moveTo .waitingForClient

namespace Service

/-- The replies to all that comes, each with the session after it. -/
def answers (v : Service) (s : Session) : List Arrival → List Reply
  | [] => []
  | (now, inbound) :: rest => v.handle now s inbound :: v.answers (v.handle now s inbound).2 rest

/-- The session after all that has come. -/
def after (v : Service) (s : Session) (arrivals : List Arrival) : Session :=
  arrivals.foldl (fun s a => (v.handle a.1 s a.2).2) s

variable (v : Service)

theorem after_cons (s : Session) (a : Arrival) (arrivals : List Arrival) :
    v.after s (a :: arrivals) = v.after (v.handle a.1 s a.2).2 arrivals := rfl

theorem after_append (s : Session) (xs ys : List Arrival) :
    v.after s (xs ++ ys) = v.after (v.after s xs) ys := by
  simp [after]

theorem answers_append (s : Session) (xs ys : List Arrival) :
    v.answers s (xs ++ ys) = v.answers s xs ++ v.answers (v.after s xs) ys := by
  induction xs generalizing s with
  | nil => rfl
  | cons x xs ih => rw [List.cons_append, answers, answers, ih, after_cons, List.cons_append]

/-- What every step keeps holds after every reply of a run and at its end. -/
theorem run_keeps {v : Service} {P : Session → Prop} {s : Session}
    (hstep : ∀ now s inbound, P s → P (v.handle now s inbound).2) (h : P s)
    (arrivals : List Arrival) :
    P (v.after s arrivals) ∧ ∀ r ∈ v.answers s arrivals, P r.2 := by
  induction arrivals generalizing s with
  | nil => exact ⟨h, by simp [answers]⟩
  | cons a arrivals ih =>
      obtain ⟨hafter, hall⟩ := ih (hstep a.1 s a.2 h)
      refine ⟨hafter, fun r hr => ?_⟩
      rcases List.mem_cons.mp hr with rfl | hr
      · exact hstep a.1 s a.2 h
      · exact hall r hr

end Service

end Provisioning
