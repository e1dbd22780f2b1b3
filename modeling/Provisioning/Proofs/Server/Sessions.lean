import Mathlib.Logic.Function.Basic
import Provisioning.Proofs.Server.Run

/-!
# Many sessions of one service

A service answers many clients at once. Each client has a session of its own, and what has come is
answered for the session it came to; the others do not notice. The failed logins are counted once
for the service: the count is shared by all sessions, and a session that refuses a login adds one to
it whatever the others have added in between.
-/

namespace Provisioning

/-- The sessions of one service, each under its name, and what is counted over all of them. -/
structure Sessions (ι : Type) where
  each : ι → Session
  /-- The failed logins of all sessions. -/
  refusals : UInt64 := 0

/-- What has come to one of the sessions. -/
abbrev Delivery (ι : Type) := ι × Arrival

namespace Service

variable {ι : Type} [DecidableEq ι]

/-- The reply to what has come to one session. -/
def replyIn (v : Service) (ss : Sessions ι) (d : Delivery ι) : Reply :=
  v.handle d.2.1 (ss.each d.1) d.2.2

/-- The sessions after it: one has changed, and its failed logins are added to those of all. -/
def turn (v : Service) (ss : Sessions ι) (d : Delivery ι) : Sessions ι where
  each := Function.update ss.each d.1 (v.replyIn ss d).2
  refusals := ss.refusals + ((v.replyIn ss d).2.refusals - (ss.each d.1).refusals)

/-- The replies to all that comes to the sessions, in the order in which it comes. -/
def answersAll (v : Service) (ss : Sessions ι) : List (Delivery ι) → List Reply
  | [] => []
  | d :: rest => v.replyIn ss d :: v.answersAll (v.turn ss d) rest

/-- The sessions after all that has come. -/
def afterAll (v : Service) (ss : Sessions ι) (deliveries : List (Delivery ι)) : Sessions ι :=
  deliveries.foldl v.turn ss

theorem afterAll_cons (v : Service) (ss : Sessions ι) (d : Delivery ι)
    (rest : List (Delivery ι)) :
    v.afterAll ss (d :: rest) = v.afterAll (v.turn ss d) rest := rfl

end Service

end Provisioning
