import Provisioning.Client.Stream
import Provisioning.Server.Conversation

/-!
# A server at the other end of a client's stream

The server does nothing while the client goes on; it does all it can when the client waits for it,
and once more when the client has gone. What it writes then is lost to it as a fault of the
transport. A server that has ended takes no more bytes; at the very moment at which it loses patience
it still takes them, but does not look at them any more.
-/

namespace Provisioning.Service

/-- The time at which the server closes if nothing more comes. -/
def closesAt (l : Limits) (c : Conversation) : Option Nat :=
  if c.result.isSome then some c.clock else c.deadline? l

/-- The server as the peer of a client. Its state is the conversation with this client. -/
def peer (v : Service) (l : Limits) (now : Calendar.Instant) : Peer Conversation where
  accept time bytes c :=
    let c := c.passTo l time
    if c.result.isSome then none else some (c.receive bytes)
  await time patience c :=
    if patience = 0 then ({}, c)
    else
      let d := (c.passTo l time).settle v l now
      let written := (d.sent.drop c.sent.length).filterMap fun e => (Wire.encode e).toOption
      (⟨written.map (Piece.mk time), closesAt l d⟩, d)
  hangUp time c :=
    { c.passTo l time with ended := true, listening := false }.settle v l now

end Provisioning.Service
