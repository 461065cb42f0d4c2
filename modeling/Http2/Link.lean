import Http2.Session

/-!
# Two sessions that talk to each other

A `Link` joins a client and a server whose octets reach each other in order and intact.
-/

namespace Http2

structure Link where
  client : Session
  server : Session
  deriving DecidableEq, Repr

structure Delivery where
  octets : Octets
  result : Except Error Unit

namespace Session

/-- Hands what one session has written to another; nothing happens where nothing waits. -/
def deliver (sender receiver : Session) : Option Delivery × Session × Session :=
  let (octets, emptied) := sender.takeOutbound
  if octets.isEmpty then (none, sender, receiver)
  else
    let (result, receiver) := receiver.receive octets
    (some ⟨octets, result⟩, emptied, receiver)

end Session

namespace Link

def round (link : Link) : (Option Delivery × Option Delivery) × Link :=
  let (up, client, server) := link.client.deliver link.server
  let (down, server, client) := server.deliver client
  ((up, down), ⟨client, server⟩)

/-- At most `count` rounds, up to the first in which nothing is handed over. -/
def rounds : (count : Nat) → Link → List (Option Delivery × Option Delivery) × Link
  | 0, link => ([], link)
  | count + 1, link =>
      match link.round with
      | ((none, none), link) => ([], link)
      | (deliveries, link) =>
          let (more, link) := link.rounds count
          (deliveries :: more, link)

end Link

end Http2
