import Http2.Connection.Basic

/-!
# Sending data

Data leaves a stream as far as the windows and the peer's frame limit allow.  A stream whose data
does not all fit waits for credit, and waiting streams are served in the order in which they began
to wait.
-/

namespace Http2

namespace Connection

/-- Sends what waits in DATA frames until it or the credit runs out, and gives what is left of it.
`closing` puts the end of the stream on the last frame. -/
def sendQueue (id limit : Nat) (closing : Bool) (queue : Buffer)
    (connection : Connection) : Buffer × Connection :=
  match queue with
  | ⟨[], _⟩ => (queue, connection)
  | ⟨piece :: rest, length⟩ =>
      let count := min piece.length (min limit (connection.sendWindows.available id))
      if _spent : count = 0 then (queue, connection)
      else
        match connection.sendWindows.charge id count with
        | .error _ => (queue, connection)
        | .ok windows =>
            let left := Buffer.cut ⟨piece :: rest, length⟩ count
            sendQueue id limit closing left
              ({ connection with sendWindows := windows }.write
                (.data id (piece.take count) (closing && left.length = 0) none))
termination_by totalLength queue.pieces
decreasing_by
  simp only [Buffer.cut, totalLength, List.map_cons, total_cons]
  split
  · simp only [List.map_cons, total_cons, List.length_drop]
    omega
  · omega

/-- Puts back what is left of a queue.  After the last of it, trailers or the end go out. -/
def finishFlush (id : Nat) (stream : Stream) (left : Buffer) (connection : Connection) :
    Connection :=
  let connection := connection.modifyStream id fun stream => { stream with queue := left }
  if left.length = 0 then
    match stream.trailers with
    | some fields =>
        ((connection.modifyStream id Stream.endSent).writeHeaders id fields none
          true).advanceAnyway id (.sendHeaders true)
    | none =>
        if stream.endQueued then
          let connection := connection.modifyStream id Stream.endSent
          let connection :=
            if stream.buffered = 0 then connection.write (.data id [] true none)
            else connection
          connection.advanceAnyway id .sendEnd
        else connection
  else { connection with sendWindows := connection.sendWindows.park id }

def flush (connection : Connection) (id : Nat) : Connection :=
  match connection.registry.get? id with
  | none => connection
  | some stream =>
      if stream.phase.canSend then
        let closing := stream.endQueued && stream.trailers.isNone
        let (left, connection) :=
          sendQueue id connection.exchange.peer.maxFrameSize closing stream.queue connection
        finishFlush id stream left connection
      else connection

def resumeFirst : (count : Nat) → Connection → Connection
  | 0, connection => connection
  | count + 1, connection =>
      if connection.sendWindows.connection ≤ 0 then connection
      else
        match connection.sendWindows.popParked? with
        | none => connection
        | some (id, windows) =>
            resumeFirst count ({ connection with sendWindows := windows }.flush id)

/-- Hands new credit to the waiting streams, each of them once.  A stream that waits again goes to
the end of the queue. -/
def resume (connection : Connection) : Connection :=
  resumeFirst connection.sendWindows.parked.length connection

end Connection

end Http2
