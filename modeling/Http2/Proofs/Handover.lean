import Http2.Link
import Http2.Proofs.Legibility

/-!
# Frames between two sessions, and their octets

The ends of a `Pair` hand each other frames, those of a `Link` the octets that are written for them.
Where the frames fit the reader for which they are written, this makes no difference: to hand over
the octets is to transmit what waits and to deliver it frame by frame.
-/

namespace Http2

open List

/-- The items are read as the frames that they are written for.  Each of these is well-formed, and
written with a limit that the connection allows when it comes to read the frame.  Once the
connection has closed it reads nothing. -/
def Connection.Suits (blockLimit : Nat) : Connection → List Outgoing → Prop
  | _, [] => True
  | _, .preface :: _ => False
  | conn, .frame limit frame :: rest => conn.closed = true ∨
      (leastFrameLimit ≤ limit ∧ limit ≤ conn.frameLimit ∧ conn.frameLimit ≤ greatestFrameLimit ∧
        frame.WellFormed limit blockLimit) ∧ (conn.handle frame).Suits blockLimit rest

namespace Session

variable {session sender other receiver : Session} {items : List Outgoing}

/-- Nothing waits, or the reader has nothing else to read and the preface comes first if due. -/
def Suits (session : Session) (items : List Outgoing) : Prop :=
  items = [] ∨ session.reader.buffer = [] ∧ session.reader.pending = none ∧
    ∃ rest, items = (if session.reader.prefaceDue then [.preface] else []) ++ rest ∧
      session.connection.Suits session.reader.blockLimit rest

private theorem foldl_handle_of_closed (closed : session.connection.closed)
    (frames : List Frame) : frames.foldl handle session = session := by
  induction frames with
  | nil => rfl
  | cons frame rest ih => rwa [foldl_cons, handle, if_pos closed]

/-- To consume the octets of frames that fit is to handle the frames. -/
theorem consume_of_suits (reader : Reader) {conn : Connection} (sound : conn.Sound)
    (opened : conn.closed = false) (started : reader.prefaceDue = false)
    (complete : reader.pending = none) (octets : reader.buffer = items.flatMap Outgoing.octets)
    (suits : conn.Suits reader.blockLimit items) (other : Reader) :
    (consume reader conn).2.connection =
      ((items.filterMap Outgoing.frame?).foldl handle ⟨other, conn⟩).connection := by
  induction items generalizing reader conn with
  | nil =>
    rw [consume_eq_proceed, Reader.next_of_empty _ (by exact octets)]
    rfl
  | cons item rest ih =>
    cases item with
    | preface => exact suits.elim
    | frame limit frame =>
      obtain ⟨⟨least, within, greatest, wellFormed⟩, later⟩ := suits.resolve_left (by simp [opened])
      have next := @Reader.nextFrame_encode { reader with frameLimit := conn.frameLimit }
        frame limit least within greatest wellFormed (rest.flatMap Outgoing.octets)
      have whole : reader.buffer = frame.encode limit ++ rest.flatMap Outgoing.octets := octets
      rw [← Reader.next_of_started _ (by exact started), ← whole, ← complete] at next
      have first : handle ⟨other, conn⟩ frame = ⟨other, conn.handle frame⟩ := by
        rw [handle, if_neg (Bool.eq_false_iff.mp opened)]
      rw [consume_of_next sound opened next, filterMap_cons, Outgoing.frame?, foldl_cons, first]
      cases still : (conn.handle frame).closed with
      | true => rw [if_pos rfl, foldl_handle_of_closed (by exact still)]
      | false =>
        rw [if_neg Bool.false_ne_true]
        exact ih _ (Connection.handle_sound sound still) still started complete rfl later

private theorem next_eq_of_preface (reader : Reader) {rest : Octets} (due : reader.prefaceDue)
    (whole : reader.buffer = preface ++ rest) :
    reader.next = Reader.next { reader with buffer := rest, prefaceDue := false } := by
  rw [Reader.next_of_preface reader due whole,
    Reader.next_of_started { reader with buffer := rest, prefaceDue := false } rfl]

private theorem receive_of_suits (sound : session.connection.Sound)
    (opened : session.connection.closed = false) (suits : session.Suits items) (some : items ≠ []) :
    (session.receive (items.flatMap Outgoing.octets)).2.connection =
      ((items.filterMap Outgoing.frame?).foldl handle session).connection := by
  obtain ⟨empty, complete, rest, rfl, fits⟩ := suits.resolve_left some
  rw [receive_of_open opened]
  cases due : session.reader.prefaceDue with
  | false =>
    rw [if_neg Bool.false_ne_true, nil_append]
    refine consume_of_suits (session.reader.feed _) sound opened due complete ?_ fits session.reader
    exact congrArg (· ++ _) empty
  | true =>
    rw [if_pos rfl, singleton_append, filterMap_cons, Outgoing.frame?]
    -- the preface is read along with the first frame
    have whole : (session.reader.feed ((.preface :: rest).flatMap Outgoing.octets)).buffer =
        preface ++ rest.flatMap Outgoing.octets := congrArg (· ++ _) empty
    have skips : consume (session.reader.feed ((.preface :: rest).flatMap Outgoing.octets))
          session.connection =
        consume { session.reader with
          buffer := rest.flatMap Outgoing.octets, prefaceDue := false } session.connection := by
      rw [consume_eq_proceed, consume_eq_proceed]
      exact congrArg (proceed session.connection) (next_eq_of_preface
        { session.reader.feed _ with frameLimit := session.connection.frameLimit } due whole)
    rw [skips]
    exact consume_of_suits { session.reader with
      buffer := rest.flatMap Outgoing.octets, prefaceDue := false } sound opened
      rfl complete rfl fits session.reader

private theorem encode_ne_nil {limit blockLimit : Nat} {frame : Frame}
    (least : leastFrameLimit ≤ limit) (wellFormed : frame.WellFormed limit blockLimit) :
    frame.encode limit ≠ [] := by
  obtain ⟨first, others, written, -⟩ := Frame.rawFrames_fit least wellFormed
  rw [Frame.encode, written, flatMap_cons]
  simp [RawFrame.encode, FrameHead.encode, bigEndian]

private theorem outboundOctets_ne_nil (opened : receiver.connection.closed = false)
    (suits : receiver.Suits sender.connection.outbound) (some : sender.connection.outbound ≠ []) :
    sender.outboundOctets ≠ [] := by
  obtain ⟨-, -, rest, split, fits⟩ := suits.resolve_left some
  rw [outboundOctets, split]
  cases due : receiver.reader.prefaceDue with
  | true => exact fun none => by cases none
  | false =>
    rw [due, if_neg Bool.false_ne_true, nil_append] at split
    cases rest with
    | nil => exact absurd split some
    | cons item rest =>
      cases item with
      | preface => exact fits.elim
      | frame limit frame =>
        obtain ⟨⟨least, -, -, wellFormed⟩, -⟩ := fits.resolve_left (by simp [opened])
        exact append_ne_nil_of_left_ne_nil (encode_ne_nil least wellFormed) _

/-- What waits at the sender is handed over, and the receiver handles the frames one by one. -/
theorem deliver_of_suits (sound : receiver.connection.Sound)
    (opened : receiver.connection.closed = false)
    (suits : receiver.Suits sender.connection.outbound) :
    (sender.deliver receiver).2.1 = sender.takeOutbound.2 ∧
      (sender.deliver receiver).2.2.connection =
        (sender.connection.queued.foldl handle receiver).connection := by
  by_cases none : sender.connection.outbound = []
  · have nothing : sender.outboundOctets = [] := congrArg (flatMap Outgoing.octets) none
    have silent : sender.connection.queued = [] := congrArg (filterMap Outgoing.frame?) none
    have same : sender.takeOutbound.2 = sender := by
      rw [takeOutbound, ← none]
    simp only [deliver, takeOutbound, nothing, isEmpty_nil, if_true, silent, foldl_nil, and_true]
    exact same.symm
  · have some := outboundOctets_ne_nil opened suits none
    have received := receive_of_suits sound opened suits none
    simp only [deliver, takeOutbound, isEmpty_eq_false_iff.mpr some, Bool.false_eq_true, if_false,
      true_and]
    exact received

private theorem deliver_congr (same : sender.connection = other.connection) :
    (sender.deliver receiver).2.1.connection = (other.deliver receiver).2.1.connection ∧
      (sender.deliver receiver).2.2 = (other.deliver receiver).2.2 := by
  obtain ⟨reader, conn⟩ := sender
  obtain ⟨reader', conn'⟩ := other
  obtain rfl : conn = conn' := same
  cases nothing : (conn.outbound.flatMap Outgoing.octets).isEmpty <;>
    simp [deliver, takeOutbound, outboundOctets, nothing]

end Session

/-! ## Frame by frame -/

namespace Pair

variable {pair : Pair} {side : Role}

/-- All that waits for an end is transmitted, and then delivered frame by frame. -/
def handOver (side : Role) (count : Nat) : List (Role × Turn) :=
  (side.peer, .transmit) :: replicate count (side, .deliver)

theorem play_deliver (pair : Pair) (side : Role) :
    pair.play (replicate (pair.inbound side).length (side, .deliver)) =
      { pair.put side ((pair.inbound side).foldl Session.handle (pair.session side)) with
        inbound := Function.update pair.inbound side [] } := by
  generalize waits : pair.inbound side = frames
  induction frames generalizing pair with
  | nil =>
    have inbound : Function.update pair.inbound side [] = pair.inbound := by
      rw [← waits, Function.update_eq_self]
    rw [inbound, foldl_nil, put, Function.update_eq_self]
    rfl
  | cons frame rest ih =>
    have first : pair.step side .deliver =
        { pair.put side ((pair.session side).handle frame) with
          inbound := Function.update pair.inbound side rest } := by
      simp only [step, waits]
    have onward := @ih (pair.step side .deliver) (by rw [first]; exact Function.update_self ..)
    rw [length_cons, replicate_succ, play, foldl_cons]
    refine onward.trans ?_
    rw [first]
    simp [put]

theorem play_handOver (none : pair.inbound side = []) :
    let frames := (pair.connection side.peer).queued
    let after := pair.play (handOver side frames.length)
    after.session side.peer = (pair.session side.peer).takeOutbound.2 ∧
      after.session side = frames.foldl Session.handle (pair.session side) ∧
      after.inbound side = [] ∧ after.inbound side.peer = pair.inbound side.peer := by
  intro frames after
  have waits : (pair.step side.peer .transmit).inbound side = frames := by
    simp [step, inFlight, none, frames]
  have played := play_deliver (pair.step side.peer .transmit) side
  rw [waits] at played
  have played : after = _ := played
  rw [played]
  simp [put, step, side.peer_ne, side.peer_ne.symm]

/-- To hand over the octets that wait at one end is to deliver the frames they are written for. -/
theorem deliver_eq_play (none : pair.inbound side = []) (sound : (pair.connection side).Sound)
    (opened : (pair.connection side).closed = false)
    (suits : (pair.session side).Suits (pair.connection side.peer).outbound) :
    let handed := ((pair.session side.peer).deliver (pair.session side)).2
    let after := pair.play (handOver side (pair.connection side.peer).queued.length)
    handed.1 = after.session side.peer ∧ handed.2.connection = after.connection side := by
  obtain ⟨sender, receiver⟩ := Session.deliver_of_suits sound opened suits
  obtain ⟨near, far, -⟩ := play_handOver none
  exact ⟨sender.trans near.symm, receiver.trans (congrArg Session.connection far.symm)⟩

end Pair

namespace Link

variable {link : Link}

def pair (link : Link) : Pair := .start link.client link.server

/-- A round is a pair of hand-overs, first to the server and then to the client. -/
theorem round_eq_play {sent received : List Activity} (client : link.client.Run sent)
    (server : link.server.Run received) (opened : link.client.connection.closed = false)
    (opened' : link.server.connection.closed = false)
    (up : link.server.Suits link.client.connection.outbound)
    (down : (link.client.deliver link.server).2.1.Suits
      (link.client.deliver link.server).2.2.connection.outbound) :
    let after := link.pair.play (Pair.handOver .server link.client.connection.queued.length ++
      Pair.handOver .client (link.client.deliver link.server).2.2.connection.queued.length)
    link.round.2.client.connection = after.connection .client ∧
      link.round.2.server.connection = after.connection .server := by
  intro after
  let middle := link.pair.play (Pair.handOver .server link.client.connection.queued.length)
  obtain ⟨sender, receiver⟩ :=
    @Pair.deliver_eq_play link.pair .server rfl (server.sound opened') opened' up
  have sender : (link.client.deliver link.server).2.1 = middle.session .client := sender
  have receiver : (link.client.deliver link.server).2.2.connection = middle.connection .server :=
    receiver
  obtain ⟨emptied, -, -, nothing⟩ := @Pair.play_handOver link.pair .server rfl
  have emptied : middle.connection .client = { link.client.connection with outbound := [] } :=
    congrArg Session.connection emptied
  have split :
      after = middle.play (Pair.handOver .client (middle.connection .server).queued.length) := by
    rw [← receiver]
    exact foldl_append ..
  rw [sender, receiver] at down
  obtain ⟨sender', receiver'⟩ := @Pair.deliver_eq_play middle .client nothing
    (by rw [emptied]; exact (client.sound opened).congr rfl rfl rfl rfl rfl rfl)
    (by rw [emptied]; exact opened) down
  obtain ⟨near, far⟩ := Session.deliver_congr receiver
  rw [split]
  exact ⟨(congrArg Session.connection far).trans (sender ▸ receiver'),
    near.trans (congrArg Session.connection (sender ▸ sender'))⟩

/-- The preface and the settings of a new client suit a new server. -/
example : (Session.newServer []).Suits Session.newClient.connection.outbound :=
  .inr ⟨rfl, rfl, Session.newClient.connection.outbound.drop 1, rfl,
    .inr ⟨by decide +kernel, trivial⟩⟩

end Link

end Http2
