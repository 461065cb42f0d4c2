import Http2.Proofs.Peers
import Http2.Proofs.Run
import Mathlib.Logic.Function.Basic

/-!
# Credit between two sessions

A `Pair` is a client and a server with the frames on their way between them, in order and intact.
The two take turns in any order: the application calls, time passes, frames leave an end, the next
frame reaches an end.  However they do, no credit is made and none is lost: what a receiver still
expects is what its peer may still send, with the data and the credit in flight.
-/

namespace Http2

namespace Role

@[simp] theorem peer_peer (side : Role) : side.peer.peer = side := by
  cases side <;> rfl

theorem peer_ne (side : Role) : side.peer ≠ side := by
  cases side <;> decide

theorem eq_or_eq_peer (other side : Role) : other = side ∨ other = side.peer := by
  cases other <;> cases side <;> decide

end Role

def Session.handle (session : Session) (frame : Frame) : Session :=
  if session.connection.closed then session
  else { session with connection := session.connection.handle frame }

theorem Session.connection_handle {session : Session} (opened : session.connection.closed = false)
    (frame : Frame) : (session.handle frame).connection = session.connection.handle frame := by
  unfold Session.handle
  rw [if_neg (Bool.eq_false_iff.mp opened)]

theorem Session.consume_of_next {reader after : Reader} {conn : Connection} {frame : Frame}
    (sound : conn.Sound) (opened : conn.closed = false)
    (next : { reader with frameLimit := conn.frameLimit }.next = (.ok (some frame), after)) :
    (consume reader conn).2 =
      if (conn.handle frame).closed then ⟨after, conn.handle frame⟩
      else (consume after (conn.handle frame)).2 := by
  rw [consume]
  split <;> rename_i next' <;> cases next.symm.trans next'
  cases ran : (Connection.receiveFrame frame).run conn with
  | ok _ later =>
    obtain ⟨_, handled⟩ := Connection.accept_handled sound ran
    simp [Connection.handle_of_ok ran, handled.closed, opened]
  | error error later =>
    cases fatal : error.isFatal with
    | true =>
      obtain ⟨_, _, _, ended⟩ := Connection.collapse_ended sound opened ran fatal
      simp [Connection.handle_of_error ran, fatal, ended.closed]
    | false =>
      obtain ⟨_, handled⟩ := Connection.absorb_handled sound ran fatal
      simp [Connection.handle_of_error ran, fatal, handled.closed, opened]

inductive Turn where
  | call (call : Call)
  | close
  | tick (now : Nat)
  | nextEvent
  | takeEvents
  | transmit
  | deliver
  deriving DecidableEq, Repr

structure Pair where
  session : Role → Session
  /-- The frames that have left the other end and are to reach this one. -/
  inbound : Role → List Frame

namespace Pair

variable {session : Session}

def connection (pair : Pair) (side : Role) : Connection := (pair.session side).connection

/-- Everything written for an end that has not reached it, the oldest first. -/
def inFlight (pair : Pair) (side : Role) : List Frame :=
  pair.inbound side ++ (pair.connection side.peer).queued

def put (pair : Pair) (side : Role) (session : Session) : Pair :=
  { pair with session := Function.update pair.session side session }

def step (pair : Pair) (side : Role) : Turn → Pair
  | .call call => pair.put side ((pair.session side).call call).2
  | .close => pair.put side (pair.session side).close
  | .tick now => pair.put side ((pair.session side).tick now).2
  | .nextEvent =>
    match (pair.session side).nextEvent? with
    | none => pair
    | some (_, after) => pair.put side after
  | .takeEvents => pair.put side (pair.session side).takeEvents.2
  | .transmit =>
    { pair.put side (pair.session side).takeOutbound.2 with
      inbound := Function.update pair.inbound side.peer (pair.inFlight side.peer) }
  | .deliver =>
    match pair.inbound side with
    | [] => pair
    | frame :: rest =>
      { pair.put side ((pair.session side).handle frame) with
        inbound := Function.update pair.inbound side rest }

def start (client server : Session) : Pair where
  session
    | .client => client
    | .server => server
  inbound _ := []

inductive Reachable : Pair → Prop
  | start {clientConfig serverConfig : Config} {clientNow serverNow : Nat} {client server : Session}
      (first : Session.create .client clientConfig clientNow = .ok client)
      (second : Session.create .server serverConfig serverNow = .ok server) :
      Reachable (start client server)
  | turn {pair : Pair} (reachable : Reachable pair) (side : Role) (turn : Turn) :
      Reachable (pair.step side turn)

def play (pair : Pair) (turns : List (Role × Turn)) : Pair :=
  turns.foldl (fun pair (side, turn) => pair.step side turn) pair

theorem Reachable.play {pair : Pair} (reachable : pair.Reachable) (turns : List (Role × Turn)) :
    (pair.play turns).Reachable := by
  unfold Pair.play
  induction turns generalizing pair with
  | nil => exact reachable
  | cons first rest ih => exact ih (reachable.turn first.1 first.2)

section Fields

variable (pair : Pair) (side : Role) (session : Session)

@[simp] theorem connection_put_self :
    (pair.put side session).connection side = session.connection := by
  simp [connection, put]

@[simp] theorem connection_put_peer :
    (pair.put side session).connection side.peer = pair.connection side.peer := by
  simp [connection, put, side.peer_ne]

@[simp] theorem inFlight_put_self : (pair.put side session).inFlight side = pair.inFlight side := by
  rw [inFlight, connection_put_peer]
  rfl

variable {pair side} in
theorem connection_deliver {frame : Frame} {rest : List Frame}
    (next : pair.inbound side = frame :: rest) :
    (pair.step side .deliver).connection side = ((pair.session side).handle frame).connection := by
  simp [step, next, connection, put]

end Fields

/-! ## What every turn keeps -/

open Session Connection

def Sound (pair : Pair) : Prop :=
  ∀ side, Linked (pair.connection side) (pair.connection side.peer) (pair.inFlight side)
    (pair.inFlight side.peer)

variable {pair : Pair} {side : Role}

theorem Sound.of_side (side : Role)
    (linked : Linked (pair.connection side) (pair.connection side.peer) (pair.inFlight side)
      (pair.inFlight side.peer)) : pair.Sound := by
  intro other
  rcases Role.eq_or_eq_peer other side with rfl | rfl
  · exact linked
  · simpa using linked.symm

def Gives (pair : Pair) (side : Role) : Turn → Reason → Prop
  | .call call, reason => call.Gives reason
  | .close, reason => reason = .noError
  | .tick _, reason => reason = .settingsTimeout
  | .deliver, reason =>
    ∃ frame rest, pair.inbound side = frame :: rest ∧ (pair.connection side).closed = false ∧
      (pair.connection side).Answers frame reason
  | _, _ => False

/-- The pair is sound after the turn of one end, which has given no reasons but these. -/
structure Fair (reasons : Reason → Prop) (pair : Pair) (side : Role) (after : Pair) : Prop where
  sound : after.Sound
  given : ∀ frame ∈ (after.connection side).queued.drop (pair.connection side).queued.length,
    ∀ reason, frame.reason? = some reason → reasons reason

variable {after : Pair} {reasons : Reason → Prop}

theorem Fair.of_worked {written : List Frame}
    (worked : Worked reasons (pair.connection side) (pair.connection side.peer)
      (after.inFlight side) (pair.inFlight side.peer) written (after.connection side))
    (still : after.connection side.peer = pair.connection side.peer)
    (behind : after.inbound side.peer = pair.inbound side.peer) : Fair reasons pair side after where
  sound := by
    have queue : pair.inFlight side.peer ++ written = after.inFlight side.peer := by
      rw [inFlight, inFlight, Role.peer_peer, behind, worked.queued, List.append_assoc]
    have linked := worked.linked
    rw [queue, ← still] at linked
    exact .of_side side linked
  given frame member := by
    rw [worked.queued, List.drop_left] at member
    exact worked.given frame member

theorem Fair.put
    (works : ∃ written, Worked reasons (pair.connection side) (pair.connection side.peer)
      (pair.inFlight side) (pair.inFlight side.peer) written session.connection) :
    Fair reasons pair side (pair.put side session) := by
  obtain ⟨written, worked⟩ := works
  refine .of_worked (?_ : Worked _ _ _ _ _ written _) (connection_put_peer ..) rfl
  rwa [inFlight_put_self, connection_put_self]

theorem Sound.nothing (sound : pair.Sound) : Fair reasons pair side pair :=
  .of_worked (.nothing (sound side)) rfl rfl

theorem Sound.transmit (sound : pair.Sound) (side : Role) :
    Fair reasons pair side (pair.step side .transmit) where
  sound := by
    have linked := (sound side).taken [] (pair.connection side).events
    refine .of_side side ?_
    have ahead : (pair.step side .transmit).inFlight side = pair.inFlight side := by
      simp [step, inFlight, connection, put, side.peer_ne, side.peer_ne.symm]
    have behind : (pair.step side .transmit).inFlight side.peer = pair.inFlight side.peer := by
      simp [step, inFlight, connection, put, Session.takeOutbound, Connection.queued]
    rw [ahead, behind]
    simpa [step, connection, put, Session.takeOutbound, side.peer_ne] using linked
  given frame member := by
    simp [step, connection, put, Session.takeOutbound, Connection.queued] at member

theorem handle_worked {other : Connection} {frame : Frame} {coming going : List Frame}
    (linked : Linked session.connection other (frame :: coming) going) :
    ∃ written, Worked (fun reason => session.connection.closed = false ∧
        session.connection.Answers frame reason)
      session.connection other coming going written (session.handle frame).connection := by
  cases opened : session.connection.closed with
  | true =>
    have same : session.handle frame = session := if_pos opened
    rw [same]
    exact ⟨[], .nothing (linked.shut opened coming)⟩
  | false =>
    obtain ⟨written, worked⟩ := linked.handle opened
    rw [connection_handle opened]
    exact ⟨written, worked.mono fun _ answers => ⟨rfl, answers⟩⟩

theorem Sound.deliver (sound : pair.Sound) (side : Role) :
    Fair (pair.Gives side .deliver) pair side (pair.step side .deliver) := by
  cases next : pair.inbound side with
  | nil =>
    have same : pair.step side .deliver = pair := by
      simp only [step, next]
    rw [same]
    exact sound.nothing
  | cons frame rest =>
    have linked := sound side
    rw [inFlight, next, List.cons_append] at linked
    obtain ⟨written, worked⟩ := handle_worked linked
    have still : (pair.step side .deliver).connection side.peer = pair.connection side.peer := by
      simp [step, next, connection, put, side.peer_ne]
    have ahead : (pair.step side .deliver).inFlight side = rest ++
        (pair.connection side.peer).queued := by
      rw [inFlight, still]
      simp [step, next]
    have behind : (pair.step side .deliver).inbound side.peer = pair.inbound side.peer := by
      simp [step, next, put, side.peer_ne]
    refine .of_worked (?_ : Worked _ _ _ _ _ written _) still behind
    rw [ahead, connection_deliver next]
    exact worked.mono fun _ answers => ⟨frame, rest, next, answers⟩

theorem step_fair (sound : pair.Sound) (side : Role) (turn : Turn) :
    Fair (pair.Gives side turn) pair side (pair.step side turn) := by
  cases turn with
  | call call =>
    refine .put ?_
    rw [connection_call]
    exact (sound side).called call
  | close => exact .put (sound side).close
  | tick now =>
    refine .put ?_
    rcases connection_tick _ now with same | ⟨-, same⟩ <;> rw [same]
    · exact ⟨[], .nothing (sound side)⟩
    · obtain ⟨written, worked⟩ := (sound side).fail (.connection .settingsTimeout)
      exact ⟨written, worked.mono fun _ same => same⟩
  | nextEvent =>
    simp only [step, nextEvent?]
    split
    · exact sound.nothing
    · rename_i heq
      split at heq
      · cases heq
      · cases heq
        exact .put ⟨[], .told (sound side) _⟩
  | takeEvents => exact .put ⟨[], .told (sound side) _⟩
  | transmit => exact sound.transmit side
  | deliver => exact sound.deliver side

/-! ## From the start -/

theorem fresh_balances (role : Role) (config : Config) {id : Nat} {balance : Int}
    (held : (fresh role config).sendBalance id = some balance ∨
      (fresh role config).receiveBalance id = some balance) : balance = 0 := by
  have none : balanceIn .default (fresh role config).registry id =
      some balance := by
    rcases held with held | held <;> exact held
  unfold balanceIn at none
  rw [Windows.balance?_eq_none_iff.mpr rfl, Option.none_or] at none
  split at none
  · exact (Option.some.inj none).symm
  · cases none

theorem fresh_linked (role other : Role) (config config' : Config) :
    Linked (fresh role config) (fresh other config') [] [] := by
  have safe : ∀ role config, (fresh role config).Safe [] := by
    intro role config
    refine ⟨?_, ?_, ?_, ?_, nofun, Nat.zero_le _⟩
    · exact (by decide : ((0 : Nat) : Int) ≤ defaultWindow)
    · intro before frame rest split
      simp at split
    · exact (by decide : (defaultWindow : Int) + (0 : Nat) ≤ maxWindow)
    · intro id balance held
      rw [fresh_balances role config (.inl held)]
      exact Int.le_refl 0
  have agrees : ∀ role config other config',
      Connection.Agrees (fresh role config) (fresh other config') [] [] := by
    intro role config other config'
    refine ⟨rfl, ?_, rfl, rfl⟩
    intro id received left held spent
    rw [fresh_balances other config' (.inr held), fresh_balances role config (.inl spent)]
    rfl
  exact ⟨fun _ => ⟨fresh_sound role config, safe role config⟩,
    fun _ => ⟨fresh_sound other config', safe other config'⟩,
    fun _ _ => ⟨agrees other config' role config, agrees role config other config'⟩⟩

theorem created_linked {role : Role} {config : Config} {now : Nat} {other : Connection}
    {coming : List Frame} (created : create role config now = .ok session)
    (linked : Linked (fresh role config) other coming []) :
    Linked session.connection other coming session.connection.queued := by
  have next : ∀ {conn : Connection} (call : Call), Linked conn other coming conn.queued →
      Linked (conn.called call) other coming (conn.called call).queued := by
    intro conn call linked
    obtain ⟨written, worked⟩ := linked.called call
    rw [worked.queued]
    exact worked.linked
  have none : (fresh role config).queued = [] := by
    cases role <;> rfl
  rw [← none] at linked
  exact create_induct (motive := fun conn => Linked conn other coming conn.queued) created linked
    fun _ _ => next _

theorem Reachable.sound (reachable : pair.Reachable) : pair.Sound := by
  induction reachable with
  | @start clientConfig serverConfig _ _ client server first second =>
    have fresh := fresh_linked .client .server clientConfig serverConfig
    have linked := created_linked first fresh
    have linked := created_linked second linked.symm
    exact .of_side .server linked
  | turn _ side turn ih => exact (step_fair ih side turn).sound

/-! ## Credit is conserved -/

/-- As long as neither session is closed, the window of a receiver is that of its peer with the data
and the credit in flight, on the connection and, counted from the initial windows, on every stream
that is live at both ends. -/
theorem credit_conserved (reachable : pair.Reachable)
    (opened : ∀ side, (pair.connection side).closed = false) (side : Role) :
    (pair.connection side).receiveWindows.connection =
        (pair.connection side.peer).sendWindows.connection + charged (pair.inFlight side) +
          granted 0 (pair.inFlight side.peer) ∧
    ∀ id,
      (∀ side, ∃ stream, (pair.connection side).registry.get? id = some stream ∧ stream.isLive) →
      ∃ received left, (pair.connection side).receiveWindows.stream? id = some received ∧
        (pair.connection side.peer).sendWindows.stream? id = some left ∧
        received - (pair.connection side).receiveInitial =
          (left - (pair.connection side.peer).exchange.peer.initialWindowSize) +
            chargedOn id (pair.inFlight side) + granted id (pair.inFlight side.peer) := by
  have linked := reachable.sound side
  obtain ⟨sound, -⟩ := linked.here (opened side)
  obtain ⟨sound', -⟩ := linked.there (opened side.peer)
  obtain ⟨agrees, -⟩ := linked.agree (opened side) (opened side.peer)
  refine ⟨agrees.connection, fun id live => ?_⟩
  obtain ⟨stream, held, alive⟩ := live side
  obtain ⟨stream', held', alive'⟩ := live side.peer
  obtain ⟨window, found⟩ := sound.receiveWindow_of_live held alive
  obtain ⟨window', found'⟩ := sound'.sendWindow_of_live held' alive'
  have books := agrees.stream id _ _ (Connection.balanceIn_of_window found)
    (Connection.balanceIn_of_window found')
  rw [sound.receiveInitial, sound'.sendInitial] at books
  exact ⟨window, window', found, found', books⟩

/-- Two octets of data are on their way to the server.  Credit for two others is on its way to the
client, and behind it the news that the initial window has shrunk. -/
def crossing : Pair := (start Session.newClient (Session.newServer [(.initialWindowSize, 4)])).play
  [(.server, .transmit), (.client, .deliver), (.client, .call (.createStream [] none false)),
    (.client, .call (.sendData 1 [1, 2] false)), (.client, .call (.sendData 1 [3, 4] false)),
    (.client, .transmit), (.server, .deliver), (.server, .deliver), (.server, .deliver),
    (.server, .deliver), (.server, .call (.sendSettings [(.initialWindowSize, 2)] 0))]

theorem reachable_crossing : crossing.Reachable := by
  have created : create .server { settings := [(.initialWindowSize, 4)] } 0 =
      .ok (newServer [(.initialWindowSize, 4)]) := rfl
  exact (Reachable.start create_newClient created).play _

theorem credit_conserved_crossing :
    chargedOn 1 (crossing.inFlight .server) = 2 ∧ granted 1 (crossing.inFlight .client) = 2 ∧
    announcements (crossing.inFlight .client) = [[(4, 2)]] ∧
    ∃ received left, (crossing.connection .server).receiveWindows.stream? 1 = some received ∧
      (crossing.connection .client).sendWindows.stream? 1 = some left ∧
      received - (crossing.connection .server).receiveInitial =
        (left - (crossing.connection .client).exchange.peer.initialWindowSize) +
          chargedOn 1 (crossing.inFlight .server) + granted 1 (crossing.inFlight .client) := by
  have opened : ∀ side, (crossing.connection side).closed = false := by
    rintro (_ | _) <;> decide +kernel
  have live : ∀ side, ∃ stream,
      (crossing.connection side).registry.get? 1 = some stream ∧ stream.isLive := by
    have both : ∀ side, ((crossing.connection side).registry.get? 1).any Stream.isLive = true := by
      rintro (_ | _) <;> decide +kernel
    intro side
    exact (Option.any_eq_true _ _).mp (both side)
  exact ⟨by decide +kernel, by decide +kernel, by decide +kernel,
    (credit_conserved reachable_crossing opened .server).2 1 live⟩

end Pair

end Http2
