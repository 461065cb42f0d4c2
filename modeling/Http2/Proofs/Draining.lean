import Http2.Proofs.Parking
import Http2.Proofs.Silence
import Http2.Proofs.Turns
import Mathlib.Data.List.Nodup

/-!
# How much a stream sends

Flushing a stream sends as much of its data as its window and that of the connection allow, in
frames that the peer takes, and not an octet less.  If everything has gone out, the trailers or the
end of the stream follow; if not, the stream waits.  `Drained` says all of this, and what becomes of
the windows, the queue and the phase of the stream.
-/

namespace Http2

open Windows Http2.Stream List

/-! ## Windows after sending -/

namespace Windows

def spent (windows : Windows) (id count : Nat) : Windows :=
  { windows with
    connection := windows.connection - count
    streams := windows.streams.modify id (· - (count : Int)) }

variable (windows : Windows) (id : Nat)

private theorem stream?_spent (count other : Nat) :
    (windows.spent id count).stream? other =
      if other = id then (windows.stream? other).map (· - (count : Int)) else windows.stream?
        other :=
  IdMap.get?_modify windows.streams id other _

private theorem spent_zero : windows.spent id 0 = windows := by
  have streams : windows.streams.modify id (· - ((0 : Nat) : Int)) = windows.streams := by
    apply IdMap.ext
    intro other
    rw [IdMap.get?_modify]
    simp
  rw [spent, streams]
  simp

private theorem spent_spent (first second : Nat) :
    (windows.spent id first).spent id second = windows.spent id (first + second) := by
  have streams : (windows.streams.modify id (· - (first : Int))).modify id (· - (second : Int)) =
      windows.streams.modify id (· - ((first + second : Nat) : Int)) := by
    apply IdMap.ext
    intro other
    simp only [IdMap.get?_modify]
    split
    · rw [Option.map_map]
      congr 1
      funext window
      simp only [Function.comp_apply]
      omega
    · rfl
  simp only [spent, streams]
  congr 1
  omega

private theorem available_spent (count : Nat) :
    (windows.spent id count).available id = windows.available id - count := by
  unfold available
  rw [stream?_spent, if_pos rfl]
  simp only [spent]
  cases windows.stream? id with
  | none =>
    simp only [Option.getD_none, Option.map_none]
    omega
  | some window =>
    simp only [Option.getD_some, Option.map_some]
    omega

end Windows

/-! ## Data -/

def dataFrames (id : Nat) (closing : Bool) : List Octets → List Frame
  | [] => []
  | [piece] => [.data id piece closing none]
  | piece :: rest => .data id piece false none :: dataFrames id closing rest

private theorem dataFrames_cons {id : Nat} {closing : Bool} {piece : Octets} {rest : List Octets}
    (more : rest ≠ []) :
    dataFrames id closing (piece :: rest) = .data id piece false none ::
      dataFrames id closing rest := by
  cases rest with
  | nil => exact absurd rfl more
  | cons => rfl

namespace Connection

variable {conn : Connection} {id limit count : Nat} {queue : Buffer} {piece : Octets}

def sentOn (conn : Connection) (id : Nat) (closing : Bool) (pieces : List Octets) : Connection :=
  { conn with
    sendWindows := conn.sendWindows.spent id pieces.flatten.length
    outbound := conn.outbound ++
      (dataFrames id closing pieces).map (.frame conn.exchange.peer.maxFrameSize) }

private theorem isEmpty_flatten {pieces : List Octets} (full : ∀ piece ∈ pieces, piece ≠ []) :
    pieces.flatten.isEmpty = pieces.isEmpty := by
  cases pieces with
  | nil => rfl
  | cons piece rest =>
    have first : piece ≠ [] := full piece mem_cons_self
    simp [first]

private theorem isEmpty_octets (exact : queue.Exact) :
    queue.octets.isEmpty = decide (queue.length = 0) := by
  rw [← exact.length_octets, ← Bool.coe_iff_coe, List.isEmpty_iff, decide_eq_true_iff,
    length_eq_zero_iff]

private theorem sentOn_nil (conn : Connection) (id : Nat) (closing : Bool) :
    conn.sentOn id closing [] = conn := by
  simp [sentOn, dataFrames, spent_zero]

private theorem sentOn_cons {sent : List Octets} {closing flag : Bool} (conn : Connection)
    (length : piece.length = count) (last : sent = [] → flag = closing)
    (before : sent ≠ [] → flag = false) :
    ({ conn with sendWindows := conn.sendWindows.spent id count }.write
      (.data id piece flag none)).sentOn id closing sent =
      conn.sentOn id closing (piece :: sent) := by
  have frames : .data id piece flag none :: dataFrames id closing sent =
      dataFrames id closing (piece :: sent) := by
    cases sent with
    | nil => simp [dataFrames, last rfl]
    | cons next rest => rw [dataFrames_cons (cons_ne_nil next rest), before (cons_ne_nil next rest)]
  simp only [sentOn, write, spent_spent, flatten_cons, length_append, length, ← frames,
    map_cons, append_assoc, singleton_append]

/-- A queue is sent as far as the credit goes, in frames of at most the limit. -/
theorem sendQueue_drains (closing : Bool) (positive : 0 < limit) (exact : queue.Exact) :
    ∃ sent, (∀ piece ∈ sent, piece ≠ [] ∧ piece.length ≤ limit) ∧
      sent.flatten = queue.octets.take (conn.sendWindows.available id) ∧
      (sendQueue id limit closing queue conn).1.octets =
        queue.octets.drop (conn.sendWindows.available id) ∧
      (sendQueue id limit closing queue conn).2 = conn.sentOn id
        (closing && (sendQueue id limit closing queue conn).1.length = 0) sent := by
  fun_induction sendQueue id limit closing queue conn with
  | case1 conn =>
    exact ⟨[], by simp, by simp [Buffer.octets], by simp [Buffer.octets], (sentOn_nil ..).symm⟩
  | case2 conn piece rest length count spent =>
    have full : piece.length ≠ 0 := by
      rw [Ne, length_eq_zero_iff]
      exact exact.filled piece mem_cons_self
    have dry : conn.sendWindows.available id = 0 := by
      simp only [count] at spent
      omega
    exact ⟨[], by simp, by simp [dry], by simp [dry], (sentOn_nil ..).symm⟩
  | case3 conn piece rest length count spent error failed =>
    obtain ⟨windows, charged⟩ := charge_of_le_available
      (show count ≤ conn.sendWindows.available id by simp only [count]; omega) (by omega)
    rw [charged] at failed
    cases failed
  | case4 conn piece rest length count spent windows charged left ih =>
    have short : count ≤ piece.length := by simp only [count]; omega
    have small : count ≤ limit := by simp only [count]; omega
    have fits : count ≤ conn.sendWindows.available id := by simp only [count]; omega
    obtain ⟨-, -, rfl⟩ := charge_eq charged
    have exactly : left.Exact := exact.cut short
    have remaining := fun next => isEmpty_octets (exact_sendQueue id limit closing next exactly)
    obtain ⟨sent, sized, passed, kept, after⟩ := ih exactly
    have taken : (piece.take count).length = count := length_take_of_le short
    have most : (piece.take count).length ≤ conn.sendWindows.available id := by rwa [taken]
    have whole := (exact.splits_cut short).octets
    have credit : (conn.sendWindows.spent id count).available id =
        conn.sendWindows.available id - count := available_spent _ id count
    replace passed := passed.trans (congrArg (left.octets.take ·) credit)
    replace kept := kept.trans (congrArg (left.octets.drop ·) credit)
    refine ⟨piece.take count :: sent, ?_, ?_, ?_, ?_⟩
    · refine forall_mem_cons.mpr ⟨⟨?_, by rwa [taken]⟩, sized⟩
      intro empty
      rw [empty] at taken
      exact spent taken.symm
    · rw [flatten_cons, passed, whole, take_append, take_of_length_le most, taken]
    · rw [kept, whole, drop_append, drop_of_length_le most, nil_append, taken]
    · rw [after]
      have remains := (congrArg List.isEmpty kept).symm.trans (remaining _)
      -- the last frame leaves nothing queued, and any other leaves the next one
      refine sentOn_cons conn taken ?_ ?_
      · rintro rfl
        have same := take_append_drop (conn.sendWindows.available id - count) left.octets
        rw [← passed, flatten_nil, nil_append] at same
        rw [← remains, same, isEmpty_octets exactly]
      · intro some
        have more : left.octets ≠ [] := by
          intro empty
          rw [empty, take_nil] at passed
          have none := isEmpty_flatten fun piece member => (sized piece member).1
          rw [passed] at none
          exact some (List.isEmpty_iff.mp none.symm)
        rw [← isEmpty_octets exactly, isEmpty_eq_false_iff.mpr more, Bool.and_false]

end Connection

/-! ## Flushing a stream -/

/-- What a stream sends: data, and if that is the whole of it the trailers or the end. -/
def Stream.sendings (stream : Stream) (id : Nat) (encoder : Header.Table) (whole : Bool)
    (pieces : List Octets) : List Frame :=
  if whole then
    match stream.trailers with
    | some fields =>
      dataFrames id false pieces ++ [.headers id none (Header.encodeBlock encoder fields).1 true]
    | none =>
      if stream.endQueued then
        if pieces = [] then [.data id [] true none] else dataFrames id true pieces
      else dataFrames id false pieces
  else dataFrames id false pieces

def Stream.leftover (stream : Stream) (ended : Bool) (left : Buffer) : Cargo :=
  if ended then ⟨(stream.phase.next? .sendEnd).getD stream.phase, {}, none, false⟩
  else ⟨stream.phase, left, stream.trailers, stream.endQueued⟩

namespace Connection

variable {conn after : Connection} {id : Nat} {stream : Stream}
  {pieces : List Octets} {left : Buffer} {f : Stream → Stream}

def passing (conn : Connection) (id : Nat) (stream : Stream) : Nat :=
  min (conn.sendWindows.available id) stream.buffered

def covers (conn : Connection) (id : Nat) (stream : Stream) : Bool :=
  stream.buffered ≤ conn.sendWindows.available id

/-- As much of the data of a stream as may go out is in `pieces`, and the rest is `left`. -/
structure Portioned (conn : Connection) (id : Nat) (stream : Stream) (pieces : List Octets)
    (left : Buffer) : Prop where
  sized : ∀ piece ∈ pieces, piece ≠ [] ∧ piece.length ≤ conn.exchange.peer.maxFrameSize
  sent : pieces.flatten = stream.queue.octets.take (conn.passing id stream)
  kept : left.octets = stream.queue.octets.drop (conn.passing id stream)
  exact : left.Exact

/-- What becomes of a connection when a stream is flushed. -/
structure Drained (conn : Connection) (id : Nat) (stream : Stream) (pieces : List Octets)
    (left : Buffer) (after : Connection) : Prop extends conn.Portioned id stream pieces left where
  outbound : after.outbound = conn.outbound ++
    (stream.sendings id conn.encoder (conn.covers id stream) pieces).map
      (.frame conn.exchange.peer.maxFrameSize)
  exchange : after.exchange = conn.exchange
  credit : after.sendWindows.connection = conn.sendWindows.connection - conn.passing id stream
  cargo : ∀ other, after.registry.cargo? other =
    if other = id then
      some (stream.leftover (conn.covers id stream && stream.endQueued) left) |>.filter Cargo.isLive
    else conn.registry.cargo? other
  windows : ∀ other, after.sendWindows.stream? other =
    if other = id then
      if after.registry.cargo? id = none then none
      else (conn.sendWindows.stream? id).map (· - (conn.passing id stream : Int))
    else conn.sendWindows.stream? other
  parked : after.sendWindows.parked =
    if conn.covers id stream then
      if after.registry.cargo? id = none then conn.sendWindows.parked.erase id
      else conn.sendWindows.parked
    else if id ∈ conn.sendWindows.parked then conn.sendWindows.parked
    else conn.sendWindows.parked ++ [id]

private theorem exists_sent (sound : conn.Sound) (held : conn.registry.get? id = some stream)
    (closing : Bool) :
    ∃ pieces left, conn.Portioned id stream pieces left ∧
      (left.length = 0 ↔ conn.covers id stream) ∧
      sendQueue id conn.exchange.peer.maxFrameSize closing stream.queue conn =
        (left, conn.sentOn id (closing && conn.covers id stream) pieces) := by
  have exact := sound.registry.exact held
  have exactly := exact_sendQueue id conn.exchange.peer.maxFrameSize closing conn exact
  obtain ⟨pieces, sized, sent, kept, after⟩ :=
    @sendQueue_drains conn id _ stream.queue closing sound.exchange.peer.maxFrameSize_pos exact
  have length : stream.queue.octets.length = stream.buffered := exact.length_octets
  have empty : (sendQueue id conn.exchange.peer.maxFrameSize closing stream.queue conn).1.length =
      0 ↔
      conn.covers id stream := by
    rw [← exactly.length_octets, kept, length_eq_zero_iff, drop_eq_nil_iff, length, covers,
      decide_eq_true_iff]
  have whole : conn.passing id stream = conn.sendWindows.available id ∨
      stream.queue.octets.length ≤ conn.passing id stream ∧
        stream.queue.octets.length ≤ conn.sendWindows.available id := by
    unfold passing
    omega
  refine ⟨pieces, _, ⟨sized, ?_, ?_, exactly⟩, empty, ?_⟩
  · rw [sent]
    rcases whole with same | ⟨most, more⟩
    · rw [same]
    · rw [take_of_length_le most, take_of_length_le more]
  · rw [kept]
    rcases whole with same | ⟨most, more⟩
    · rw [same]
    · rw [drop_of_length_le most, drop_of_length_le more]
  · simp only [empty, Bool.decide_eq_true] at after
    rw [← after]

theorem Portioned.length (portioned : conn.Portioned id stream pieces left)
    (exact : stream.queue.Exact) :
    pieces.flatten.length = conn.passing id stream := by
  have all : stream.queue.octets.length = stream.buffered := exact.length_octets
  rw [portioned.sent, length_take, all]
  unfold passing
  omega

theorem Portioned.isEmpty_pieces (portioned : conn.Portioned id stream pieces {})
    (exact : stream.queue.Exact) : pieces.isEmpty = decide (stream.buffered = 0) := by
  have whole := take_append_drop (conn.passing id stream) stream.queue.octets
  rw [← portioned.sent, ← portioned.kept, Buffer.octets_empty, append_nil] at whole
  rw [← isEmpty_flatten fun piece member => (portioned.sized piece member).1, whole,
    isEmpty_octets exact]
  rfl

private theorem cargo?_modifyStream (held : conn.registry.get? id = some stream)
    (live : stream.isLive) (phase : ∀ stream, (f stream).phase = stream.phase) (other : Nat) :
    (conn.modifyStream id f).registry.cargo? other =
      if other = id then some (f stream).cargo else conn.registry.cargo? other := by
  rw [modifyStream, Registry.cargo?_modify fun stream _ => phase stream]
  split
  · rename_i same
    rw [same, held, Option.filter_some, if_pos live, Option.map_some]
  · rfl

private theorem cargo?_settled (sound : conn.registry.Sound) (next : Stream) (other : Nat) :
    (conn.settled id next).registry.cargo? other =
      if other = id then (some next.cargo).filter Cargo.isLive else conn.registry.cargo? other := by
  unfold settled
  simp only [Option.filter_some, isLive_cargo]
  split
  · rename_i live
    simp [Registry.cargo?_insert_live _ _ _ live, @eq_comm _ id other, live]
  · rename_i closed
    have closed : next.isLive = false := by simpa using closed
    exact (sound.cargo?_finish closed other).trans
      (by simp [closed, @eq_comm _ id other])

private theorem sendWindows_settled (conn : Connection) (id : Nat) (next : Stream) :
    (conn.settled id next).sendWindows =
      if next.isLive then conn.sendWindows else conn.sendWindows.closeStream id := by
  unfold settled
  split <;> rfl

theorem Portioned.ended {base : Connection} {current : Stream} {signal : Signal}
    (portioned : conn.Portioned id stream pieces left) (whole : conn.covers id stream)
    (ends : stream.endQueued) (known : base.registry.Sound)
    (holds : base.registry.get? id = some current)
    (empty : current.cargo = ⟨stream.phase, {}, none, false⟩)
    (sends : stream.phase.canSend) (signals : signal = .sendEnd ∨ signal = .sendHeaders true)
    (windows : base.sendWindows = conn.sendWindows.spent id (conn.passing id stream))
    (outbound : base.outbound = conn.outbound ++
      (stream.sendings id conn.encoder (conn.covers id stream) pieces).map
        (.frame conn.exchange.peer.maxFrameSize))
    (exchange : base.exchange = conn.exchange)
    (others : ∀ other, other ≠ id → base.registry.cargo? other = conn.registry.cargo? other) :
    conn.Drained id stream pieces left (base.advanceAnyway id signal) := by
  obtain ⟨phase, moved⟩ : ∃ phase, stream.phase.next? .sendEnd = some phase := by
    cases phase : stream.phase <;> simp_all [Phase.canSend, Phase.next?]
  have turns : stream.phase.next? signal = some phase := by
    rcases signals with rfl | rfl
    · exact moved
    · cases phase : stream.phase <;> simp_all [Phase.canSend, Phase.next?]
  have moves : current.advance? signal = some { current with phase } := by
    rw [Stream.advance?, show current.phase = stream.phase from congrArg Cargo.phase empty, turns]
    rfl
  have cargo : ({ current with phase } : Stream).cargo =
      stream.leftover (conn.covers id stream && stream.endQueued) left := by
    rw [whole, ends]
    simp only [Stream.cargo, Cargo.mk.injEq, leftover, moved] at empty ⊢
    simp [empty]
  have known : ∀ other, (base.settled id { current with phase }).registry.cargo? other =
      if other = id then
        (some (stream.leftover (conn.covers id stream && stream.endQueued) left)).filter
        Cargo.isLive
      else conn.registry.cargo? other := by
    intro other
    rw [cargo?_settled known, cargo]
    split
    · rfl
    · exact others other ‹_›
  have gone : (base.settled id { current with phase }).registry.cargo? id = none ↔
      ¬({ current with phase } : Stream).isLive = true := by
    rw [known, if_pos rfl, ← cargo, Option.filter_some, isLive_cargo]
    split <;> simp_all
  rw [advanceAnyway_eq holds moves]
  refine { portioned with
    outbound := ?_, exchange := ?_, credit := ?_, cargo := known, windows := ?_, parked := ?_ }
  · rw [outbound_settled, outbound]
  · rw [exchange_settled, exchange]
  · rw [sendWindows_settled, windows]
    split <;> rfl
  · intro other
    rw [sendWindows_settled, windows]
    simp only [gone]
    by_cases live : ({ current with phase } : Stream).isLive = true
    · rw [if_pos live, stream?_spent]
      simp only [live, not_true_eq_false, if_false]
      split
      · rename_i same
        rw [same]
      · rfl
    · rw [if_neg live, stream?_closeStream, stream?_spent]
      by_cases same : other = id
      · simp [same, live]
      · simp [same, Ne.symm same]
  · rw [sendWindows_settled, windows, whole]
    simp only [gone, if_true]
    by_cases live : ({ current with phase } : Stream).isLive = true
    · simp [live, spent]
    · simp [live, spent, closeStream, unpark]

theorem Portioned.unended (portioned : conn.Portioned id stream pieces left)
    (held : conn.registry.get? id = some stream) (sends : stream.phase.canSend)
    (lasts : (conn.covers id stream && stream.endQueued) = false)
    (registry : after.registry =
      conn.registry.modify id fun stream => { stream with queue := left })
    (outbound : after.outbound = conn.outbound ++
      (stream.sendings id conn.encoder (conn.covers id stream) pieces).map
        (.frame conn.exchange.peer.maxFrameSize))
    (exchange : after.exchange = conn.exchange)
    (windows : after.sendWindows =
      if conn.covers id stream then conn.sendWindows.spent id (conn.passing id stream)
      else (conn.sendWindows.spent id (conn.passing id stream)).park id) :
    conn.Drained id stream pieces left after := by
  have cargo : ∀ other, after.registry.cargo? other =
      if other = id then some ⟨stream.phase, left, stream.trailers, stream.endQueued⟩
      else conn.registry.cargo? other := by
    rw [registry]
    exact cargo?_modifyStream held (isLive_of_canSend sends) fun _ => rfl
  have present : after.registry.cargo? id ≠ none := by simp [cargo]
  refine { portioned with
    outbound, exchange, credit := ?_, cargo := ?_, windows := ?_, parked := ?_ }
  · rw [windows]
    split <;> simp [spent]
  · intro other
    have live : Cargo.isLive ⟨stream.phase, left, stream.trailers, stream.endQueued⟩ = true :=
      isLive_of_canSend sends
    rw [cargo, lasts]
    simp [leftover, Option.filter_some, live]
  · intro other
    have streams : after.sendWindows.stream? other =
        (conn.sendWindows.spent id (conn.passing id stream)).stream? other := by
      rw [windows]
      split
      · rfl
      · exact stream?_park ..
    rw [streams, stream?_spent, if_neg present]
    split
    · rename_i same
      rw [same]
    · rfl
  · rw [windows, if_neg present]
    split
    · rfl
    · exact parked_park ..

theorem flush_of_unable
    (unable : ¬∃ stream, conn.registry.get? id = some stream ∧ stream.phase.canSend) :
    conn.flush id = conn := by
  unfold flush
  split
  · rfl
  · rename_i stream held
    exact if_neg fun sends => unable ⟨stream, held, sends⟩

theorem flush_drained (sound : conn.Sound) (held : conn.registry.get? id = some stream)
    (sends : stream.phase.canSend) :
    ∃ pieces left, conn.Drained id stream pieces left (conn.flush id) := by
  obtain ⟨pieces, left, portioned, empty, sent⟩ :=
    exists_sent sound held (stream.endQueued && stream.trailers.isNone)
  have exact := sound.registry.exact held
  refine ⟨pieces, left, ?_⟩
  have windows (closing : Bool) : (conn.sentOn id closing pieces).sendWindows =
      conn.sendWindows.spent id (conn.passing id stream) := by
    rw [← portioned.length exact]
    rfl
  rw [flush, held]
  simp only [if_pos sends, sent, finishFlush, empty]
  cases whole : conn.covers id stream with
  | false =>
    simp only [Bool.and_false, Bool.false_eq_true, if_false]
    refine portioned.unended held sends (by rw [whole, Bool.false_and]) rfl ?_ rfl ?_
    · rw [whole]
      rfl
    · rw [whole, ← windows false]
      rfl
  | true =>
    have all : left = {} := portioned.exact.length_eq_zero_iff.mp (empty.mpr whole)
    have known : ((conn.registry.modify id fun stream => { stream with queue := left }).modify id
        endSent).Sound :=
      (sound.moves ((moves_of_sent held sends sent).tail (.endSent _ id) : Moves Mild _ _)).registry
    have queued := get?_modifyStream (f := fun stream => { stream with queue := left }) held
    have holds := get?_modifyStream (f := endSent) queued
    have cargo : ({ stream with queue := left } : Stream).endSent.cargo =
      ⟨stream.phase, {}, none, false⟩ := by
      rw [all]
      rfl
    have others : ∀ other, other ≠ id →
        ((conn.registry.modify id fun stream => { stream with queue := left }).modify id
          endSent).cargo? other = conn.registry.cargo? other := by
      intro other apart
      simp only [Registry.cargo?, Registry.held?, Registry.get?_modify, if_neg apart]
    simp only [Bool.and_true, if_true]
    cases waits : stream.trailers with
    | some fields =>
      have ends : stream.endQueued :=
        (sound.registry.cargo held).trailers (congrArg Option.isSome waits)
      simp only [Option.isNone_some, Bool.and_false]
      refine portioned.ended whole ends known holds cargo sends (.inr rfl) (windows false) ?_
        rfl others
      simp only [sendings, whole, waits, if_true, map_append, ← append_assoc]
      rfl
    | none =>
      cases ends : stream.endQueued with
      | false =>
        simp only [Bool.false_and, Bool.false_eq_true, if_false]
        refine portioned.unended held sends (by rw [ends, Bool.and_false]) rfl ?_ rfl ?_
        · simp only [sendings, whole, waits, ends]
          rfl
        · rw [whole, ← windows false]
          rfl
      | true =>
        simp only [Option.isNone_none, Bool.and_true, if_true]
        subst all
        have pieces_none := portioned.isEmpty_pieces exact
        split
        · rename_i nothing
          obtain rfl : pieces = [] :=
            List.isEmpty_iff.mp (pieces_none.trans (decide_eq_true nothing))
          refine portioned.ended whole ends known holds cargo sends (.inl rfl) (windows true) ?_
            rfl others
          simp only [sendings, whole, waits, ends, if_true]
          exact congrArg (·.outbound ++ _) (sentOn_nil conn id true)
        · rename_i something
          have some : pieces ≠ [] := by
            rintro rfl
            exact something (of_decide_eq_true pieces_none.symm)
          refine portioned.ended whole ends known holds cargo sends (.inl rfl) (windows true) ?_
            rfl others
          simp only [sendings, whole, waits, ends, if_true, if_neg some]
          rfl

/-! ## The end of the stream -/

private theorem any_endsStream_dataFrames (id : Nat) (closing : Bool) (pieces : List Octets) :
    (dataFrames id closing pieces).any (Frame.endsStream id) = (closing && !pieces.isEmpty) := by
  induction pieces with
  | nil => simp [dataFrames]
  | cons piece rest ih =>
    cases rest with
    | nil => simp [dataFrames, Frame.endsStream]
    | cons => simpa [dataFrames, Frame.endsStream] using ih

private theorem any_endsStream_sendings (encoder : Header.Table) (whole : Bool)
    (trailing : stream.trailers.isSome → stream.endQueued) :
    (stream.sendings id encoder whole pieces).any (Frame.endsStream id) =
      (whole && stream.endQueued) := by
  unfold sendings
  cases whole with
  | false => simp [any_endsStream_dataFrames]
  | true =>
    cases waits : stream.trailers with
    | some fields =>
      simp [any_endsStream_dataFrames, Frame.endsStream, trailing (by rw [waits]; rfl)]
    | none =>
      cases ends : stream.endQueued with
      | false => simp [any_endsStream_dataFrames]
      | true =>
        cases pieces with
        | nil => simp [Frame.endsStream]
        | cons => simp [any_endsStream_dataFrames]

private theorem phase?_of_cargo? {cargo : Cargo} (held : conn.registry.cargo? id = some cargo) :
    conn.phase? id = some cargo.phase := by
  obtain ⟨stream, found, -, rfl⟩ := Registry.cargo?_eq_some_iff.mp held
  rw [phase?, Registry.phase?, found]
  rfl

private theorem getD_phase?_of_gone (gone : conn.registry.cargo? id = none) :
    (conn.phase? id).getD .closed = .closed := by
  cases held : conn.registry.get? id with
  | none => rw [phase?_eq_none_iff.mpr held, Option.getD_none]
  | some stream =>
    have dead : stream.isLive = false := by
      cases live : stream.isLive with
      | false => rfl
      | true => simp [Registry.cargo?_of_get? held live] at gone
    have closed : stream.phase = .closed := by simpa [Stream.isLive, Phase.isClosed] using dead
    rw [phase?, Registry.phase?, held, Option.map_some, Option.getD_some, closed]

theorem Drained.phase (drained : conn.Drained id stream pieces left after)
    (sends : stream.phase.canSend) (trailing : stream.trailers.isSome → stream.endQueued) :
    if (stream.sendings id conn.encoder (conn.covers id stream) pieces).any
      (Frame.endsStream id) then
      stream.phase.next? .sendEnd = some ((after.phase? id).getD .closed)
    else after.phase? id = some stream.phase := by
  have cargo := drained.cargo id
  rw [if_pos rfl, Option.filter_some] at cargo
  rw [any_endsStream_sendings _ _ trailing]
  cases ended : conn.covers id stream && stream.endQueued with
  | false =>
    rw [ended, leftover, if_neg Bool.false_ne_true, if_pos] at cargo
    · exact phase?_of_cargo? cargo
    · exact isLive_of_canSend sends
  | true =>
    rw [ended, leftover, if_pos rfl] at cargo
    rw [if_pos rfl]
    cases phase : stream.phase <;> simp only [phase, Phase.canSend, Bool.false_eq_true] at sends
    · rw [phase?_of_cargo? (cargo.trans (by rw [phase]; rfl))]
      rfl
    · rw [getD_phase?_of_gone (cargo.trans (by rw [phase]; rfl))]
      rfl

/-! ## The connections on which streams are flushed -/

/-- What is done to a connection before a stream is flushed, and between two flushes: something is
queued, credit comes in or settings are taken over. -/
inductive Nudge (conn : Connection) : Connection → Prop
  | queued {id : Nat} {stream : Stream} (held : conn.registry.get? id = some stream)
      (sends : stream.phase.canSend) (octets : Octets) (endStream : Bool) :
      Nudge conn (conn.modifyStream id (·.enqueue octets endStream))
  | trailed {id : Nat} {stream : Stream} (held : conn.registry.get? id = some stream)
      (sends : stream.phase.canSend) (fields : List Field) :
      Nudge conn (conn.modifyStream id (·.enqueueTrailers fields))
  | credited {id increment : Nat} {crossed : Bool} {windows : Windows}
      (entered : conn.sendWindows.credit id increment = .ok crossed windows) :
      Nudge conn { conn with sendWindows := windows }
  | learned {parameters : List (Nat × Nat)} {changes : List (Setting × Nat)} {crossed : List Nat}
      {windows : Windows} (read : Exchange.readParameters parameters = .ok changes)
      (shifts : Slides conn.sendWindows (Commit.windowDelta ⟨conn.exchange.peer,
        conn.exchange.peer.apply (conn.exchange.staged.getD [] ++ changes)⟩) crossed windows) :
      Nudge conn { conn.learned (conn.exchange.staged.getD [] ++ changes) with
        sendWindows := windows }
  | unparked (id : Nat) : Nudge conn { conn with sendWindows := conn.sendWindows.unpark id }
  | flushed (id : Nat) : Nudge conn (conn.flush id)

abbrev Nudged : Connection → Connection → Prop := Relation.ReflTransGen Nudge

/-- A connection between two uses of its session, or one in which something is queued, credit has
come in or settings have been taken over, and streams are flushed one after the other. -/
def Primed (conn : Connection) : Prop :=
  ∃ (session : Session) (log : List Activity),
    session.Run log ∧ session.connection.closed = false ∧ session.connection.Nudged conn

theorem Sound.flush (sound : conn.Sound) (id : Nat) : (conn.flush id).Sound :=
  sound.moves (flush_flushed conn id : Flushed Mild _ _ _).moves

private theorem nodup_flush (sound : conn.Sound) (nodup : conn.sendWindows.parked.Nodup)
    (id : Nat) :
    (conn.flush id).sendWindows.parked.Nodup := by
  by_cases able : ∃ stream, conn.registry.get? id = some stream ∧ stream.phase.canSend
  · obtain ⟨stream, held, sends⟩ := able
    obtain ⟨pieces, left, drained⟩ := flush_drained sound held sends
    rw [drained.parked]
    split
    · split
      · exact nodup.erase id
      · exact nodup
    · split
      · exact nodup
      · rename_i absent
        exact Nodup.append nodup (nodup_singleton id) (disjoint_singleton.mpr absent)
  · rw [flush_of_unable able]
    exact nodup

theorem Sound.queued (sound : conn.Sound) (held : conn.registry.get? id = some stream)
    (phase : (f stream).phase = stream.phase) (fits : stream.cargo.Sound → (f stream).cargo.Sound) :
    (conn.modifyStream id f).Sound := by
  apply sound.requeue
  intro other found
  obtain rfl : stream = other := Option.some.inj (held.symm.trans found)
  exact ⟨phase, fits⟩

theorem Sound.credited {increment : Nat} {crossed : Bool} {windows : Windows} (sound : conn.Sound)
    (entered : conn.sendWindows.credit id increment = .ok crossed windows) :
    { conn with sendWindows := windows }.Sound ∧ windows.parked = conn.sendWindows.parked := by
  by_cases stands : id = 0
  · subst stands
    obtain ⟨fits, -, rfl⟩ := credit_connection_eq entered
    exact ⟨(entered_connectionCredit sound fits).sound, rfl⟩
  · cases held : conn.sendWindows.stream? id with
    | none =>
      simp only [credit, window?, if_neg stands, held] at entered
      cases entered
      exact ⟨sound, rfl⟩
    | some window =>
      obtain ⟨fits, -, rfl⟩ := credit_stream_eq stands held entered
      refine ⟨(entered_streamCredit sound stands held fits).sound, ?_⟩
      simp [setWindow, stands]

theorem Nudge.sound (nudge : conn.Nudge after) (sound : conn.Sound) :
    after.Sound ∧ (conn.sendWindows.parked.Nodup → after.sendWindows.parked.Nodup) := by
  cases nudge with
  | queued held sends octets endStream =>
    exact ⟨sound.queued held rfl (enqueue_sound octets endStream sends), fun nodup => nodup⟩
  | trailed held sends fields =>
    exact ⟨sound.queued held rfl (enqueueTrailers_sound fields sends), fun nodup => nodup⟩
  | credited entered =>
    obtain ⟨sound, same⟩ := sound.credited entered
    exact ⟨sound, fun nodup => same ▸ nodup⟩
  | learned read shifts =>
    have unstaged := sound.exchange.staged
    rw [unstaged, Option.getD_none, nil_append] at shifts ⊢
    have shifted := shifts.shifted sound read
    have sound := (entered_settings sound read shifted).sound
    rw [Connection.learned, ← unstaged]
    exact ⟨sound, fun nodup => shifted.parked ▸ nodup⟩
  | unparked id =>
    exact ⟨{ sound with send := sound.send.setParked _ }, fun nodup => nodup.erase id⟩
  | flushed id => exact ⟨sound.flush id, fun nodup => nodup_flush sound nodup id⟩

theorem Nudged.sound (nudged : conn.Nudged after) (sound : conn.Sound) :
    after.Sound ∧ (conn.sendWindows.parked.Nodup → after.sendWindows.parked.Nodup) := by
  induction nudged with
  | refl => exact ⟨sound, id⟩
  | tail _ nudge ih =>
    obtain ⟨sound, keeps⟩ := nudge.sound ih.1
    exact ⟨sound, keeps ∘ ih.2⟩

theorem Primed.nudge (primed : conn.Primed) (nudge : conn.Nudge after) : after.Primed := by
  obtain ⟨session, log, run, opened, nudged⟩ := primed
  exact ⟨session, log, run, opened, nudged.tail nudge⟩

theorem Primed.sound (primed : conn.Primed) : conn.Sound ∧ conn.sendWindows.parked.Nodup := by
  obtain ⟨session, log, run, opened, nudged⟩ := primed
  obtain ⟨sound, keeps⟩ := nudged.sound (run.sound opened)
  exact ⟨sound, keeps (run.parked opened).nodup⟩

/-- Flushing a stream that can send takes as much of its data as the windows allow, in frames that
are not empty and not too long for the peer, and takes exactly that much from the windows.  If data
is left, the stream waits in its place; otherwise trailers or the end of the stream follow, and the
phase of the stream moves on if the end has been sent. -/
theorem flush_greedy (primed : conn.Primed) (held : conn.registry.get? id = some stream)
    (sends : stream.phase.canSend) :
    ∃ pieces left, conn.Drained id stream pieces left (conn.flush id) ∧
      if (stream.sendings id conn.encoder (conn.covers id stream) pieces).any
        (Frame.endsStream id) then
        stream.phase.next? .sendEnd = some (((conn.flush id).phase? id).getD .closed)
      else (conn.flush id).phase? id = some stream.phase := by
  have sound := primed.sound.1
  obtain ⟨pieces, left, drained⟩ := flush_drained sound held sends
  exact ⟨pieces, left, drained, drained.phase sends (sound.registry.cargo held).trailers⟩

/-- Two pieces of data and the end, with credit up to the first octet of the second piece. -/
theorem flush_greedy_short :
    ∃ conn stream, Primed conn ∧ conn.registry.get? 1 = some stream ∧
      stream.phase.canSend ∧ stream.queue = ⟨[[1, 2, 3], [4, 5, 6]], 6⟩ ∧ stream.endQueued ∧
      conn.sendWindows.available 1 = 4 ∧
      ∃ pieces left, conn.Drained 1 stream pieces left (conn.flush 1) := by
  have run := (Session.Run.create Session.create_newClient).after
    [.call (.createStream [] none false), .receive [0, 0, 6, 4, 0, 0, 0, 0, 0, 0, 4, 0, 0, 0, 4]]
  have rest : Primed _ := ⟨_, _, run, by decide +kernel, .refl⟩
  have first := rest.nudge
    (@Nudge.queued _ 1 _ (Option.get_mem (by decide +kernel)) (by decide +kernel) [1, 2, 3] false)
  have second := first.nudge
    (@Nudge.queued _ 1 _ (Option.get_mem (by decide +kernel)) (by decide +kernel) [4, 5, 6] true)
  obtain ⟨pieces, left, drained, -⟩ :=
    @flush_greedy _ 1 _ second (Option.get_mem (by decide +kernel)) (by decide +kernel)
  exact ⟨_, _, second, Option.get_mem _, by decide +kernel, by decide +kernel, by decide +kernel,
    by decide +kernel, pieces, left, drained⟩

end Connection

end Http2
