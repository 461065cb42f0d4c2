import Http2.Proofs.Life

/-!
# Octets that are not sent

What the application hands over for a stream is written, waits, or is left unsent.  A `Count` goes
along the life of a stream and says how much there was of each, and `Settles` ties it to the stream,
act by act.  A stream that is given up leaves word of what it had not sent.  Only final headers that
end a stream can overtake octets that wait, and if the stream then closes in good order these are
lost without a word.
-/

namespace Http2

open Http2.Stream Phase

/-! ## Counting -/

structure Count where
  taken : Nat := 0
  sent : Nat := 0
  unsent : List Nat := []
  cut : Nat := 0
  deriving DecidableEq, Repr

def Event.unsent? : Event → Option Nat
  | sendCancelled _ unsent _ => some unsent
  | _ => none

namespace Count

@[simp] def add (id : Nat) (count : Count) : Mark → Count
  | .took stream octets =>
    if stream = id then { count with taken := count.taken + octets.length } else count
  | .answered stream endStream =>
    if stream = id ∧ endStream then { count with cut := count.taken - count.sent } else count
  | .said item => { count with sent := count.sent + (item.outline.dataOn id).length }
  | .told (.sendCancelled stream unsent _) =>
    if stream = id then { count with unsent := count.unsent ++ [unsent] } else count
  | _ => count

def addAll (id : Nat) (count : Count) (marks : List Mark) : Count := marks.foldl (add id) count

variable {id : Nat} {count : Count} {marks : List Mark}

@[simp] theorem addAll_nil : count.addAll id [] = count := rfl

@[simp] theorem addAll_cons (mark : Mark) (rest : List Mark) :
    count.addAll id (mark :: rest) = (count.add id mark).addAll id rest := rfl

theorem addAll_append (first second : List Mark) :
    count.addAll id (first ++ second) = (count.addAll id first).addAll id second :=
  List.foldl_append

theorem add_said {item : Item} (none : item.outline.dataOn id = []) :
    count.add id (.said item) = count := by
  rw [add, none]
  rfl

theorem exists_add_told (id : Nat) (count : Count) (event : Event) :
    ∃ unsent, count.add id (.told event) = { count with unsent } := by
  cases event with
  | sendCancelled =>
    rw [add]
    split
    · exact ⟨_, rfl⟩
    · exact ⟨_, rfl⟩
  | _ => exact ⟨_, rfl⟩

theorem add_of_not_isOn {mark : Mark} (off : mark.isOn id = false) : count.add id mark = count := by
  cases mark with
  | took stream | answered stream =>
    have differ : stream ≠ id := by simpa [Mark.isOn] using off
    simp [add, differ]
  | said item =>
    refine add_said ?_
    cases item with
    | data stream =>
      have differ : stream ≠ id := by simpa [Mark.isOn, Frame.isAbout] using off
      exact if_neg differ
    | other frame =>
      cases frame with
      | data stream =>
        have differ : stream ≠ id := by
          simpa [Mark.isOn, Frame.outline, Frame.isAbout] using off
        exact if_neg differ
      | _ => rfl
    | _ => rfl
  | heard => rfl
  | told event =>
    cases event with
    | sendCancelled stream =>
      have differ : stream ≠ id := by simpa [Mark.isOn, Event.isAbout] using off
      exact if_neg differ
    | _ => rfl

@[simp] theorem addAll_closing (stream : Stream) : count.addAll id (closing id stream) = count := by
  unfold closing
  split
  · rfl
  · rfl

theorem addAll_dropping (stream : Stream) (reason : Reason) (announced : Bool) (error : Error) :
    count.addAll id (dropping id stream reason announced error) =
      if stream.hasOutbound then { count with unsent := count.unsent ++ [stream.buffered] }
      else count := by
  unfold dropping
  cases announced <;> cases stream.hasOutbound <;>
    simp [add, Frame.outline, Frame.dataOn]

variable (count marks)

theorem addAll_filter : count.addAll id (marks.filter (Mark.isOn id)) = count.addAll id marks := by
  induction marks generalizing count with
  | nil => rfl
  | cons mark rest ih =>
    cases own : mark.isOn id with
    | true => rw [List.filter_cons_of_pos own, addAll_cons, addAll_cons, ih]
    | false =>
      rw [List.filter_cons_of_neg (by simp [own]), addAll_cons, add_of_not_isOn own, ih]

theorem taken_addAll :
    (count.addAll id marks).taken =
      count.taken + (octetsOn id (marks.filterMap Mark.took?)).length := by
  induction marks generalizing count with
  | nil => rfl
  | cons mark rest ih =>
    rw [addAll_cons, ih]
    cases mark with
    | took stream octets =>
      by_cases here : stream = id <;>
        simp [add, Mark.took?, octetsOn, here, Nat.add_assoc]
    | answered =>
      rw [add]
      split <;> rfl
    | told event =>
      obtain ⟨unsent, same⟩ := exists_add_told id count event
      rw [same]
      rfl
    | said | heard => rfl

theorem sent_addAll :
    (count.addAll id marks).sent =
      count.sent + ((saidIn marks).flatMap (Frame.dataOn id)).length := by
  induction marks generalizing count with
  | nil => rfl
  | cons mark rest ih =>
    rw [addAll_cons, ih]
    cases mark with
    | took | answered =>
      rw [add]
      split <;> rfl
    | told event =>
      obtain ⟨unsent, same⟩ := exists_add_told id count event
      rw [same]
      rfl
    | said item => simp [add, Nat.add_assoc]
    | heard => rfl

theorem unsent_addAll : (count.addAll id marks).unsent =
      count.unsent ++ ((toldIn marks).filter (Event.isAbout id)).filterMap Event.unsent? := by
  induction marks generalizing count with
  | nil => exact (List.append_nil _).symm
  | cons mark rest ih =>
    rw [addAll_cons, ih]
    cases mark with
    | took | answered =>
      rw [add]
      split <;> rfl
    | said | heard => rfl
    | told event =>
      rw [toldIn_told, List.filter_cons]
      cases event with
      | sendCancelled stream =>
        by_cases here : stream = id <;> simp [add, Event.isAbout, Event.unsent?, here]
      | _ => split <;> rfl

variable {marks}

theorem cut_addAll (none : .answered id true ∉ marks) :
    (count.addAll id marks).cut = count.cut := by
  induction marks generalizing count with
  | nil => rfl
  | cons mark rest ih =>
    obtain ⟨first, others⟩ := not_or.mp (mt List.mem_cons.mpr none)
    rw [addAll_cons, ih _ others]
    cases mark with
    | took =>
      rw [add]
      split <;> rfl
    | told event =>
      obtain ⟨unsent, same⟩ := exists_add_told id count event
      rw [same]
    | answered stream endStream =>
      rw [add, if_neg]
      rintro ⟨rfl, ended⟩
      exact first (by rw [ended])
    | said | heard => rfl

/-- While nothing is taken or sent, what waits is what can be cut off. -/
theorem cut_addAll_still (took : marks.filterMap Mark.took? = [])
    (said : ∀ frame ∈ saidIn marks, frame.dataOn id = []) :
    (count.addAll id marks).cut = count.cut ∨ (count.addAll id marks).cut =
      count.taken - count.sent := by
  induction marks generalizing count with
  | nil => exact .inl rfl
  | cons mark rest ih =>
    rw [addAll_cons]
    cases mark with
    | took => cases took
    | answered stream endStream =>
      rw [add]
      split
      · exact .inr (or_self_iff.mp (ih _ took said))
      · exact ih count took said
    | said item =>
      obtain ⟨first, others⟩ := List.forall_mem_cons.mp said
      rw [add_said first]
      exact ih count took others
    | heard => exact ih count took said
    | told event =>
      obtain ⟨unsent, same⟩ := exists_add_told id count event
      rw [same]
      exact ih _ took said

end Count

/-! ## Streams that speak -/

namespace Phase

variable {phase next : Phase} {ended : Bool}

private theorem speaks_sendHeaders (moves : phase.next? (.sendHeaders ended) = some next) :
    next.speaks = !ended := by
  unfold next? at moves
  split at moves <;> cases moves <;> simp_all [Phase.speaks]

private theorem speaks_receiveHeaders (moves : phase.next? (.receiveHeaders ended) = some next) :
    next.speaks = phase.speaks := by
  unfold next? at moves
  split at moves <;> cases moves <;> simp_all [Phase.speaks]

private theorem speaks_receiveEnd (moves : phase.next? .receiveEnd = some next) :
    next.speaks = phase.speaks := by
  unfold next? at moves
  split at moves <;> cases moves <;> simp_all [Phase.speaks]

private theorem silent_of_isClosed (closed : phase.isClosed) : phase.speaks = false := by
  cases phase <;> first | rfl | cases closed

end Phase

namespace Stream

variable {stream next : Stream}

private theorem speaks_endIf? {ended : Bool} (moves : stream.endIf? ended .receiveEnd = some next) :
    next.phase.speaks = stream.phase.speaks := by
  cases ended with
  | false =>
    cases moves
    rfl
  | true => exact speaks_receiveEnd (advance?_eq moves).1

private theorem buffered_of_empty (empty : stream.queue = {}) : stream.buffered = 0 := by
  rw [buffered, empty]

private theorem buffered_of_not_hasOutbound (idle : stream.hasOutbound = false) :
    stream.buffered = 0 := by
  rw [hasOutbound, Bool.or_eq_false_iff] at idle
  simpa using idle.1

end Stream

/-! ## Nothing goes missing -/

/-- What was not sent was told to be unsent, or else it was cut off. -/
def Count.AllTold (count : Count) : Prop :=
  count.unsent = [] ∧ count.taken = count.sent + count.cut ∨
    ∃ unsent, count.unsent = [unsent] ∧ count.taken = count.sent + unsent

/-- How the count stands to what shows of the stream.  On a stream that has fallen silent nothing
waits but what was cut off. -/
inductive Settles : View → Count → Prop
  | unused {ours : Bool} : Settles (.unused ours) {}
  | live {stream : Stream} {count : Count} (all : count.taken = count.sent + stream.buffered)
      (untold : count.unsent = [])
      (cut : count.cut = if stream.phase.speaks then 0 else stream.buffered) :
      Settles (.live stream) count
  | gone {count : Count} (settled : count.AllTold) : Settles .gone count

namespace Settles

variable {id : Nat} {view next : View} {stream later : Stream} {count : Count} {marks : List Mark}

theorem fresh (empty : stream.queue = {}) : Settles (.live stream) {} := by
  have none := buffered_of_empty empty
  exact .live (by simp [none]) rfl (by simp [none])

theorem settled (settles : Settles .gone count) : count.AllTold := by
  cases settles with
  | gone settled => exact settled

theorem eq_empty {ours : Bool} (settles : Settles (.unused ours) count) : count = {} := by
  cases settles with
  | unused => rfl

theorem of_live (all : count.taken = count.sent + later.buffered) (untold : count.unsent = [])
    (cut : count.cut = if later.phase.speaks then 0 else later.buffered) :
    Settles (.of later) count := by
  unfold View.of
  split
  · exact .live all untold cut
  · rename_i ended
    have closed : later.phase.isClosed := by simpa [isLive] using ended
    rw [silent_of_isClosed closed] at cut
    exact .gone (.inl ⟨untold, by rw [all, cut]; rfl⟩)

variable (settles : Settles (.live stream) count)

include settles

theorem all : count.taken = count.sent + stream.buffered := by
  cases settles with
  | live all => exact all

theorem untold : count.unsent = [] := by
  cases settles with
  | live all untold => exact untold

theorem cut : count.cut = if stream.phase.speaks then 0 else stream.buffered := by
  cases settles with
  | live all untold cut => exact cut

theorem uncut (speaks : stream.phase.speaks) : count.cut = 0 := by
  rw [settles.cut, if_pos speaks]

theorem moveOn (queue : later.queue = stream.queue)
    (speaks : later.phase.speaks = stream.phase.speaks) : Settles (.of later) count := by
  have same : later.buffered = stream.buffered := congrArg Buffer.length queue
  refine of_live ?_ settles.untold ?_
  · rw [same, settles.all]
  · rw [same, speaks, settles.cut]

theorem giveUp (reason : Reason) (announced : Bool) (error : Error) :
    Settles .gone (count.addAll id (dropping id stream reason announced error)) := by
  rw [Count.addAll_dropping]
  cases waits : stream.hasOutbound with
  | true => exact .gone (.inr ⟨stream.buffered, by simp [settles.untold], settles.all⟩)
  | false =>
    have none := buffered_of_not_hasOutbound waits
    have uncut : count.cut = 0 := by simp [settles.cut, none]
    exact .gone (.inl ⟨settles.untold, by simp [settles.all, none, uncut]⟩)

omit settles

theorem act (act : Act id view marks next) (settles : Settles view count) :
    Settles next (count.addAll id marks) := by
  cases act with
  | aside aside =>
    rw [← Count.addAll_filter, List.filter_eq_nil_iff.mpr fun mark member => by
      simp [Mark.isOn_of_isAside (aside mark member)]]
    exact settles
  | pass | refuseOwn | refuseRemote | passOver =>
    cases settles
    exact .gone (.inl ⟨rfl, rfl⟩)
  | disown | ignore => exact settles
  | drop | refuse => exact settles.giveUp ..
  | openLocal opens | openRemote opens =>
    cases settles
    obtain ⟨-, same⟩ := advance?_eq opens
    exact fresh (congrArg Stream.queue same)
  | reserveLocal | reserveRemote =>
    cases settles
    exact fresh rfl
  | @enqueue stream octets endStream sends =>
    have more : (stream.enqueue octets endStream).buffered = stream.buffered + octets.length :=
      Buffer.length_push ..
    have speaks := speaks_of_canSend sends
    refine .live ?_ ?_ ?_
    · simp [more, settles.all, Nat.add_assoc]
    · simp [settles.untold]
    · simp [Stream.enqueue, speaks, settles.uncut speaks]
  | enqueueTrailers => exact .live settles.all settles.untold settles.cut
  | @dispatch stream octets left sends first =>
    have less : stream.buffered = octets.length +
        ({ stream with queue := left } : Stream).buffered :=
      first.length
    have speaks := speaks_of_canSend sends
    refine .live ?_ settles.untold ?_
    · simp [Frame.dataOn, settles.all, less, Nat.add_assoc]
    · simp [speaks, settles.uncut speaks]
  | @conclude stream next last sends ends rest moves =>
    obtain ⟨moved, same⟩ := advance?_eq moves
    have less : stream.buffered = last.length := rest.length
    have none : next.buffered = 0 := buffered_of_empty (congrArg Stream.queue same)
    rw [Count.addAll_cons, Count.addAll_closing]
    refine of_live ?_ settles.untold ?_
    · simp [Frame.dataOn, settles.all, less, none]
    · simp [none, settles.uncut (speaks_of_canSend sends)]
  | @trail stream next fields sends waits empty moves =>
    obtain ⟨moved, same⟩ := advance?_eq moves
    have before := buffered_of_empty empty
    have none : next.buffered = 0 :=
      buffered_of_empty ((congrArg Stream.queue same).trans empty)
    rw [Count.addAll_cons, Count.addAll_closing, Count.add_said rfl]
    refine of_live ?_ settles.untold ?_
    · rw [settles.all, before, none]
    · simp [none, settles.uncut (speaks_of_canSend sends)]
  | @respond stream next fields endStream sends early final moves =>
    obtain ⟨moved, same⟩ := advance?_eq moves
    have speaks : stream.phase.speaks :=
      sends.elim speaks_of_canSend fun reserved => by rw [reserved]; rfl
    have waits : next.buffered = stream.buffered := by
      rw [same]
      rfl
    have silent := speaks_sendHeaders moved
    rw [Count.addAll_cons, Count.addAll_cons, Count.addAll_closing, Count.add_said rfl]
    -- an end that overtakes what waits cuts off just that
    refine of_live ?_ ?_ ?_
    · cases endStream <;> simp [waits, settles.all]
    · cases endStream <;> simp [settles.untold]
    · cases endStream <;> simp [silent, waits, settles.all, settles.uncut speaks]
  | inform | promise | hearPromise => exact settles
  | @speak stream frame about =>
    cases frame with
    | windowUpdate | priority => exact settles
    | _ => cases about
  | receiveData receives moves =>
    have queue := congrArg Stream.queue (endIf?_eq moves).2.2
    have moved := settles.moveOn queue (speaks_endIf? moves)
    split <;> simpa using moved
  | receiveFirst reserved moves =>
    obtain ⟨moved, same⟩ := advance?_eq moves
    have queue := congrArg Stream.queue same
    simpa using settles.moveOn queue (speaks_receiveHeaders moved)
  | receiveHeaders receives early moves =>
    have queue := congrArg Stream.queue (endIf?_eq moves).2.2
    have speaks := speaks_endIf? moves
    simpa using settles.moveOn queue speaks
  | receiveTrailers receives late moves =>
    obtain ⟨moved, same⟩ := advance?_eq moves
    have queue := congrArg Stream.queue same
    simpa using settles.moveOn queue (speaks_receiveEnd moved)

end Settles

theorem Life.settles {id : Nat} {start view : View} {marks : List Mark} {count : Count}
    (life : Life id start marks view) (settles : Settles start count) :
    Settles view (count.addAll id marks) := by
  induction life with
  | refl => exact settles
  | tail _ act _ ih =>
    rw [Count.addAll_append]
    exact ih.act act

end Http2
