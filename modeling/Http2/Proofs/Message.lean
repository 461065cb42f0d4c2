import Http2.Proofs.Conduct

/-!
# The message on a stream

A `Tally` is what one end knows of the messages on a stream, one in each direction: the octets taken
from the application, what has been said of them, what has been heard of the other message and what
of it the application has been told.  `Sends` and `Receives` relate the tally to the stream, and
every act keeps them.  On the way out nothing is lost as long as the stream can speak; on the way in
everything heard is told as long as it can hear.
-/

namespace Http2

open Http2.Stream Phase List

variable {id : Nat} {item : Item} {marks : List Mark}

/-! ## Tallies -/

structure Talk where
  data : Octets := []
  final : Bool := false
  ended : Option Octets := none
  deriving DecidableEq, Repr

@[simp] def Talk.add (id : Nat) (talk : Talk) : Item → Talk
  | .data stream octets endStream =>
    if stream = id then
      { talk with
        data := talk.data ++ octets
        ended := talk.ended.or (if endStream then some (talk.data ++ octets) else none) }
    else talk
  | .headers stream fields _ endStream =>
    if stream = id then
      { talk with
        final := talk.final || !isInformational fields
        ended := talk.ended.or (if talk.final && endStream then some talk.data else none) }
    else talk
  | _ => talk

structure News where
  data : Octets := []
  ended : Bool := false
  deriving DecidableEq, Repr

@[simp] def News.add (id : Nat) (news : News) : Event → News
  | .data stream octets endStream =>
    if stream = id then ⟨news.data ++ octets, news.ended || endStream⟩ else news
  | .trailers stream _ => if stream = id then { news with ended := true } else news
  | _ => news

structure Tally where
  taken : Octets := []
  said : Talk := {}
  heard : Talk := {}
  told : News := {}
  deriving DecidableEq, Repr

namespace Tally

@[simp] def add (id : Nat) (tally : Tally) : Mark → Tally
  | .took stream octets =>
    if stream = id then { tally with taken := tally.taken ++ octets } else tally
  | .answered .. => tally
  | .said item => { tally with said := tally.said.add id item }
  | .heard item => { tally with heard := tally.heard.add id item }
  | .told event => { tally with told := tally.told.add id event }

def addAll (id : Nat) (tally : Tally) (marks : List Mark) : Tally :=
  marks.foldl (add id) tally

variable {tally : Tally}

@[simp] theorem addAll_nil : tally.addAll id [] = tally := rfl

@[simp] theorem addAll_cons (mark : Mark) (rest : List Mark) :
    tally.addAll id (mark :: rest) = (tally.add id mark).addAll id rest := rfl

theorem addAll_append (first second : List Mark) :
    tally.addAll id (first ++ second) = (tally.addAll id first).addAll id second :=
  foldl_append

end Tally

open Tally

def Mark.isNeutral : Mark → Bool
  | answered .. => true
  | said (.promise ..) | said (.other _) | heard (.promise ..) | heard (.other _) => true
  | told (.data ..) | told (.trailers ..) => false
  | told _ => true
  | _ => false

theorem Mark.isNeutral_of_isAside {mark : Mark} (aside : mark.isAside) : mark.isNeutral := by
  unfold isAside at aside
  split at aside
  · rfl
  · rfl
  · rename_i event
    cases event <;> first | rfl | cases aside
  · cases aside

namespace Tally

variable {tally : Tally}

theorem add_neutral {mark : Mark} (neutral : mark.isNeutral) : tally.add id mark = tally := by
  cases mark with
  | took => cases neutral
  | answered => rfl
  | said item | heard item => cases item <;> first | rfl | cases neutral
  | told event => cases event <;> first | rfl | cases neutral

theorem addAll_neutral (neutral : ∀ mark ∈ marks, mark.isNeutral) :
    tally.addAll id marks = tally := by
  induction marks with
  | nil => rfl
  | cons mark rest ih =>
    obtain ⟨first, others⟩ := forall_mem_cons.mp neutral
    rw [addAll_cons, add_neutral first]
    exact ih others

@[simp] theorem addAll_closing (other : Nat) (stream : Stream) :
    tally.addAll id (closing other stream) = tally := by
  refine addAll_neutral ?_
  unfold closing
  split <;> simp [Mark.isNeutral]

@[simp] theorem addAll_dropping (other : Nat) (stream : Stream) (reason : Reason) (announced : Bool)
    (error : Error) : tally.addAll id (dropping other stream reason announced error) = tally := by
  refine addAll_neutral ?_
  unfold dropping
  cases announced <;> cases stream.hasOutbound <;> simp [Mark.isNeutral]

end Tally

theorem Talk.add_of_isOn {other : Nat} (talk : Talk) (about : item.isOn id) (differ : id ≠ other) :
    talk.add other item = talk := by
  cases item with
  | data stream | headers stream =>
    obtain rfl : stream = id := by simpa [Item.isOn] using about
    exact if_neg differ
  | promise | other => rfl

theorem Act.addAll_other {other : Nat} {view next : View} {tally : Tally}
    (act : Act id view marks next) (differ : id ≠ other) : tally.addAll other marks = tally := by
  cases act with
  | aside aside =>
    exact addAll_neutral fun mark member => Mark.isNeutral_of_isAside (aside mark member)
  | refuse about | ignore about => simp [-Talk.add, Talk.add_of_isOn _ about differ]
  | receiveData =>
    split <;> simp [differ]
  | _ => simp [differ]

/-! ## Phases -/

namespace Phase

def speaks : Phase → Bool
  | idle | reservedLocal | opened | halfClosedRemote => true
  | _ => false

def hears : Phase → Bool
  | idle | reservedRemote | opened | halfClosedLocal => true
  | _ => false

variable {phase next : Phase} {signal : Signal}

theorem speaks_of_canSend (sends : phase.canSend) : phase.speaks := by
  cases phase <;> first | rfl | cases sends

theorem hears_of_canReceive (receives : phase.canReceive) : phase.hears := by
  cases phase <;> first | rfl | cases receives

theorem speaks_of_next? (moves : phase.next? signal = some next) (speaks : next.speaks) :
    phase.speaks := by
  unfold next? at moves
  split at moves <;> cases moves <;> simp_all [Phase.speaks]

theorem hears_of_next? (moves : phase.next? signal = some next) (hears : next.hears) :
    phase.hears := by
  unfold next? at moves
  split at moves <;> cases moves <;> simp_all [Phase.hears]

theorem silent_of_sendEnd (moves : phase.next? .sendEnd = some next) : next.speaks = false := by
  unfold next? at moves
  split at moves <;> cases moves <;> simp_all [Phase.speaks]

theorem silent_of_sendHeaders (moves : phase.next? (.sendHeaders true) = some next) :
    next.speaks = false := by
  unfold next? at moves
  split at moves <;> cases moves <;> simp_all [Phase.speaks]

theorem deaf_of_receiveHeaders (moves : phase.next? (.receiveHeaders true) = some next) :
    next.hears = false := by
  unfold next? at moves
  split at moves <;> cases moves <;> simp_all [Phase.hears]

theorem deaf_of_receiveEnd (moves : phase.next? .receiveEnd = some next) : next.hears = false := by
  unfold next? at moves
  split at moves <;> cases moves <;> simp_all [Phase.hears]

end Phase

namespace Stream

variable {stream next : Stream} {signal : Signal}

theorem advance?_eq (moves : stream.advance? signal = some next) :
    stream.phase.next? signal = some next.phase ∧ next = { stream with phase := next.phase } := by
  obtain ⟨phase, moved, rfl⟩ := Option.map_eq_some_iff.mp moves
  exact ⟨moved, rfl⟩

theorem endIf?_eq {ended : Bool} (moves : stream.endIf? ended signal = some next) :
    (next.phase.speaks → stream.phase.speaks) ∧ (next.phase.hears → stream.phase.hears) ∧
      next = { stream with phase := next.phase } := by
  cases ended with
  | false =>
    cases moves
    exact ⟨id, id, rfl⟩
  | true =>
    obtain ⟨moved, same⟩ := advance?_eq moves
    exact ⟨speaks_of_next? moved, hears_of_next? moved, same⟩

end Stream

/-! ## Sending -/

structure Tally.Halted (tally : Tally) : Prop where
  sent : tally.said.data <+: tally.taken
  whole : ∀ data, tally.said.ended = some data → data = tally.taken

inductive Sends : View → Tally → Prop
  | unused {ours : Bool} {tally : Tally} (taken : tally.taken = []) (said : tally.said = {}) :
      Sends (.unused ours) tally
  | live {stream : Stream} {tally : Tally} (all : tally.said.data ++ stream.queue.octets =
      tally.taken) (whole : ∀ data, tally.said.ended = some data → data = tally.taken)
      (lasts : stream.phase.speaks → tally.said.ended = none ∧
        (stream.finalSent = false → tally.said.final = false)) : Sends (.live stream) tally
  | gone {tally : Tally} (halted : tally.Halted) : Sends .gone tally

namespace Sends

variable {view next : View} {stream later : Stream} {tally after : Tally}

theorem halted (sends : Sends view tally) : tally.Halted := by
  cases sends with
  | unused taken said => exact ⟨by simp [said], by simp [said]⟩
  | live all whole lasts => exact ⟨⟨_, all⟩, whole⟩
  | gone halted => exact halted

theorem all (sends : Sends (.live stream) tally) :
    tally.said.data ++ stream.queue.octets = tally.taken := by
  cases sends with
  | live all => exact all

theorem whole (sends : Sends view tally) : ∀ data, tally.said.ended = some data →
    data = tally.taken := sends.halted.whole

theorem lasts (sends : Sends (.live stream) tally) (speaks : stream.phase.speaks) :
    tally.said.ended = none ∧ (stream.finalSent = false → tally.said.final = false) := by
  cases sends with
  | live all whole lasts => exact lasts speaks

theorem of_live (all : after.said.data ++ later.queue.octets = after.taken)
    (whole : ∀ data, after.said.ended = some data → data = after.taken)
    (lasts : later.phase.speaks → after.said.ended = none ∧
      (later.finalSent = false → after.said.final = false)) : Sends (.of later) after := by
  unfold View.of
  split
  · exact .live all whole lasts
  · exact .gone ⟨⟨_, all⟩, whole⟩

theorem giveUp (sends : Sends view tally) (taken : after.taken = tally.taken)
    (said : after.said = tally.said) : Sends .gone after := by
  obtain ⟨sent, whole⟩ := sends.halted
  exact .gone ⟨by rwa [taken, said], by rwa [taken, said]⟩

theorem stays (sends : Sends view tally) (stays : view.Stays next) : Sends next tally := by
  rcases stays with rfl | ⟨-, rfl⟩
  · exact sends
  · exact sends.giveUp rfl rfl

theorem moveOn (sends : Sends (.live stream) tally) (taken : after.taken = tally.taken)
    (said : after.said = tally.said) (queue : later.queue = stream.queue)
    (final : later.finalSent = stream.finalSent)
    (speaks : later.phase.speaks → stream.phase.speaks) : Sends (.of later) after := by
  refine of_live ?_ ?_ fun still => ?_
  · rw [said, queue, taken]
    exact sends.all
  · rw [said, taken]
    exact sends.whole
  · rw [said, final]
    exact sends.lasts (speaks still)

theorem act (act : Act id view marks next) (sends : Sends view tally) :
    Sends next (tally.addAll id marks) := by
  cases act with
  | aside aside =>
    rw [addAll_neutral fun mark member => Mark.isNeutral_of_isAside (aside mark member)]
    exact sends
  | pass | refuseOwn | disown | refuseRemote | passOver | ignore => exact sends.giveUp rfl rfl
  | drop =>
    rw [addAll_dropping]
    exact sends.giveUp rfl rfl
  | refuse =>
    rw [addAll_cons, addAll_dropping]
    exact sends.giveUp rfl rfl
  | openLocal opens | openRemote opens =>
    cases sends with
    | unused taken said =>
      obtain ⟨-, same⟩ := advance?_eq opens
      exact .live (by rw [same]; simp [said, taken]) (by simp [said]) (by simp [said])
  | reserveLocal | reserveRemote =>
    cases sends with
    | unused taken said => exact .live (by simp [said, taken]) (by simp [said]) (by simp [said])
  | enqueue canSend =>
    obtain ⟨lasts, early⟩ := sends.lasts (speaks_of_canSend canSend)
    refine .live ?_ ?_ fun _ => ⟨?_, ?_⟩
    · rw [Stream.enqueue, Buffer.octets_push, ← append_assoc]
      simp [sends.all]
    · simp [lasts]
    · simpa using lasts
    · simpa [Stream.enqueue] using early
  | enqueueTrailers => exact .live sends.all sends.whole sends.lasts
  | dispatch canSend first =>
    obtain ⟨lasts, early⟩ := sends.lasts (speaks_of_canSend canSend)
    refine .live ?_ ?_ fun _ => ⟨?_, ?_⟩
    · simpa [first.octets] using sends.all
    · simp [lasts]
    · simp [lasts]
    · simpa using early
  | conclude canSend ends rest moves =>
    obtain ⟨lasts, -⟩ := sends.lasts (speaks_of_canSend canSend)
    obtain ⟨moved, same⟩ := advance?_eq moves
    have all := sends.all
    rw [rest.octets, Buffer.octets_empty, append_nil] at all
    rw [addAll_cons, addAll_closing]
    refine of_live ?_ ?_ (by simp [silent_of_sendEnd moved])
    · rw [same]
      simpa using all
    · simp [lasts, all]
  | trail canSend waits empty moves =>
    obtain ⟨lasts, -⟩ := sends.lasts (speaks_of_canSend canSend)
    obtain ⟨moved, same⟩ := advance?_eq moves
    have all := sends.all
    rw [empty, Buffer.octets_empty, append_nil] at all
    rw [addAll_cons, addAll_closing]
    refine of_live ?_ ?_ (by simp [silent_of_sendHeaders moved])
    · rw [same]
      simpa [endSent, empty] using all
    · simp [lasts, all]
  | inform canSend notYet informational =>
    obtain ⟨lasts, early⟩ := sends.lasts (speaks_of_canSend canSend)
    refine .live ?_ ?_ fun _ => ⟨?_, ?_⟩
    · simpa using sends.all
    · simp [lasts]
    · simp [lasts]
    · simpa [informational] using early
  | respond canSend notYet final moves =>
    obtain ⟨-, same⟩ := advance?_eq moves
    obtain ⟨lasts, early⟩ := sends.lasts
      (canSend.elim speaks_of_canSend fun reserved => by simp [reserved, Phase.speaks])
    rw [addAll_cons, addAll_cons, addAll_closing]
    -- an end that comes with the first final headers does not count as the end of the data, which
    -- may still be in the queue
    refine of_live ?_ ?_ fun _ => ⟨?_, ?_⟩
    · rw [same]
      simpa using sends.all
    · simp [lasts, early notYet]
    · simp [lasts, early notYet]
    · rw [same]
      simp
  | promise | speak | hearPromise => exact sends
  | receiveData receives moves =>
    obtain ⟨speaks, -, same⟩ := endIf?_eq moves
    refine sends.moveOn ?_ ?_ (by rw [same]) (by rw [same]) speaks
    all_goals split <;> simp
  | receiveFirst reserved moves | receiveTrailers receives late moves =>
    obtain ⟨moved, same⟩ := advance?_eq moves
    exact sends.moveOn (by simp) (by simp) (by rw [same]) (by rw [same]) (speaks_of_next? moved)
  | receiveHeaders receives early moves =>
    obtain ⟨speaks, -, same⟩ := endIf?_eq moves
    exact sends.moveOn (by simp) (by simp) (by rw [same]) (by rw [same]) speaks

end Sends

/-! ## Receiving -/

structure Talk.Grows (talk after : Talk) : Prop where
  data : talk.data <+: after.data
  ended : ∀ data, talk.ended = some data → after.ended = some data

namespace Talk

theorem Grows.refl (talk : Talk) : talk.Grows talk := ⟨prefix_refl _, fun _ same => same⟩

theorem Grows.trans {talk between after : Talk} (first : talk.Grows between)
    (second : between.Grows after) : talk.Grows after :=
  ⟨first.data.trans second.data, fun data ended => second.ended data (first.ended data ended)⟩

theorem grows_add (id : Nat) (talk : Talk) (item : Item) : talk.Grows (talk.add id item) := by
  cases item with
  | data stream octets endStream =>
    rw [add]
    split
    · exact ⟨prefix_append .., by simp +contextual⟩
    · exact .refl talk
  | headers stream fields priority endStream =>
    rw [add]
    split
    · exact ⟨prefix_refl _, by simp +contextual⟩
    · exact .refl talk
  | promise | other => exact .refl talk

theorem grows_foldl (id : Nat) (talk : Talk) (items : List Item) :
    talk.Grows (items.foldl (add id) talk) := by
  induction items generalizing talk with
  | nil => exact .refl talk
  | cons item rest ih => exact (grows_add id talk item).trans (ih _)

end Talk

theorem Tally.grows_heard (tally : Tally) (marks : List Mark) :
    tally.heard.Grows (tally.addAll id marks).heard := by
  induction marks generalizing tally with
  | nil => exact .refl _
  | cons mark rest ih =>
    refine .trans ?_ (ih _)
    cases mark with
    | took stream =>
      rw [add]
      split <;> exact .refl _
    | answered | said | told => exact .refl _
    | heard item => exact Talk.grows_add id tally.heard item

/-- Whatever else was heard, the application has been told the first of it, or all of it where it
knows of the end. -/
structure Tally.Behind (tally : Tally) : Prop where
  told : tally.told.data <+: tally.heard.data
  whole : tally.told.ended → tally.heard.ended = some tally.told.data

inductive Receives : View → Tally → Prop
  | unused {ours : Bool} {tally : Tally} (heard : tally.heard = {}) (told : tally.told = {}) :
      Receives (.unused ours) tally
  | hearing {stream : Stream} {tally : Tally} (all : tally.told.data = tally.heard.data)
      (quiet : tally.told.ended = false) (lasts : tally.heard.ended = none)
      (late : stream.finalReceived → tally.heard.final) :
      Receives (.live stream) tally
  | deaf {stream : Stream} {tally : Tally} (deaf : stream.phase.hears = false)
      (behind : tally.Behind) : Receives (.live stream) tally
  | gone {tally : Tally} (behind : tally.Behind) : Receives .gone tally

namespace Receives

variable {view next : View} {stream later : Stream} {tally after : Tally}

theorem behind (receives : Receives view tally) : tally.Behind := by
  cases receives with
  | unused heard told => exact ⟨by simp [told], by simp [told]⟩
  | hearing all quiet lasts late => exact ⟨by simp [all], by simp [quiet]⟩
  | deaf deaf behind => exact behind
  | gone behind => exact behind

theorem heard (receives : Receives (.live stream) tally) (hears : stream.phase.hears) :
    tally.told.data = tally.heard.data ∧ tally.told.ended = false ∧
      tally.heard.ended = none ∧ (stream.finalReceived = true → tally.heard.final) := by
  cases receives with
  | hearing all quiet lasts late => exact ⟨all, quiet, lasts, late⟩
  | deaf deaf => simp [deaf] at hears

theorem of_heard (all : after.told.data = after.heard.data) (quiet : after.told.ended = false)
    (lasts : after.heard.ended = none)
    (late : later.finalReceived → after.heard.final) : Receives (.of later) after := by
  unfold View.of
  split
  · exact .hearing all quiet lasts late
  · exact .gone ⟨by simp [all], by simp [quiet]⟩

theorem of_behind (behind : after.Behind) (deaf : later.phase.hears = false) :
    Receives (.of later) after := by
  unfold View.of
  split
  · exact .deaf deaf behind
  · exact .gone behind

theorem giveUp (receives : Receives view tally) (heard : tally.heard.Grows after.heard)
    (told : after.told = tally.told) : Receives .gone after := by
  obtain ⟨first, whole⟩ := receives.behind
  refine .gone ⟨?_, ?_⟩
  · rw [told]
    exact first.trans heard.data
  · rw [told]
    exact fun ended => heard.ended _ (whole ended)

theorem stays (receives : Receives view tally) (stays : view.Stays next) : Receives next tally := by
  rcases stays with rfl | ⟨-, rfl⟩
  · exact receives
  · exact receives.giveUp (.refl _) rfl

section

variable (receives : Receives (.live stream) tally) (heard : after.heard = tally.heard)
  (told : after.told = tally.told) (final : later.finalReceived = stream.finalReceived)
  (hears : later.phase.hears → stream.phase.hears)

include receives heard told final hears

theorem stay : Receives (.live later) after := by
  cases receives with
  | hearing all quiet lasts late =>
    exact .hearing (by rw [heard, told, all]) (by rw [told, quiet]) (by rw [heard, lasts])
      (by rwa [heard, final])
  | deaf deaf behind =>
    refine .deaf (by simpa [deaf] using hears) ⟨?_, ?_⟩
    · rw [heard, told]
      exact behind.told
    · rw [heard, told]
      exact behind.whole

theorem moveOn : Receives (.of later) after := by
  unfold View.of
  split
  · exact receives.stay heard told final hears
  · exact receives.giveUp (heard ▸ .refl _) told

end

theorem hearHeaders {fields : List Field} {priority : Option Priority} {endStream : Bool}
    (receives : Receives (.live stream) tally) (hears : stream.phase.hears)
    (final : later.finalReceived = !isInformational fields)
    (deaf : endStream = true → later.phase.hears = false) :
    Receives (.of later) ((tally.add id (.heard (.headers id fields priority endStream))).add id
      (.told (.headers id fields endStream))) := by
  obtain ⟨all, quiet, lasts, -⟩ := receives.heard hears
  cases endStream with
  | false =>
    refine of_heard ?_ ?_ ?_ ?_
    · simpa using all
    · simpa using quiet
    · simp [lasts]
    · rw [final]
      simp +contextual
  | true =>
    refine of_behind ⟨?_, ?_⟩ (deaf rfl)
    · simp [all]
    · simp [quiet]

theorem act (act : Act id view marks next) (receives : Receives view tally) :
    Receives next (tally.addAll id marks) := by
  cases act with
  | aside aside =>
    rw [addAll_neutral fun mark member => Mark.isNeutral_of_isAside (aside mark member)]
    exact receives
  | pass | refuseOwn | disown | refuseRemote | passOver | ignore =>
    exact receives.giveUp (tally.grows_heard _) rfl
  | drop | refuse => exact receives.giveUp (tally.grows_heard _) (by simp)
  | openLocal opens =>
    cases receives with
    | unused heard told =>
      obtain ⟨-, same⟩ := advance?_eq opens
      exact .hearing (by simp [heard, told]) (by simp [told]) (by simp [heard]) (by rw [same]; simp)
  | openRemote | reserveLocal | reserveRemote =>
    cases receives with
    | unused heard told =>
      exact .hearing (by simp [heard, told]) (by simp [told]) (by simp [heard]) (by simp [heard])
  | enqueue => exact receives.stay (by simp) (by simp) rfl (·)
  | enqueueTrailers | dispatch | inform => exact receives.stay rfl rfl rfl (·)
  | conclude canSend ends rest moves | trail canSend waits empty moves =>
    obtain ⟨moved, same⟩ := advance?_eq moves
    exact receives.moveOn (by simp) (by simp) (by rw [same]; rfl) (hears_of_next? moved)
  | respond canSend notYet final moves =>
    obtain ⟨moved, same⟩ := advance?_eq moves
    exact receives.moveOn (by simp) (by simp) (by rw [same]) (hears_of_next? moved)
  | promise | speak | hearPromise => exact receives
  | @receiveData _ _ octets endStream canReceive moves =>
    obtain ⟨all, quiet, lasts, late⟩ := receives.heard (hears_of_canReceive canReceive)
    cases endStream with
    | false =>
      cases moves
      -- the application is not told of a frame without octets
      refine of_heard ?_ ?_ ?_ ?_
      · cases octets <;> simp [all]
      · cases octets <;> simp [quiet]
      · cases octets <;> simp [lasts]
      · cases octets <;> simpa using late
    | true =>
      refine of_behind ⟨?_, ?_⟩ (deaf_of_receiveEnd (advance?_eq moves).1)
      · simp [all]
      · simp [all, lasts]
  | receiveFirst reserved moves =>
    obtain ⟨moved, same⟩ := advance?_eq moves
    rw [addAll_cons, addAll_cons, addAll_closing]
    refine receives.hearHeaders (by simp [reserved, Phase.hears]) (by rw [same]) fun ends => ?_
    subst ends
    exact deaf_of_receiveHeaders moved
  | receiveHeaders canReceive early moves =>
    obtain ⟨-, -, same⟩ := endIf?_eq moves
    rw [addAll_cons, addAll_cons, addAll_closing]
    refine receives.hearHeaders (hears_of_canReceive canReceive) (by rw [same]) fun ends => ?_
    subst ends
    exact deaf_of_receiveEnd (advance?_eq moves).1
  | receiveTrailers canReceive final moves =>
    obtain ⟨all, quiet, lasts, late⟩ := receives.heard (hears_of_canReceive canReceive)
    refine of_behind ⟨?_, ?_⟩ (deaf_of_receiveEnd (advance?_eq moves).1)
    · simp [all]
    · simp [all, lasts, late final]

end Receives

/-! ## Whole histories -/

/-- The item can be told from the frame that says it. -/
def Item.isProper : Item → Bool
  | other (.data ..) | other (.headers ..) | other (.pushPromise ..) => false
  | _ => true

theorem Item.isProper_of_isAside {frame : Frame} (aside : frame.isAside) :
    (other frame).isProper = true := by
  cases frame <;> first | rfl | cases aside

theorem Item.isProper_of_concerns {frame : Frame} (about : frame.concerns id) :
    (other frame).isProper = true := by
  cases frame <;> first | rfl | cases about

private theorem not_said_closing (id : Nat) (stream : Stream) (item : Item) :
    .said item ∉ closing id stream := by
  unfold closing
  split <;> simp

private theorem isProper_of_mem_dropping {stream : Stream} {reason : Reason}
    {announced : Bool} {error : Error}
    (member : .said item ∈ dropping id stream reason announced error) : item.isProper := by
  unfold dropping at member
  cases announced <;> cases stream.hasOutbound <;> simp at member <;> subst member <;> rfl

theorem Act.isProper {view next : View} (act : Act id view marks next)
    (member : .said item ∈ marks) :
    item.isProper = true := by
  cases act with
  | aside aside =>
    have aside := aside _ member
    cases item with
    | other frame => exact Item.isProper_of_isAside aside
    | _ => cases aside
  | speak about =>
    obtain rfl : item = .other _ := by simpa using member
    exact Item.isProper_of_concerns about
  | drop => exact isProper_of_mem_dropping member
  | refuse =>
    rw [mem_cons, or_iff_right (by simp)] at member
    exact isProper_of_mem_dropping member
  | receiveData =>
    split at member <;> simp [not_said_closing] at member
  | _ =>
    simp [not_said_closing] at member <;> subst member <;> rfl

namespace Mark

def took? : Mark → Option (Nat × Octets)
  | took stream octets => some (stream, octets)
  | _ => none

def said? : Mark → Option Item
  | said item => some item
  | _ => none

def heard? : Mark → Option Item
  | heard item => some item
  | _ => none

def told? : Mark → Option Event
  | told event => some event
  | _ => none

end Mark

theorem Mark.mem_said? : item ∈ marks.filterMap said? ↔ .said item ∈ marks := by
  rw [mem_filterMap]
  constructor
  · rintro ⟨mark, member, said⟩
    cases mark with
    | said => rwa [Option.some.inj said] at member
    | _ => cases said
  · exact fun member => ⟨_, member, rfl⟩

def octetsOn (id : Nat) (taken : List (Nat × Octets)) : Octets :=
  taken.flatMap fun (stream, octets) => if stream = id then octets else []

def Item.dataOn (id : Nat) : Item → Octets
  | data stream octets _ => if stream = id then octets else []
  | _ => []

namespace Event

def dataOn (id : Nat) : Event → Octets
  | data stream octets _ => if stream = id then octets else []
  | _ => []

def endsData (id : Nat) : Event → Bool
  | data stream _ endStream => stream == id && endStream
  | trailers stream _ => stream == id
  | _ => false

end Event

theorem Talk.data_foldl (id : Nat) (talk : Talk) (items : List Item) :
    (items.foldl (Talk.add id) talk).data = talk.data ++ items.flatMap (Item.dataOn id) := by
  induction items generalizing talk with
  | nil => simp
  | cons item rest ih =>
    rw [foldl_cons, ih, flatMap_cons, ← append_assoc]
    congr 1
    cases item with
    | data | headers =>
      simp only [add, Item.dataOn]
      split <;> simp
    | promise | other => simp [add, Item.dataOn]

theorem News.foldl_add (id : Nat) (news : News) (events : List Event) :
    events.foldl (News.add id) news =
      ⟨news.data ++ events.flatMap (Event.dataOn id),
        news.ended || events.any (Event.endsData id)⟩ := by
  induction events generalizing news with
  | nil => simp
  | cons event rest ih =>
    rw [foldl_cons, ih]
    cases event with
    | data stream | trailers stream =>
      by_cases here : stream = id <;>
        simp [add, Event.dataOn, Event.endsData, here, Bool.or_assoc, beq_false_of_ne]
    | _ => simp [add, Event.dataOn, Event.endsData]

theorem Tally.addAll_eq (tally : Tally) (marks : List Mark) :
    tally.addAll id marks =
      { taken := tally.taken ++ octetsOn id (marks.filterMap Mark.took?)
        said := (marks.filterMap Mark.said?).foldl (Talk.add id) tally.said
        heard := (marks.filterMap Mark.heard?).foldl (Talk.add id) tally.heard
        told := (marks.filterMap Mark.told?).foldl (News.add id) tally.told } := by
  induction marks generalizing tally with
  | nil => simp [octetsOn]
  | cons mark rest ih =>
    rw [addAll_cons, ih]
    cases mark with
    | took stream =>
      by_cases here : stream = id <;>
        simp [add, filterMap_cons, Mark.took?, Mark.said?, Mark.heard?, Mark.told?, octetsOn, here]
    | _ => simp [add, filterMap_cons, Mark.took?, Mark.said?, Mark.heard?, Mark.told?]

/-- The messages of all streams, after everything that has been done. -/
structure Kept (view : Nat → View) (marks : List Mark) : Prop where
  sends : ∀ id, Sends (view id) (({} : Tally).addAll id marks)
  receives : ∀ id, Receives (view id) (({} : Tally).addAll id marks)
  proper : ∀ item ∈ marks.filterMap Mark.said?, item.isProper

theorem Kept.start {view : Nat → View}
    (none : ∀ id, (∃ ours, view id = .unused ours) ∨ view id = .gone) : Kept view [] := by
  refine ⟨fun id => ?_, fun id => ?_, by simp⟩
  · rcases none id with ⟨ours, unused⟩ | gone
    · rw [unused]
      exact .unused rfl rfl
    · rw [gone]
      exact .gone ⟨prefix_refl _, by simp⟩
  · rcases none id with ⟨ours, unused⟩ | gone
    · rw [unused]
      exact .unused rfl rfl
    · rw [gone]
      exact .gone ⟨prefix_refl _, by simp⟩

section Kept

variable {scene after : Scene} {past : List Mark}

theorem SceneAct.kept (sceneAct : SceneAct scene marks after) (kept : Kept scene.view past) :
    Kept after.view (past ++ marks) := by
  obtain ⟨id, act, others, -⟩ := sceneAct
  refine ⟨fun other => ?_, fun other => ?_, fun item member => ?_⟩
  · rw [addAll_append]
    by_cases here : other = id
    · subst here
      exact (kept.sends other).act act
    · rw [act.addAll_other (Ne.symm here)]
      exact (kept.sends other).stays (others other here)
  · rw [addAll_append]
    by_cases here : other = id
    · subst here
      exact (kept.receives other).act act
    · rw [act.addAll_other (Ne.symm here)]
      exact (kept.receives other).stays (others other here)
  · rw [filterMap_append] at member
    rcases mem_append.mp member with old | new
    · exact kept.proper item old
    · exact act.isProper (Mark.mem_said?.mp new)

theorem SceneActs.kept (sceneActs : SceneActs scene marks after) (kept : Kept scene.view past) :
    Kept after.view (past ++ marks) := by
  induction sceneActs with
  | refl => simpa using kept
  | tail _ sceneAct ih =>
    rw [← append_assoc]
    exact sceneAct.kept ih

end Kept

end Http2
