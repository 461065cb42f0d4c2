import Http2.Proofs.Chunking
import Http2.Proofs.Isolation
import Http2.Proofs.Record
import Http2.Proofs.Steady

/-!
# How a session goes on

A `Passage` leads from one state of a session to a later one by any uses of it, with what has
happened on the wire and the events that were taken out on the way.  Behind it the lives of the
streams go on, and the events about a stream that has closed are complete.

The octets that a session is given are frames in the end.  `Reads` says which ones they begin with,
and to receive the octets is to handle these frames and then what is left.
-/

namespace Http2

open Session List

theorem Life.told_of_gone {id : Nat} {start view : View} {marks : List Mark}
    (life : Life id start marks view) (gone : start = .gone) : toldIn marks = [] := by
  have still : view = .gone ∧ toldIn marks = [] := by
    induction life with
    | refl => exact ⟨gone, rfl⟩
    | @tail marks more view next _ act own ih =>
      obtain ⟨rfl, silent⟩ := ih
      have telling := act.telling own
      rw [toldIn_append, silent]
      generalize toldIn more = told at telling
      cases telling
      exact ⟨rfl, rfl⟩
  exact still.2

namespace Session

def Passage (start : Session) (log : List Activity) (handed : List Event) (session : Session) :
    Prop :=
  ∃ uses, start.after uses = session ∧ start.along loggedBy uses = log ∧
    start.along handedBy uses = handed

variable {start session : Session} {log before : List Activity} {handed earlier : List Event}
  {role : Role} {config : Config} {now id : Nat}

theorem Passage.run (passage : Passage start log handed session) (run : Run start before) :
    Run session (before ++ log) := by
  obtain ⟨uses, rfl, rfl, -⟩ := passage
  exact run.after uses

theorem Passage.after (passage : Passage start log handed session) (uses : List Use) :
    Passage start (log ++ session.along loggedBy uses) (handed ++ session.along handedBy uses)
      (session.after uses) := by
  obtain ⟨earlier, rfl, rfl, rfl⟩ := passage
  exact ⟨earlier ++ uses, after_append .., along_append .., along_append ..⟩

/-! ## Lives along a passage -/

/-- The lives of the streams between two sessions, with the events that were told, whether or not
they have been taken out. -/
structure Told (start : Connection) (marks : List Mark) (handed : List Event) (conn : Connection) :
    Prop where
  life : ∀ id, Life id (start.registry.view id) (marks.filter (Mark.isOn id))
    (conn.registry.view id)
  events : handed ++ conn.events = start.events ++ toldIn marks

namespace Told

variable {start conn after : Connection} {given marks more : List Mark}

theorem lasts (told : Told (fresh role config) marks handed conn) (live : conn.registry.IsLive id) :
    ∀ event ∈ (handed ++ conn.events).filter (Event.isAbout id), event.isClosure = false := by
  obtain ⟨stream, view⟩ := Registry.isLive_iff_view.mp live
  obtain ⟨-, tied⟩ := (told.life id).tale (fresh_view role config id)
  have events : handed ++ conn.events = toldIn marks := told.events
  rw [toldIn_filter, ← events, view] at tied
  cases tied with
  | live going => exact fun event member => (going.lasts event member).1

variable (told : Told start marks handed conn)

include told

theorem lived (lived : Connection.Lived conn given more after) :
    Told start (marks ++ more) handed after where
  life id := by
    rw [filter_append]
    exact (told.life id).trans (lived.life id)
  events := by
    rw [lived.events, ← append_assoc, told.events, toldIn_append, append_assoc]

theorem hand {taken rest : List Event} (split : conn.events = taken ++ rest)
    (outbound : List Outgoing) :
    Told start marks (handed ++ taken) { conn with outbound, events := rest } where
  life := told.life
  events := by rw [append_assoc, ← split, told.events]

theorem eventsOn (gone : start.registry.view id = .gone) :
    (handed ++ conn.events).filter (Event.isAbout id) = start.events.filter (Event.isAbout id) := by
  have silent := (told.life id).told_of_gone gone
  rw [told.events, filter_append, ← toldIn_filter, silent, append_nil]

end Told

theorem create_told (created : create role config now = .ok session) :
    ∃ config marks, Told (fresh role config) marks [] session.connection := by
  obtain ⟨marks, recorded⟩ := create_recorded created
  exact ⟨config, marks, recorded.life, recorded.told⟩

theorem Told.begin (conn : Connection) : Told conn [] [] conn :=
  ⟨fun _ => .refl, (append_nil _).symm⟩

theorem Told.used {origin : Connection} {marks : List Mark}
    (told : Told origin marks handed session.connection)
    (sound : session.connection.closed = false → session.connection.Sound) (use : Use) :
    ∃ marks, Told origin marks (handed ++ session.handedBy use) (session.use use).connection := by
  cases takes : use.takes with
  | true =>
    obtain ⟨rest, events, same | same⟩ := use_takes takes <;> rw [same]
    · exact ⟨marks, told.hand events _⟩
    · exact ⟨marks, told.hand events _⟩
  | false =>
    obtain ⟨more, lived⟩ := use_lived sound takes
    rw [handedBy_of_acts takes, append_nil]
    exact ⟨_, told.lived lived⟩

theorem Passage.told {origin : Connection} {first : List Mark}
    (passage : Passage start log handed session) (run : Run start before)
    (told : Told origin first earlier start.connection) :
    ∃ marks, Told origin marks (earlier ++ handed) session.connection := by
  obtain ⟨uses, rfl, -, rfl⟩ := passage
  induction uses using List.reverseRecOn with
  | nil => exact ⟨first, by rwa [along_nil, append_nil]⟩
  | append_singleton uses use ih =>
    obtain ⟨marks, told⟩ := ih
    rw [after_concat, along_concat, ← append_assoc]
    exact told.used (run.after uses).sound use

end Session

/-! ## Octets as frames -/

namespace Connection

variable {conn : Connection}

def handleAll (conn : Connection) (frames : List Frame) : Connection :=
  frames.foldl handle conn

theorem handleAll_concat (conn : Connection) (frames : List Frame) (frame : Frame) :
    conn.handleAll (frames ++ [frame]) = (conn.handleAll frames).handle frame := by
  rw [handleAll, foldl_append]
  rfl

/-- A frame that leaves the connection open is entered in the books, whatever came of it. -/
theorem handle_handled {frame : Frame} (sound : conn.Sound)
    (going : (conn.handle frame).closed = false) :
    ∃ reasons written, Handled reasons conn frame written (conn.handle frame) := by
  rcases handle_cases sound frame with ⟨written, handled⟩ | ⟨_, _, _, -, -, failed, -⟩
  · exact ⟨_, written, handled⟩
  · rw [failed, closed_fail] at going
    cases going

theorem handle_sound (sound : conn.Sound) {frame : Frame}
    (opened : (conn.handle frame).closed = false) : (conn.handle frame).Sound := by
  obtain ⟨_, _, handled⟩ := handle_handled sound opened
  exact handled.sound

/-- A connection that is open takes the frames from the octets at hand, one by one, and goes on
after each of them but possibly the last. -/
def Reads (conn : Connection) (reader : Reader) : List Frame → Reader → Prop
  | [], rest => reader = rest
  | frame :: frames, rest => conn.closed = false ∧
      ∃ next, { reader with frameLimit := conn.frameLimit }.next = (.ok (some frame), next) ∧
        (conn.handle frame).Reads next frames rest

namespace Reads

variable {reader rest : Reader} {frames : List Frame} {frame : Frame}

theorem opened {later : List Frame} (reads : conn.Reads reader (frames ++ frame :: later) rest) :
    conn.closed = false := by
  cases frames with
  | nil => exact reads.1
  | cons => exact reads.1

theorem split {later : List Frame} (reads : conn.Reads reader (frames ++ frame :: later) rest) :
    (conn.handleAll frames).closed = false ∧ ∃ middle, conn.Reads reader frames middle ∧
        (conn.handleAll frames).Reads middle (frame :: later) rest := by
  induction frames generalizing conn reader with
  | nil => exact ⟨reads.1, reader, rfl, reads⟩
  | cons first frames ih =>
    obtain ⟨opened, next, read, reads⟩ := reads
    obtain ⟨still, middle, reads, remain⟩ := ih reads
    exact ⟨still, middle, ⟨opened, next, read, reads⟩, remain⟩

theorem sound (reads : conn.Reads reader frames rest) (sound : conn.Sound)
    (opened : (conn.handleAll frames).closed = false) : (conn.handleAll frames).Sound := by
  induction frames generalizing conn reader with
  | nil => exact sound
  | cons frame frames ih =>
    obtain ⟨-, next, -, reads⟩ := reads
    refine ih reads (handle_sound sound ?_) opened
    cases frames with
    | nil => exact opened
    | cons => exact reads.1

/-- To consume octets is to handle the frames that they begin with, and then the rest. -/
theorem consume (reads : conn.Reads reader frames rest) (sound : conn.Sound)
    (opened : conn.closed = false) :
    (consume reader conn).2 =
      if (conn.handleAll frames).closed then ⟨rest, conn.handleAll frames⟩
      else (consume rest (conn.handleAll frames)).2 := by
  induction frames generalizing conn reader with
  | nil =>
    obtain rfl : reader = rest := reads
    exact (if_neg (Bool.eq_false_iff.mp opened)).symm
  | cons frame frames ih =>
    obtain ⟨opened, next, read, reads⟩ := reads
    have first := consume_of_next sound opened read
    cases still : (conn.handle frame).closed with
    | false =>
      rw [still, if_neg Bool.false_ne_true] at first
      exact first.trans (ih reads (handle_sound sound still) still)
    | true =>
      rw [still, if_pos rfl] at first
      cases frames with
      | nil =>
        obtain rfl : next = rest := reads
        rw [first]
        exact (if_pos still).symm
      | cons => cases still.symm.trans reads.1

/-- The error of a frame that ends the session is what the reader of the octets is told. -/
theorem consume_fails {error : Error} {later : Connection}
    (reads : conn.Reads reader (frames ++ [frame]) rest)
    (sound : conn.Sound)
    (ran : (receiveFrame frame).run (conn.handleAll frames) = .error error later)
    (fatal : error.isFatal) : (Session.consume reader conn).1 = .error error := by
  induction frames generalizing conn reader with
  | nil =>
    obtain ⟨-, next, read, -⟩ := reads
    have ran : (receiveFrame frame).run conn = .error error later := ran
    rw [consume_eq_proceed, read]
    simp only [proceed, ran, fatal, if_true]
  | cons first frames ih =>
    obtain ⟨opened, next, read, reads⟩ := reads
    have going := reads.opened
    have still := ih reads (handle_sound sound going) ran
    rw [consume_eq_proceed, read]
    cases first_ran : (receiveFrame first).run conn with
    | ok _ after =>
      rw [handle_of_ok first_ran] at still
      simpa only [proceed, first_ran] using still
    | error error after =>
      rw [handle_of_error first_ran] at going still
      cases ends : error.isFatal with
      | true =>
        rw [if_pos ends, closed_fail] at going
        cases going
      | false =>
        rw [if_neg (Bool.eq_false_iff.mp ends)] at still
        simpa only [proceed, first_ran, ends, Bool.false_eq_true, if_false] using still

end Reads

end Connection

namespace Session

variable {session : Session}

theorem receive_of_reads {octets : Octets} {frames : List Frame} {rest : Reader}
    (reads : session.connection.Reads (session.reader.feed octets) frames rest)
    (sound : session.connection.Sound) (opened : session.connection.closed = false)
    (going : (session.connection.handleAll frames).closed = false) :
    (session.receive octets).2 = (consume rest (session.connection.handleAll frames)).2 := by
  rw [receive_of_open opened, reads.consume sound opened, if_neg (Bool.eq_false_iff.mp going)]

end Session

end Http2
