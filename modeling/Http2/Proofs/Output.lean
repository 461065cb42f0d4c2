import Http2.Proofs.Identifiers
import Http2.Proofs.Readings
import Http2.Proofs.Strays

/-!
# What a connection writes

A frame of the peer or a call of the application makes a connection write, and each header list that
it writes moves the table of its encoder on.  `Output` says what is written between two states.  The
header blocks are those of the headings, compressed one after the other; trailers that wait are sent
or dropped and never made up; every frame names a stream that the peer can read, and keeps to the
peer's limit on frames unless its words are given; and the window that the peer has for the
connection is at most refilled to its target.

Where nothing but waiting streams is sent, the headings are the trailers that waited: this is what
`Releases` adds.
-/

namespace Http2

open Registry List

structure Heading where
  stream : Nat
  fields : List Field

def Header.pack (table : Header.Table) : List Heading → List (Nat × Octets) × Header.Table
  | [] => ([], table)
  | heading :: rest =>
    let (block, next) := Header.encodeBlock table heading.fields
    let (blocks, last) := pack next rest
    ((heading.stream, block) :: blocks, last)

private theorem Header.pack_append (table : Header.Table) (first second : List Heading) :
    Header.pack table (first ++ second) =
      ((Header.pack table first).1 ++ (Header.pack (Header.pack table first).2 second).1,
        (Header.pack (Header.pack table first).2 second).2) := by
  induction first generalizing table with
  | nil => rfl
  | cons heading rest ih => simp only [cons_append, Header.pack, ih]

namespace Frame

def block? : Frame → Option (Nat × Octets)
  | headers id _ block _ => some (id, block)
  | pushPromise id _ block => some (id, block)
  | _ => none

/-- The table with which the block of a frame is read moves on, and the block is whole. -/
def Decodes (frame : Frame) (before after : Header.Table) : Prop :=
  match frame.block? with
  | none => after = before
  | some (_, block) => ∃ fields, Header.decodeBlock before block = (.ok fields, after)

/-- The frame names a stream where its kind asks for one, and numbers that fit into 31 bits. -/
def Legible : Frame → Prop
  | data id _ _ padding => NamesStream id ∧ padding = none
  | headers id .. | priority id _ | rstStream id _ | pushPromise id .. => NamesStream id
  | settings ack parameters => ack = true → parameters = []
  | windowUpdate id _ | altSvc id .. => id ≤ maxStreamId
  | unknown .. => False
  | _ => True

/-- The data keeps to the limit, and what says more than its kind has such words. -/
def Keeps (words : Frame → Prop) (limit : Nat) (frame : Frame) : Prop :=
  match frame with
  | data _ octets _ _ => octets.length ≤ limit
  | settings false _ | goaway .. | altSvc .. | origin _ => words frame
  | _ => True

end Frame

/-- The frame takes leave of a session that the error ends. -/
def Error.Goaway (error : Error) (frame : Frame) : Prop :=
  ∃ last, frame = .goaway last error.reason.code (Header.encodeUtf8 error.debugText)

def Call.Words (call : Call) (frame : Frame) : Prop :=
  match call with
  | sendSettings changes _ => frame = .settings false (wireForm changes)
  | sendGoaway _ reason debug => ∃ last, frame = .goaway last reason.code debug
  | sendAltSvc id origin value => frame = .altSvc id origin value
  | sendOrigin origins => frame = .origin origins
  | _ => False

namespace Outgoing

def block? : Outgoing → Option (Nat × Octets)
  | preface => none
  | frame _ content => content.block?

/-- The preface comes before all frames and is none of them. -/
def Legible : Outgoing → Prop
  | preface => False
  | frame _ content => content.Legible

/-- The frame goes out under one of the two limits of the peer. -/
def Keeps (words : Frame → Prop) (earlier later : Settings) : Outgoing → Prop
  | preface => False
  | frame limit content =>
    (limit = earlier.maxFrameSize ∨ limit = later.maxFrameSize) ∧ content.Keeps words limit

end Outgoing

def blocksIn (written : List Outgoing) : List (Nat × Octets) := written.filterMap Outgoing.block?

theorem blocksIn_append (first second : List Outgoing) :
    blocksIn (first ++ second) = blocksIn first ++ blocksIn second := filterMap_append

namespace Registry

variable {registry before after : Registry} {id : Nat} {stream : Stream}

def trailers? (registry : Registry) (id : Nat) : Option (List Field) :=
  (registry.held? id).bind Cargo.trailers

/-- Every stream held, our next one and the last one of the peer have numbers that name streams. -/
structure Named (registry : Registry) : Prop where
  held : ∀ id, (registry.held? id).isSome = true → NamesStream id
  next : 0 < registry.nextLocal
  last : registry.lastRemote ≤ maxStreamId

/-- Trailers that wait have waited before, and numbers go on naming streams. -/
structure NoNewTrailers (before after : Registry) : Prop where
  trailers : ∀ id fields, after.trailers? id = some fields → before.trailers? id = some fields
  named : before.Named → after.Named

private theorem trailers?_of_get? (held : registry.get? id = some stream) :
    registry.trailers? id = stream.trailers := by
  rw [trailers?, held?, held]
  rfl

theorem Named.of_get? (named : registry.Named) (held : registry.get? id = some stream) :
    NamesStream id := by
  apply named.held
  rw [held?, held]
  rfl

theorem Named.modify (named : registry.Named) (id : Nat) (f : Stream → Stream) :
    (registry.modify id f).Named := by
  refine ⟨fun other held => named.held other ?_, named.next, named.last⟩
  rw [held?, get?_modify] at held
  rw [held?]
  split at held <;> simpa using held

namespace NoNewTrailers

theorem refl (registry : Registry) :
    registry.NoNewTrailers registry := ⟨fun _ _ same => same, fun named => named⟩

section Changes

variable (noNew : before.NoNewTrailers registry)

include noNew

theorem of_held (kept : ∀ id, after.held? id = registry.held? id ∨ after.held? id = none)
    (next : registry.nextLocal ≤ after.nextLocal)
    (last : after.lastRemote = registry.lastRemote ∨ after.lastRemote ≤ maxStreamId) :
    before.NoNewTrailers after where
  trailers id fields waits := by
    refine noNew.trailers id fields ?_
    rcases kept id with same | gone
    · rwa [trailers?, same] at waits
    · rw [trailers?, gone] at waits
      cases waits
  named named := by
    have earlier := noNew.named named
    refine ⟨fun id held => ?_, Nat.lt_of_lt_of_le earlier.next next,
      last.elim (· ▸ earlier.last) id⟩
    rcases kept id with same | gone
    · exact earlier.held id (same ▸ held)
    · rw [gone] at held
      cases held

theorem insert (names : before.Named → NamesStream id)
    (trailers : ∀ fields, stream.trailers = some fields → registry.trailers? id = some fields) :
    before.NoNewTrailers (registry.insert id stream) where
  trailers other fields waits := by
    refine noNew.trailers other fields ?_
    rw [trailers?, held?_insert] at waits
    split at waits
    · rename_i same
      subst same
      exact trailers fields waits
    · exact waits
  named named := by
    have earlier := noNew.named named
    refine ⟨fun other held => ?_, earlier.next, earlier.last⟩
    rw [held?_insert] at held
    split at held
    · rename_i same
      subst same
      exact names named
    · exact earlier.held other held

theorem modify (id : Nat) {f : Stream → Stream}
    (trailers : ∀ stream fields, (f stream).trailers = some fields →
      stream.trailers = some fields) :
    before.NoNewTrailers (registry.modify id f) where
  trailers other fields waits := by
    refine noNew.trailers other fields ?_
    rw [trailers?, held?, get?_modify] at waits
    rw [trailers?, held?]
    split at waits
    · cases held : registry.get? other with
      | none => simp [held] at waits
      | some stream =>
        rw [held] at waits
        exact trailers stream fields waits
    · exact waits
  named named := (noNew.named named).modify id f

theorem markClosed (id : Nat) : before.NoNewTrailers (registry.markClosed id).2 :=
  noNew.of_held (fun other => (held?_markClosed registry id other).imp_right And.left)
    (Nat.le_refl _) (.inl rfl)

theorem detachChildren (id : Nat) : before.NoNewTrailers (registry.detachChildren id) :=
  noNew.of_held (fun other => .inl (held?_detachChildren registry id other))
    (Nat.le_refl _) (.inl rfl)

theorem reprioritize (id : Nat) (priority : Priority) :
    before.NoNewTrailers (registry.reprioritize id priority) := by
  refine noNew.of_held (fun other => .inl (held?_reprioritize registry id other priority))
    (Nat.le_of_eq ?_) (.inl ?_) <;> rw [reprioritize_eq]

end Changes

end NoNewTrailers

end Registry

namespace Connection

/-- Between two states the headings have been written, and frames in such words. -/
structure Output (words : Frame → Prop) (heads : List Heading)
    (before after : Connection) : Prop where
  registry : before.registry.NoNewTrailers after.registry
  encoder : after.encoder = (Header.pack before.encoder heads).2
  decoder : after.decoder = before.decoder
  wrote : ∃ written, after.outbound = before.outbound ++ written ∧
    blocksIn written = (Header.pack before.encoder heads).1 ∧
    (before.registry.Named → ∀ outgoing ∈ written, outgoing.Legible) ∧
    ∀ outgoing ∈ written, outgoing.Keeps words before.exchange.peer after.exchange.peer
  valid : before.exchange.Sound → after.exchange.peer.Valid
  target : after.receiveTarget = before.receiveTarget
  window : after.receiveWindows.connection ≤
    max before.receiveWindows.connection (before.receiveTarget : Int)

variable {words : Frame → Prop} {heads more : List Heading} {start conn middle after : Connection}
  {id limit : Nat} {frame : Frame} {result : Except Error Unit} {registry : Registry}

namespace Output

theorem refl (conn : Connection) : Output words [] conn conn where
  registry := .refl _
  encoder := rfl
  decoder := rfl
  wrote := ⟨[], (append_nil _).symm, rfl, by simp, by simp⟩
  valid sound := sound.peer
  target := rfl
  window := Int.le_max_left _ _

section Changes

variable (output : Output words heads start conn) {stream next : Stream} {error : Error}

include output

/-! ## What a connection does -/

theorem keep (registry : start.registry.NoNewTrailers after.registry)
    (encoder : after.encoder = conn.encoder) (decoder : after.decoder = conn.decoder)
    (outbound : after.outbound = conn.outbound) (peer : after.exchange.peer = conn.exchange.peer)
    (target : after.receiveTarget = conn.receiveTarget)
    (window : after.receiveWindows.connection ≤
      max conn.receiveWindows.connection (conn.receiveTarget : Int)) : Output words
        heads start after where
  registry := registry
  encoder := encoder.trans output.encoder
  decoder := decoder.trans output.decoder
  wrote := by
    rw [outbound, peer]
    exact output.wrote
  valid sound := peer ▸ output.valid sound
  target := target.trans output.target
  window := by
    have earlier := output.window
    rw [output.target] at window
    omega

theorem setRegistry (noNew : start.registry.NoNewTrailers registry) :
    Output words heads start { conn with registry } :=
  output.keep noNew rfl rfl rfl rfl rfl (Int.le_max_left _ _)

theorem setSendWindows (windows : Windows) :
    Output words heads start { conn with sendWindows := windows } :=
  output.keep output.registry rfl rfl rfl rfl rfl (Int.le_max_left _ _)

theorem setExchange {exchange : Exchange} (peer : exchange.peer = conn.exchange.peer) :
    Output words heads start { conn with exchange } :=
  output.keep output.registry rfl rfl rfl peer rfl (Int.le_max_left _ _)

theorem emit (event : Event) : Output words heads start (conn.emit event) :=
  output.keep output.registry rfl rfl rfl rfl rfl (Int.le_max_left _ _)

theorem utter {table : Header.Table}
    (packed : Header.pack conn.encoder more = (frame.block?.toList, table))
    (legible : start.registry.Named → frame.Legible)
    (keeps : frame.Keeps words conn.exchange.peer.maxFrameSize) :
    Output words (heads ++ more) start ({ conn with encoder := table }.write frame) := by
  obtain ⟨written, outbound, blocks, readable, kept⟩ := output.wrote
  have whole := Header.pack_append start.encoder heads more
  rw [← output.encoder, packed] at whole
  refine ⟨output.registry, ?_, output.decoder, ⟨written ++
    [.frame conn.exchange.peer.maxFrameSize frame], ?_, ?_, ?_, ?_⟩, output.valid,
    output.target, output.window⟩
  · rw [whole]
    rfl
  · rw [← append_assoc, ← outbound]
    rfl
  · rw [blocksIn_append, blocks, whole]
    simp only [blocksIn, filterMap_cons, Outgoing.block?, filterMap_nil]
    cases frame.block? <;> rfl
  · exact fun named =>
      forall_mem_append.mpr ⟨readable named, forall_mem_singleton.mpr (legible named)⟩
  · exact forall_mem_append.mpr ⟨kept, forall_mem_singleton.mpr ⟨.inr rfl, keeps⟩⟩

theorem write (frame : Frame) (plain : frame.block? = none)
    (legible : start.registry.Named → frame.Legible)
    (keeps : frame.Keeps words conn.exchange.peer.maxFrameSize) :
    Output words heads start (conn.write frame) := by
  have packed : Header.pack conn.encoder [] = (frame.block?.toList, conn.encoder) := by
    rw [plain]
    rfl
  have uttered := output.utter packed legible keeps
  rwa [append_nil] at uttered

theorem writeBlock {fields : List Field}
    (carries : frame.block? = some (id, (conn.compress fields).1))
    (legible : start.registry.Named → frame.Legible)
    (keeps : frame.Keeps words conn.exchange.peer.maxFrameSize) :
    Output words (heads ++ [⟨id, fields⟩]) start ((conn.compress fields).2.write frame) :=
  output.utter (by rw [carries]; rfl) legible keeps

theorem writeHeaders (fields : List Field) (priority : Option Priority) (endStream : Bool)
    (names : start.registry.Named → NamesStream id) :
    Output words (heads ++ [⟨id, fields⟩]) start (conn.writeHeaders id fields priority endStream) :=
  output.writeBlock rfl names trivial

theorem modifyStream (id : Nat) {f : Stream → Stream}
    (trailers : ∀ stream fields, (f stream).trailers = some fields →
      stream.trailers = some fields) :
    Output words heads start (conn.modifyStream id f) :=
  output.setRegistry (output.registry.modify id trailers)

theorem reprioritize (id : Nat) (priority : Priority) :
    Output words heads start (conn.reprioritize id priority) :=
  output.setRegistry (output.registry.reprioritize id priority)

theorem reprioritizeIf (id : Nat) (priority : Option Priority) :
    Output words heads start (conn.reprioritizeIf id priority) := by
  cases priority with
  | none => exact output
  | some priority => exact output.reprioritize id priority

theorem refill {target : Nat} (fits : id = 0 ∧ target = conn.receiveTarget ∨
      id ≠ 0 ∧ (start.registry.Named → NamesStream id)) :
    Output words heads start (conn.refill id target) := by
  unfold Connection.refill
  split
  · exact output
  · rename_i increment windows refilled
    obtain ⟨window, held, -, -, rfl⟩ := Windows.refill_eq refilled
    have credited : Output words heads start { conn with
        receiveWindows := conn.receiveWindows.setWindow id (min target maxWindow : Nat) } := by
      refine output.keep output.registry rfl rfl rfl rfl rfl ?_
      rcases fits with ⟨rfl, rfl⟩ | ⟨stands, -⟩
      · simp only [Windows.setWindow, if_true]
        omega
      · simp only [Windows.setWindow, if_neg stands]
        exact Int.le_max_left _ _
    refine credited.write _ rfl (fun named => ?_) trivial
    show id ≤ maxStreamId
    rcases fits with ⟨rfl, -⟩ | ⟨-, names⟩
    · exact Nat.zero_le _
    · exact (names named).2

theorem addStream (names : start.registry.Named → NamesStream id) (fresh : stream.trailers = none) :
    Output words heads start (conn.addStream id stream) := by
  refine output.keep (output.registry.insert names fun fields waits => ?_) rfl rfl rfl rfl rfl ?_
  · cases fresh.symm.trans waits
  · simp only [Connection.addStream, Windows.openStream]
    split <;> exact Int.le_max_left _ _

theorem finishStream (id : Nat) (reason : Option Reason) :
    Output words heads start (conn.finishStream id reason) :=
  output.keep ((output.registry.detachChildren id).markClosed id) rfl rfl rfl rfl rfl
    (Int.le_max_left _ _)

theorem names_of_get? (held : conn.registry.get? id = some stream) (named : start.registry.Named) :
    NamesStream id :=
  (output.registry.named named).of_get? held

theorem insertHeld (held : conn.registry.get? id = some stream)
    (trailers : ∀ fields, next.trailers = some fields → stream.trailers = some fields) :
    Output words heads start { conn with registry := conn.registry.insert id next } := by
  refine output.setRegistry (output.registry.insert (output.names_of_get? held)
    fun fields waits => ?_)
  rw [trailers?_of_get? held]
  exact trailers fields waits

theorem dropStream (id : Nat) (reason : Reason) (announced : Bool) (error : Error) :
    Output words heads start (conn.dropStream id reason announced error) := by
  unfold Connection.dropStream
  split
  · exact output
  · rename_i stream held
    split
    · have reset : Output words heads start
          { conn with registry := conn.registry.insert id (stream.reset reason) } :=
        output.insertHeld held fun fields waits => nomatch waits
      refine finishStream ?_ id _
      have told := reset.write (.rstStream id reason.code) rfl (output.names_of_get? held) trivial
      split <;> split
      · exact told.emit _
      · exact reset.emit _
      · exact told
      · exact reset
    · exact output

theorem dropAll (ids : List Nat) (reason : Reason) (error : Nat → Error) :
    Output words heads start
      (ids.foldl (fun conn id => conn.dropStream id reason false (error id)) conn) := by
  exact holds_dropAll ids output fun id output => output.dropStream id reason false (error id)

theorem settled {signal : Signal} (held : conn.registry.get? id = some stream)
    (moves : stream.advance? signal = some next) :
    Output words heads start (conn.settled id next) := by
  have moved : Output words heads start { conn with registry := conn.registry.insert id next } := by
    obtain ⟨phase, -, rfl⟩ := Option.map_eq_some_iff.mp moves
    exact output.insertHeld held fun _ waits => waits
  exact holds_settled moved fun _ => moved.finishStream id none

theorem advanceAnyway (id : Nat) (signal : Signal) :
    Output words heads start (conn.advanceAnyway id signal) :=
  holds_advanceAnyway output output.settled

theorem sayFarewell {last : Nat} {reason : Reason} {debug : Octets}
    (worded : words (.goaway last reason.code debug)) :
    Output words heads start (conn.sayFarewell last reason debug) := by
  have written := output.write (.goaway last reason.code debug) rfl (fun _ => trivial) worded
  exact written.keep written.registry rfl rfl rfl rfl rfl (Int.le_max_left _ _)

theorem teardown (reason : Reason) : Output words heads start (conn.teardown reason) :=
  (output.dropAll _ reason fun _ => .sessionClosed).setSendWindows _

theorem setClosed : Output words heads start { conn with closed := true } :=
  output.keep output.registry rfl rfl rfl rfl rfl (Int.le_max_left _ _)

theorem fail (worded : ∀ frame, error.Goaway frame → words frame) :
    Output words heads start (conn.fail error) := by
  unfold Connection.fail
  split
  · exact output
  · exact (((output.sayFarewell (worded _ ⟨_, rfl⟩)).teardown _).emit _).setClosed

theorem close (worded : ∀ last, words (.goaway last Reason.noError.code [])) :
    Output words heads start conn.close := by
  unfold Connection.close
  split
  · exact output
  · refine setClosed (teardown ?_ _)
    split
    · exact output.sayFarewell (worded _)
    · exact output

theorem refuseStream (reason : Reason) (names : start.registry.Named → NamesStream id) :
    Output words heads start (conn.refuseStream id reason) := by
  have recorded :
      start.registry.NoNewTrailers (conn.registry.insert id (({} : Stream).reset reason)) :=
    output.registry.insert names fun fields waits => nomatch waits
  exact (output.setRegistry (recorded.markClosed id)).write _ rfl names trivial

theorem refuseOwn (names : start.registry.Named → NamesStream id) :
    Output words heads start (conn.refuseOwn id) := by
  have recorded :
      start.registry.NoNewTrailers (conn.registry.insert id (({} : Stream).reset .refusedStream)) :=
    output.registry.insert names fun fields waits => nomatch waits
  exact (output.setRegistry recorded).finishStream ..

theorem absorb (names : ∀ id, error.faulty? = some id → NamesStream id) :
    Output words heads start (conn.absorb error) :=
  holds_absorb output (fun _ => output.dropStream ..) fun faulty =>
    output.write _ rfl (fun _ => names _ faulty) trivial

end Changes

end Output

/-! ## Work on what waits -/

/-- All headings that are written are trailers that waited at the start. -/
def Releases (words : Frame → Prop) (start after : Connection) : Prop :=
  ∃ heads, Output words heads start after ∧
    ∀ heading ∈ heads, start.registry.trailers? heading.stream = some heading.fields

theorem Output.releases (output : Output words [] start after) : Releases words start after :=
  ⟨[], output, fun _ member => nomatch member⟩

namespace Releases

theorem refl (conn : Connection) : Releases words conn conn := (Output.refl conn).releases

section Changes

variable (releases : Releases words start conn)

include releases

theorem andThen
    (step : ∀ {heads : List Heading}, Output words heads start conn →
      Output words heads start after) :
    Releases words start after := by
  obtain ⟨heads, output, waited⟩ := releases
  exact ⟨heads, step output, waited⟩

theorem writeTrailers {fields : List Field} (waits : conn.registry.trailers? id = some fields)
    (step : ∀ {heads : List Heading}, Output words heads start conn →
      Output words (heads ++ [⟨id, fields⟩]) start after) : Releases words start after := by
  obtain ⟨heads, output, waited⟩ := releases
  refine ⟨heads ++ [⟨id, fields⟩], step output, fun heading member => ?_⟩
  rcases mem_append.mp member with member | member
  · exact waited heading member
  · rw [mem_singleton.mp member]
    exact output.registry.trailers _ _ waits

theorem flush (id : Nat) : Releases words start (conn.flush id) := by
  refine holds_flush id releases fun _ _ => ⟨fun releases held _ short => ?_, fun _ releases => ?_,
    fun releases => ?_,
    fun {conn _ fields} releases held waits => ?_, fun {conn _} releases held => ?_⟩
  · exact releases.andThen fun output => (output.setSendWindows _).write _ rfl
      (fun named => ⟨output.names_of_get? held named, rfl⟩) short
  · exact releases.andThen fun output => output.modifyStream id fun _ _ waits => waits
  · exact releases.andThen fun output => output.setSendWindows _
  all_goals
    have ended : ∀ {heads : List Heading}, Output words heads start conn →
        Output words heads start (conn.modifyStream id Stream.endSent) := fun output =>
      output.modifyStream id fun _ _ waits => nomatch waits
  · refine releases.writeTrailers ((trailers?_of_get? held).trans waits) fun output => ?_
    exact ((ended output).writeHeaders fields none true (output.names_of_get? held)).advanceAnyway _
      _
  · refine ⟨releases.andThen fun output => (ended output).advanceAnyway _ _,
      releases.andThen fun output => ?_⟩
    refine .advanceAnyway ((ended output).write _ rfl (fun named => ?_) (Nat.zero_le _)) _ _
    exact ⟨output.names_of_get? held named, rfl⟩

theorem resumeIf (condition : Bool) : Releases words start (resumeIf condition conn) :=
  holds_resumeIf releases fun releases _ =>
    (releases.andThen fun output => output.setSendWindows _).flush _

end Changes

end Releases

/-! ## Frames -/

namespace Output

section Changes

variable (output : Output words heads start conn) {windows : Windows}
  {count : Nat} {endStream : Bool} {result : Except Error Unit}

include output

theorem emitIf (condition : Bool) (event : Event) :
    Output words heads start (conn.emitIf condition event) := by
  unfold Connection.emitIf
  split
  · exact output.emit event
  · exact output

theorem debited (paid : conn.receiveWindows.chargeConnection count = .ok windows) :
    Output words heads start (conn.debited windows) := by
  obtain ⟨-, rfl⟩ := Windows.chargeConnection_eq paid
  refine refill ?_ (.inl ⟨rfl, rfl⟩)
  refine output.keep output.registry rfl rfl rfl rfl rfl ?_
  simp only
  omega

theorem deliverHeaders (id : Nat) (fields : List Field) (endStream : Bool) :
    Output words heads start (conn.deliverHeaders id fields endStream) := by
  have noted : Output words heads start (conn.modifyStream id fun stream =>
      { stream with finalReceived := !isInformational fields }) := output.modifyStream id
        fun _ _ waits => waits
  exact noted.emit _

theorem setLastRemote (named : id ≤ maxStreamId) :
    Output words heads start { conn with registry := { conn.registry with lastRemote := id } } :=
  output.setRegistry (output.registry.of_held (fun _ => .inl rfl) (Nat.le_refl _) (.inr named))

theorem limited {delta : Int} {crossed : List Nat}
    (slides : Slides conn.receiveWindows delta crossed windows) :
    Output words heads start (conn.limited windows) := by
  refine output.keep output.registry rfl rfl rfl rfl rfl (Int.le_trans (Int.le_of_eq ?_)
    (Int.le_max_left _ _))
  rcases slides with ⟨-, -, rfl⟩ | shifted
  · rfl
  · obtain ⟨-, -, rfl⟩ := Windows.shift_eq shifted
    rfl

/-- Up to here only the first of the two limits was in force. -/
theorem learned (still : conn.exchange.peer = start.exchange.peer) {changes : List (Setting × Nat)}
    (valid : start.exchange.Sound → (conn.exchange.peer.apply changes).Valid) :
    Output words heads start (conn.learned changes) := by
  have told := output.write (.settings true []) rfl (fun _ _ => rfl) trivial
  obtain ⟨written, outbound, blocks, readable, kept⟩ := told.wrote
  refine { told with wrote := ⟨written, outbound, blocks, readable,
    fun outgoing member => ?_⟩, valid }
  have kept := kept outgoing member
  cases outgoing with
  | preface => exact kept
  | frame limit content =>
    exact ⟨.inl (kept.1.elim id fun same => same.trans (by rw [← still]; rfl)), kept.2⟩

theorem receiveGoaway (last : Nat) (reason : Reason) (debug : Octets) :
    Output words heads start (conn.receiveGoaway last reason debug) := by
  have noted : ∀ last, Output words heads start { conn with
      farewell := { conn.farewell with received := some last } } := fun last =>
    output.keep output.registry rfl rfl rfl rfl rfl (Int.le_max_left _ _)
  exact ((noted _).emit _).dropAll _ .refusedStream fun id => .stream id .refusedStream

theorem data {octets : Octets} (stands : id ≠ 0)
    (dealt : DataDealt conn id octets count endStream result after) :
    Output words heads start after := by
  have charged : ∀ {windows : Windows}, conn.receiveWindows.chargeStream id count = .ok windows →
      Output words heads start { conn with receiveWindows := windows } := by
    intro windows drawn
    obtain ⟨window, -, -, rfl⟩ := Windows.chargeStream_eq drawn
    exact output.keep output.registry rfl rfl rfl rfl rfl (Int.le_max_left _ _)
  cases dealt with
  | unheld | unwelcome | overdrawn => exact output
  | delivered held _ drawn =>
    exact ((charged drawn).emitIf _ _).refill (.inr ⟨stands, output.names_of_get? held⟩)
  | finished held _ drawn moves => exact ((charged drawn).emit _).settled held moves

theorem headers {fields : List Field} {priority : Option Priority} (names : NamesStream id)
    (dealt : HeadersDealt conn id fields priority endStream result after) :
    Output words heads start after := by
  have told := output.deliverHeaders id fields
  cases dealt with
  | misplaced | declined => exact output
  | passed _ taken =>
    obtain ⟨-, -, rfl⟩ := acceptRemote_eq taken
    exact output.setLastRemote names.2
  | turnedAway _ taken =>
    obtain ⟨-, -, rfl⟩ := acceptRemote_eq taken
    exact (output.setLastRemote names.2).refuseStream _ fun _ => names
  | accepted _ taken _ _ begun =>
    obtain ⟨-, -, rfl⟩ := acceptRemote_eq taken
    obtain ⟨phase, -, rfl⟩ := Option.map_eq_some_iff.mp begun
    refine emit (emit (reprioritizeIf ?_ id priority) _) _
    exact (output.setLastRemote names.2).addStream (fun _ => names) rfl
  | started held _ _ moves => exact (told _).settled (get?_deliverHeaders held fields _) moves
  | continued => exact (told false).reprioritizeIf id priority
  | concluded _ _ _ _ holds _ moves =>
    exact ((told true).reprioritizeIf id priority).settled holds moves
  | trailed _ _ _ _ holds _ moves =>
    exact ((output.emit _).reprioritizeIf id priority).settled holds moves

end Changes

end Output

/-- A frame is taken in.  Unless it ends the session, the block that it carries has been read,
whatever became of the rest of the frame. -/
def TakesIn (words : Frame → Prop) (start : Connection) (frame : Frame) (result : Except Error Unit)
    (after : Connection) : Prop :=
  ∃ decoder, Releases words { start with decoder } after ∧
    (fatally result = false → frame.Decodes start.decoder decoder)

theorem Releases.takesIn (releases : Releases words start after) (plain : frame.block? = none) :
    TakesIn words start frame result after := by
  refine ⟨start.decoder, releases, fun _ => ?_⟩
  rw [Frame.Decodes, plain]

theorem Dealt.takesIn (dealt : Dealt conn frame result after) (addressed : frame.Addressed limit) :
    TakesIn words conn frame result after := by
  have here : Output words [] conn conn := .refl conn
  cases dealt with
  | overspent | looped | unplaced | unopened | ackNotDue | zeroCredit | overfilled
  | uncredited | unneeded
  | emptyCredit | overflowed | unoffered | unnamed | unknown => exact here.releases.takesIn rfl
  | data paid dealt => exact ((here.debited paid).data addressed.1.1 dealt).releases.takesIn rfl
  | pushToServer | pushRefused => exact ⟨conn.decoder, here.releases, fun mild => nomatch mild⟩
  | garbled | garbledPromise => exact ⟨_, Releases.refl _, fun mild => nomatch mild⟩
  | headers decoded dealt =>
    exact ⟨_, ((Output.refl _).headers addressed.1 dealt).releases, fun _ => ⟨_, decoded⟩⟩
  | unfounded decoded => exact ⟨_, Releases.refl _, fun _ => ⟨_, decoded⟩⟩
  | @promised _ promised _ _ table _ _ _ _ decoded _ _ taken =>
    obtain ⟨-, later, rfl⟩ := acceptRemote_eq taken
    have names : NamesStream promised := ⟨Nat.ne_of_gt (Nat.zero_lt_of_lt later), addressed.2.1⟩
    have started : Output words [] { conn with decoder := table } { conn with decoder := table } :=
      .refl _
    have taken := started.setLastRemote names.2
    exact ⟨table, ((taken.addStream (fun _ => names) rfl).emit _).releases, fun _ => ⟨_, decoded⟩⟩
  | placed => exact (here.reprioritize _ _).releases.takesIn rfl
  | dropped => exact (here.dropStream _ _ false _).releases.takesIn rfl
  | unlimited due => exact (here.setExchange (Exchange.acknowledge_peer due)).releases.takesIn rfl
  | malformed =>
    have still : { conn.exchange with staged := none }.peer = conn.exchange.peer := rfl
    exact (here.setExchange still).releases.takesIn rfl
  | acknowledged due slides =>
    exact (((here.setExchange (Exchange.acknowledge_peer due)).limited slides).emit
      _).releases.takesIn rfl
  | outgrown read => exact (here.learned rfl (·.valid_apply read)).releases.takesIn rfl
  | applied read =>
    refine Releases.takesIn (Releases.andThen ?_ fun output => output.emit _) rfl
    exact ((here.learned rfl (·.valid_apply read)).setSendWindows _).releases.resumeIf _
  | credited => exact ((here.setSendWindows _).releases.resumeIf _).takesIn rfl
  | served => exact ((here.setSendWindows _).releases.flush _).takesIn rfl
  | saved => exact (here.setSendWindows _).releases.takesIn rfl
  | @pinged payload =>
    exact (here.write (.ping true payload) rfl (fun _ => trivial) trivial).releases.takesIn rfl
  | answered | offered | named => exact (here.emit _).releases.takesIn rfl
  | parted => exact (here.receiveGoaway _ _ _).releases.takesIn rfl

theorem Dealt.names {error : Error} (dealt : Dealt conn frame (.error error) after)
    (addressed : frame.Addressed limit) (accused : error.faulty? = some id) : NamesStream id := by
  have guilty : error.isFatal = false := by
    cases fatal : error.isFatal with
    | false => rfl
    | true => cases (Error.faulty?_of_isFatal fatal).symm.trans accused
  cases dealt with
  | data _ dealt =>
    cases dealt with
    | unheld => cases (missingStream_isFatal ..).symm.trans guilty
    | unwelcome =>
      unfold dataFault at accused
      split at accused <;> cases accused
      exact addressed.1
    | overdrawn =>
      cases accused
      exact addressed.1
  | headers _ dealt =>
    cases dealt with
    | misplaced fault => cases fault.isFatal.symm.trans guilty
    | declined =>
      cases accused
      exact addressed.1
  | unfounded _ fault => cases fault.isFatal.symm.trans guilty
  | looped =>
    cases accused
    exact addressed
  | malformed fault => cases (readParameters_isFatal fault).symm.trans guilty
  | uncredited => cases (missingStream_isFatal ..).symm.trans guilty
  | emptyCredit stands | overflowed stands =>
    cases accused
    exact ⟨stands, addressed⟩
  | _ => cases accused

theorem fail_output (conn : Connection) (error : Error) :
    Output error.Goaway [] conn (conn.fail error) :=
  (Output.refl conn).fail fun _ goaway => goaway

theorem close_output (conn : Connection) :
    Output (fun frame => ∃ last, frame = .goaway last Reason.noError.code []) [] conn conn.close :=
  (Output.refl conn).close fun last => ⟨last, rfl⟩

/-- What is worded while a frame is handled: the farewell to a session that fails. -/
def FailsWith (conn : Connection) (received frame : Frame) : Prop :=
  ∃ error after, (receiveFrame received).run conn = .error error after ∧
    error.isFatal ∧ error.Goaway frame

/-- A frame is handled, whatever comes of it.  Unless the session ends, its block has been read. -/
theorem handle_releases (conn : Connection) (addressed : frame.Addressed limit) :
    ∃ decoder, Releases (conn.FailsWith frame) { conn with decoder } (conn.handle frame) ∧
      ((conn.handle frame).closed = false → frame.Decodes conn.decoder decoder) := by
  have deals := receiveFrame_dealt conn frame
  cases ran : (receiveFrame frame).run conn with
  | ok _ after =>
    obtain ⟨decoder, releases, read⟩ := (deals.of_ok ran).takesIn addressed
    rw [handle_of_ok ran]
    exact ⟨decoder, releases, fun _ => read rfl⟩
  | error error after =>
    obtain ⟨decoder, releases, read⟩ := (deals.of_error ran).takesIn addressed
    rw [handle_of_error ran]
    cases fatal : error.isFatal with
    | true =>
      refine ⟨decoder, releases.andThen fun output => output.fail fun _ goaway => ?_,
        fun opened => ?_⟩
      · exact ⟨error, after, ran, fatal, goaway⟩
      rw [if_pos rfl, closed_fail] at opened
      cases opened
    | false =>
      have absorbed : Releases (conn.FailsWith frame) { conn with decoder } (after.absorb error) :=
        releases.andThen fun output => output.absorb fun _ => (deals.of_error ran).names addressed
      exact ⟨decoder, absorbed, fun _ => read fatal⟩

/-! ## Calls -/

variable {α : Type} {start after : Connection} {id : Nat}

/-- The header list goes out if the call succeeds, and no header list goes out if it fails. -/
def Announces (words : Frame → Prop) (fields : List Field) (start : Connection) :
    Except Error α → Connection → Prop
  | .ok _, after => ∃ id, Output words [⟨id, fields⟩] start after
  | .error _, after => Output words [] start after

theorem Announces.exists_output {fields : List Field} {result : Except Error α}
    (announces : Announces words fields start result after) :
    ∃ heads, Output words heads start after := by
  cases result with
  | ok value =>
    obtain ⟨id, output⟩ := announces
    exact ⟨_, output⟩
  | error error => exact ⟨_, announces⟩

private theorem names_of_allocate {taken : Registry}
    (allocated : registry.allocate = .ok (id, taken)) (named : registry.Named) :
    NamesStream id := by
  obtain ⟨-, rfl, bound⟩ := allocate_ok allocated
  exact ⟨Nat.ne_of_gt named.next, bound⟩

private theorem allocate_output (allocated : conn.registry.allocate = .ok (id, registry)) :
    Output words [] conn { conn with registry } := by
  obtain ⟨rfl, rfl⟩ := allocate_eq allocated
  have here : Output words [] conn conn := .refl conn
  exact here.setRegistry (here.registry.of_held (fun _ => .inl rfl) (Nat.le_add_right _ _)
    (.inl rfl))

private theorem altSvc_output (known : id = 0 ∨ ∃ stream, conn.registry.get? id = some stream)
    (origin value : Octets) :
    Output (· = .altSvc id origin value) [] conn (conn.write (.altSvc id origin value)) := by
  refine (Output.refl conn).write (.altSvc id origin value) rfl (fun named => ?_) rfl
  show id ≤ maxStreamId
  rcases known with rfl | ⟨stream, held⟩
  · exact Nat.zero_le _
  · exact (named.of_get? held).2

end Connection

def Call.heading? : Call → Option (List Field)
  | createStream fields .. | respond _ fields _ | inform _ fields | pushPromise _ fields =>
    some fields
  | _ => none

def Call.trailers? : Call → Option Heading
  | sendTrailers id fields => some ⟨id, fields⟩
  | _ => none

namespace Connection

variable {conn : Connection} {call : Call}

private theorem called_announces {fields : List Field} (heading : call.heading? = some fields) :
    Announces words fields conn (conn.answer call) (conn.called call) := by
  have here : Output words [] conn conn := .refl conn
  refine answer_of_leads ((perform_served conn call).mono fun result after served => ?_)
  cases served with
  | denied => exact here
  | looped allocated => exact allocate_output allocated
  | crowded allocated => exact (allocate_output allocated).refuseOwn (names_of_allocate allocated)
  | opened _ allocated _ _ _ begun =>
    cases heading
    have names := names_of_allocate allocated
    obtain ⟨phase, -, rfl⟩ := Option.map_eq_some_iff.mp begun
    exact ⟨_, (((allocate_output allocated).addStream names rfl).reprioritizeIf _ _).writeHeaders _
      _ _ names⟩
  | @promised id promised _ registry _ _ _ _ held _ allocated =>
    cases heading
    have added : Output words [] conn
        ({ conn with registry }.addPromised promised id { phase := .reservedLocal }) :=
      (allocate_output allocated).addStream (names_of_allocate allocated) rfl
    exact ⟨id, added.writeBlock rfl (here.names_of_get? held) trivial⟩
  | overfull => exact here.dropStream _ .refusedStream true _
  | @responded id _ endStream stream _ held _ _ _ _ moves =>
    cases heading
    have noted :
        Output words [] conn (conn.modifyStream id fun stream => { stream with
          finalSent := true }) :=
      here.modifyStream id fun _ _ waits => waits
    have headed := noted.writeHeaders fields none endStream (here.names_of_get? held)
    exact ⟨id, headed.settled (get?_modifyStream held) moves⟩
  | @informed id _ _ held =>
    cases heading
    exact ⟨id, here.writeHeaders fields none false (here.names_of_get? held)⟩
  | _ => cases heading

private theorem called_trailers (conn : Connection) (id : Nat) (fields : List Field) :
    (conn.answer (.sendTrailers id fields)).isOk = true ∧
        Releases words (conn.modifyStream id (·.enqueueTrailers fields))
          (conn.called (.sendTrailers id fields)) ∨
      (conn.answer (.sendTrailers id fields)).isOk = false ∧
        conn.called (.sendTrailers id fields) = conn := by
  have leads : (perform (.sendTrailers id fields)).Leads conn fun result after =>
      result.isOk = true ∧ Releases words (conn.modifyStream id (·.enqueueTrailers fields)) after ∨
        result.isOk = false ∧ after = conn := by
    refine (perform_served conn _).mono fun result after served => ?_
    cases served with
    | denied => exact .inr ⟨rfl, rfl⟩
    | trailed => exact .inl ⟨rfl, (Releases.refl _).flush id⟩
  exact answer_of_leads leads

theorem called_resizeWindow (conn : Connection) (size : Nat) :
    ∃ windows target,
      Output (Call.resizeWindow size).Words []
        { conn with receiveWindows := windows, receiveTarget := target }
      (conn.called (.resizeWindow size)) := by
  have leads : (perform (.resizeWindow size)).Leads conn fun _ after => ∃ windows target, Output
      (Call.resizeWindow size).Words []
      { conn with receiveWindows := windows, receiveTarget := target } after := by
    refine (perform_served conn _).mono fun result after served => ?_
    cases served with
    | denied => exact ⟨conn.receiveWindows, conn.receiveTarget, .refl conn⟩
    | @grown _ _ windows =>
      exact ⟨windows, size, (Output.refl _).write (.windowUpdate 0 _) rfl (fun _ => Nat.zero_le _)
        trivial⟩
    | lowered => exact ⟨conn.receiveWindows, size, .refl _⟩
  exact called_of_leads leads

theorem called_releases (plain : call.heading? = none) (kept : call.trailers? = none)
    (fixed : ∀ size, call ≠ .resizeWindow size) : Releases call.Words conn (conn.called call) := by
  have here : Output call.Words [] conn conn := .refl conn
  refine called_of_leads ((perform_served conn call).mono fun result after served => ?_)
  cases served with
  | denied => exact here.releases
  | queued =>
    apply Releases.flush
    exact here.releases.andThen fun output => output.modifyStream _ fun _ _ waits => waits
  | trailed => cases kept
  | dropped => exact (here.dropStream _ _ true _).releases
  | @placed id priority _ held =>
    have placed := here.reprioritize id priority
    exact (placed.write (.priority id priority) rfl (here.names_of_get? held) trivial).releases
  | announced ends =>
    have told := fun {exchange : Exchange} (peer : exchange.peer = conn.exchange.peer) =>
      (here.setExchange peer).write (.settings false _) rfl (by simp [Frame.Legible]) rfl
    obtain ⟨_, -, announcing⟩ := announcing_of_ends ends
    cases announcing with
    | refused => exact here.releases
    | stuck peer => exact (told peer).releases
    | limited peer slides => exact ((told peer).limited slides).releases
  | parted =>
    exact ((here.sayFarewell ⟨_, rfl⟩).dropAll _ .refusedStream fun id => .stream id
      .refusedStream).releases
  | @pinged payload =>
    exact (here.write (.ping false payload) rfl (fun _ => trivial) trivial).releases
  | offered _ known => exact (altSvc_output known _ _).releases
  | @named origins => exact (here.write (.origin origins) rfl (fun _ => trivial) rfl).releases
  | skipped skips =>
    obtain ⟨-, later, rfl⟩ := skipTo_eq skips
    refine (here.setRegistry ?_).releases
    exact here.registry.of_held (fun _ => .inl rfl) later (.inl rfl)
  | grown | lowered => exact absurd rfl (fixed _)
  | _ => cases plain

/-- What a call comes to: a header list of its own, trailers that wait from now on, another window,
or work on what waits. -/
inductive CallOutput (conn : Connection) (call : Call) : Prop
  | announces {fields : List Field} (heading : call.heading? = some fields)
      (announces : Announces call.Words fields conn (conn.answer call) (conn.called call))
  | trailers {id : Nat} {fields : List Field} (same : call = .sendTrailers id fields)
      (succeeds : (conn.answer call).isOk = true)
      (releases : Releases call.Words (conn.modifyStream id (·.enqueueTrailers fields))
        (conn.called call))
  | resizes {size target : Nat} {windows : Windows} (same : call = .resizeWindow size)
      (output : Output call.Words []
        { conn with receiveWindows := windows, receiveTarget := target } (conn.called call))
  | releases (plain : call.heading? = none)
      (kept : (conn.answer call).isOk = true → call.trailers? = none)
      (fixed : ∀ size, call ≠ .resizeWindow size)
      (releases : Releases call.Words conn (conn.called call))

theorem called_output (conn : Connection) (call : Call) : CallOutput conn call := by
  cases call with
  | createStream | respond | inform | pushPromise => exact .announces rfl (called_announces rfl)
  | sendTrailers id fields =>
    rcases called_trailers conn id fields with ⟨succeeds, releases⟩ | ⟨fails, same⟩
    · exact .trailers rfl succeeds releases
    · refine .releases rfl (by simp [fails]) (by simp) ?_
      rw [same]
      exact .refl conn
  | resizeWindow size =>
    obtain ⟨windows, target, output⟩ := called_resizeWindow conn size
    exact .resizes rfl output
  | sendData | reset | updatePriority | sendSettings | sendGoaway | sendPing | sendAltSvc
  | sendOrigin | skipTo =>
    exact .releases rfl (fun _ => rfl) (by simp) (called_releases rfl rfl (by simp))

end Connection

/-! ## The frames of a run -/

/-- The frames are as a reader gives them out, and the session ends with a short word. -/
def Motion.Received (limit : Nat) : Motion → Prop
  | .frame content => content.Received greatestFrameLimit limit
  | .fail error => error.Brief (limit + 4294967296)
  | _ => True

/-- The frames are as the peer can send them, and the session ends with a short word. -/
def Motion.Addressed (limit : Nat) : Motion → Prop
  | .frame content => content.Addressed limit
  | .fail error => error.Brief (limit + 4294967296)
  | _ => True

namespace Session

variable {session : Session} {role : Role} {config : Config} {now limit : Nat}

theorem Consumed.received {reader : Reader} {conn : Connection} {motions : List Motion}
    {result : Except Error Unit} (consumed : Consumed reader conn motions result session)
    (keeps : reader.Keeps greatestFrameLimit limit) :
    (∀ motion ∈ motions, motion.Received limit) ∧
    session.reader.Keeps greatestFrameLimit limit := by
  have received :=
    fun {reader after : Reader} {outcome} next (keeps : reader.Keeps greatestFrameLimit limit) =>
    @next_received _ _ (Nat.le_refl _) reader after outcome next (Nat.min_le_right _ _) keeps
  induction consumed with
  | fails _ _ next | ends _ _ next =>
    have read := received next ⟨keeps.same, keeps.begun⟩
    exact ⟨forall_mem_singleton.mpr read.1, read.2⟩
  | stops _ _ next => exact ⟨by simp, (received next ⟨keeps.same, keeps.begun⟩).2⟩
  | goes _ _ next _ ih =>
    have read := received next ⟨keeps.same, keeps.begun⟩
    have rest := ih read.2
    exact ⟨forall_mem_cons.mpr ⟨read.1, rest.1⟩, rest.2⟩

theorem reader_use (session : Session) {use : Use} (other : ∀ octets, use ≠ .receive octets) :
    (session.use use).reader = session.reader := by
  cases use with
  | call call =>
    rw [Session.use, Session.call]
    split <;> rfl
  | receive octets => exact absurd rfl (other octets)
  | close | takeOutbound | takeEvents => rfl
  | tick now =>
    rw [Session.use, Session.tick]
    split
    · split <;> rfl
    · rfl
  | flush transport =>
    rw [Session.use, Session.flush]
    simp only
    split
    · rfl
    · split <;> rfl
  | nextEvent =>
    rw [Session.use, nextEvent?]
    split <;> rfl

private theorem use_received (sound : session.connection.closed = false → session.connection.Sound)
    (keeps : session.reader.Keeps greatestFrameLimit limit) (use : Use) :
    (∀ motion ∈ session.motions use, motion.Received limit) ∧
      (session.use use).reader.Keeps greatestFrameLimit limit := by
  cases use with
  | receive octets =>
    simp only [motions, Session.use, Session.receive]
    cases opened : session.connection.closed with
    | true => exact ⟨by simp, keeps⟩
    | false => exact (consumed (sound opened) opened _).received ⟨keeps.same, keeps.begun⟩
  | tick now =>
    rw [reader_use session (by simp)]
    refine ⟨?_, keeps⟩
    simp only [motions]
    split
    · split <;> simp [Motion.Received, Error.Brief, Violation.Brief]
    · simp
  | flush transport =>
    rw [reader_use session (by simp)]
    refine ⟨?_, keeps⟩
    simp only [motions]
    split
    · simp
    · split <;> simp [Motion.Received]
  | call | close | takeOutbound | nextEvent | takeEvents =>
    rw [reader_use session (by simp)]
    exact ⟨by simp [motions, Motion.Received], keeps⟩

theorem reader_create (created : create role config now = .ok session) :
    session.reader = { prefaceDue := role == .server, blockLimit := config.blockLimit } := by
  unfold create at created
  split at created
  · cases created
  · split at created
    · cases created
    · cases created
      rfl

theorem history_received (created : create role config now = .ok session) (uses : List Use) :
    ∀ motion ∈ session.history uses, motion.Received config.blockLimit := by
  have all : (∀ motion ∈ session.history uses, motion.Received config.blockLimit) ∧
      (session.after uses).reader.Keeps greatestFrameLimit config.blockLimit := by
    induction uses using List.reverseRecOn with
    | nil =>
      rw [after_nil, reader_create created]
      exact ⟨by simp [history], rfl, begun_none _⟩
    | append_singleton uses use ih =>
      have last := use_received ((Run.create created).after uses).sound ih.2 use
      rw [history_concat, after_concat]
      refine ⟨fun motion member => ?_, last.2⟩
      rcases mem_append.mp member with member | member
      · exact ih.1 motion member
      · exact last.1 motion member
  exact all.1

theorem history_addressed (created : create role config now = .ok session) (uses : List Use) :
    ∀ motion ∈ session.history uses, motion.Addressed config.blockLimit := by
  intro motion member
  have received := history_received created uses motion member
  cases motion with
  | frame => exact received.addressed
  | fail => exact received
  | call | close | handOver | tell => trivial

end Session

end Http2
