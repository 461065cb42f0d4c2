import Http2.Proofs.Hearing

/-!
# Header lists on the wire

Header compression keeps a table at either end, and a block means what it means only to a table that
has seen the same blocks before it.  So every header list that the application gives away has to be
written in the order in which it went through the encoder, and every block that arrives has to go
through the decoder, even where nobody wants to know what it holds.

`Session.headings` is the account of the first from the application's side: the header list of a
call that announces one, and the trailers of a stream when its header block goes out behind its
data.
-/

namespace Http2

open Connection List

namespace Header

def encodeAll (table : Table) : List (List Field) → List Octets × Table
  | [] => ([], table)
  | fields :: rest =>
    ((encodeBlock table fields).1 :: (encodeAll (encodeBlock table fields).2 rest).1,
      (encodeAll (encodeBlock table fields).2 rest).2)

def decodeAll (table : Table) : List Octets → Except Failure (List (List Field)) × Table
  | [] => (.ok [], table)
  | block :: rest =>
    match decodeBlock table block with
    | (.error failure, next) => (.error failure, next)
    | (.ok fields, next) => ((decodeAll next rest).1.map (fields :: ·), (decodeAll next rest).2)

/-- What a fresh encoder makes of the header lists, a fresh decoder turns back into them. -/
def Reversible (lists : List (List Field)) : Prop :=
  (decodeAll .new (encodeAll .new lists).1).1 = .ok lists

private theorem encodeAll_append (table : Table) (first second : List (List Field)) :
    encodeAll table (first ++ second) =
      ((encodeAll table first).1 ++ (encodeAll (encodeAll table first).2 second).1,
        (encodeAll (encodeAll table first).2 second).2) := by
  induction first generalizing table with
  | nil => rfl
  | cons fields rest ih => simp only [cons_append, encodeAll, ih]

private theorem decodeAll_concat {table middle after : Table}
    {blocks : List Octets} {block : Octets} {lists : List (List Field)} {fields : List Field}
    (earlier : decodeAll table blocks = (.ok lists, middle))
    (last : decodeBlock middle block = (.ok fields, after)) :
    decodeAll table (blocks ++ [block]) = (.ok (lists ++ [fields]), after) := by
  induction blocks generalizing table lists with
  | nil =>
    cases earlier
    simp [decodeAll, last, Except.map]
  | cons first rest ih =>
    rw [cons_append]
    unfold decodeAll at earlier ⊢
    split at earlier
    · cases earlier
    · rename_i head next decoded
      cases read : decodeAll next rest with
      | mk outcome final =>
        rw [read] at earlier
        cases outcome with
        | error failure => cases earlier
        | ok others =>
          cases earlier
          simp only [ih read, Except.map, cons_append]

private theorem pack_eq (table : Table) (heads : List Heading) :
    (pack table heads).1.map Prod.fst = heads.map Heading.stream ∧
    (pack table heads).1.map Prod.snd = (encodeAll table (heads.map Heading.fields)).1 ∧
    (pack table heads).2 = (encodeAll table (heads.map Heading.fields)).2 := by
  induction heads generalizing table with
  | nil => exact ⟨rfl, rfl, rfl⟩
  | cons heading rest ih =>
    obtain ⟨streams, blocks, last⟩ := ih (encodeBlock table heading.fields).2
    simp [pack, encodeAll, streams, blocks, last]

end Header

/-! ## The account of a run -/

def lastTrailers (given : List Heading) (id : Nat) : Option (List Field) :=
  (given.reverse.find? (·.stream = id)).map Heading.fields

private theorem lastTrailers_concat (given : List Heading) (heading : Heading) (id : Nat) :
    lastTrailers (given ++ [heading]) id =
      if heading.stream = id then some heading.fields else lastTrailers given id := by
  unfold lastTrailers
  rw [reverse_append, reverse_singleton, singleton_append, find?_cons]
  by_cases same : heading.stream = id <;> simp [same]

namespace Connection

variable {call : Call}

def handsIn (conn : Connection) : Motion → List Heading
  | .call call => if (conn.answer call).isOk then call.trailers?.toList else []
  | _ => []

/-- The trailers that go out in a motion, by the streams on which header blocks are written. -/
def trailersOut (given : List Heading) (conn : Connection) (motion : Motion) :
    List (Option (List Field)) :=
  (blocksIn ((conn.move motion).outbound.drop conn.outbound.length)).map fun block =>
    lastTrailers given block.1

def headings (given : List Heading) (conn : Connection) : Motion → List (Option (List Field))
  | .call call =>
    match call.heading? with
    | some fields => if (conn.answer call).isOk then [some fields] else []
    | none => conn.trailersOut given (.call call)
  | motion => conn.trailersOut given motion

def headingsAlong (given : List Heading) (conn : Connection) :
    List Motion → List (Option (List Field))
  | [] => []
  | motion :: rest =>
    conn.headings (given ++ conn.handsIn motion) motion ++
      (conn.move motion).headingsAlong (given ++ conn.handsIn motion) rest

private theorem headingsAlong_append (given : List Heading) (conn : Connection)
    (first second : List Motion) :
    conn.headingsAlong given (first ++ second) = conn.headingsAlong given first ++
        (conn.moved first).headingsAlong (given ++ conn.along handsIn first) second := by
  induction first generalizing given conn with
  | nil => simp [headingsAlong]
  | cons motion first ih =>
    simp only [cons_append, headingsAlong, ih, along_cons, moved_cons, append_assoc]

variable {words : Frame → Prop} {conn start after : Connection} {role : Role} {motion : Motion}
  {given : List Heading} {lists : List (List Field)} {sent : List Outgoing} {limit : Nat}

private theorem headings_of_plain (plain : call.heading? = none) :
    conn.headings given (.call call) = conn.trailersOut given (.call call) := by
  simp only [headings, plain]

/-- How a connection stands after it has sent what it has sent: it has put the header lists through
the encoder in the order in which they are written, and the trailers that wait are those that were
given. -/
structure Posted (role : Role) (given : List Heading) (lists : List (List Field))
    (sent : List Outgoing) (conn : Connection) : Prop where
  encoder : conn.encoder = (Header.encodeAll .new lists).2
  blocks : (blocksIn sent).map Prod.snd = (Header.encodeAll .new lists).1
  legible : ∃ written, sent = opening role ++ written ∧ ∀ outgoing ∈ written, outgoing.Legible
  named : conn.registry.Named
  trailers : ∀ id fields, conn.registry.trailers? id = some fields →
    lastTrailers given id = some fields

namespace Posted

theorem alike (posted : Posted role given lists sent conn) (encoder : after.encoder = conn.encoder)
    (registry : after.registry = conn.registry) : Posted role given lists sent after where
  encoder := encoder.trans posted.encoder
  blocks := posted.blocks
  legible := posted.legible
  named := registry ▸ posted.named
  trailers := registry ▸ posted.trailers

theorem enqueue (posted : Posted role given lists sent conn) (id : Nat) (fields : List Field) :
    Posted role (given ++ [⟨id, fields⟩]) lists sent
      (conn.modifyStream id (·.enqueueTrailers fields)) where
  encoder := posted.encoder
  blocks := posted.blocks
  legible := posted.legible
  named := posted.named.modify id _
  trailers other found waits := by
    rw [lastTrailers_concat]
    rw [modifyStream, Registry.trailers?, Registry.held?, Registry.get?_modify] at waits
    split at waits
    · rename_i same
      rw [if_pos same.symm]
      cases held : conn.registry.get? other with
      | none => simp [held] at waits
      | some stream =>
        rw [held] at waits
        exact waits
    · rename_i apart
      rw [if_neg (Ne.symm apart)]
      exact posted.trailers other found waits

section

variable (posted : Posted role given lists (sent ++ start.outbound) start)

include posted

theorem output {heads : List Heading} (output : Output words heads start after) :
    ∃ written, after.outbound = start.outbound ++ written ∧
      (blocksIn written).map Prod.fst = heads.map Heading.stream ∧
      Posted role given (lists ++ heads.map Heading.fields) (sent ++ after.outbound) after := by
  obtain ⟨written, outbound, blocks, legible, -⟩ := output.wrote
  obtain ⟨streams, packed, last⟩ := Header.pack_eq start.encoder heads
  rw [posted.encoder] at packed last
  refine ⟨written,
    outbound, by rw [blocks, streams], ?_, ?_, ?_, output.registry.named posted.named,
    fun id fields waits => posted.trailers id fields (output.registry.trailers id fields waits)⟩
  · rw [output.encoder, posted.encoder, last, Header.encodeAll_append]
  · rw [outbound, ← append_assoc, blocksIn_append, map_append, posted.blocks,
      blocks, posted.encoder, packed, Header.encodeAll_append]
  · obtain ⟨earlier, begins, legible'⟩ := posted.legible
    refine ⟨earlier ++ written, by rw [outbound, ← append_assoc, begins, append_assoc], ?_⟩
    intro outgoing member
    rcases mem_append.mp member with member | member
    · exact legible' outgoing member
    · exact legible posted.named outgoing member

theorem releases (releases : Releases words start after) :
    ∃ written more, after.outbound = start.outbound ++ written ∧
      (blocksIn written).map (fun block => lastTrailers given block.1) = more.map some ∧
      Posted role given (lists ++ more) (sent ++ after.outbound) after := by
  obtain ⟨heads, output, waited⟩ := releases
  obtain ⟨written, outbound, streams, posted'⟩ := posted.output output
  refine ⟨written, heads.map Heading.fields, outbound, ?_, posted'⟩
  have found : ∀ heading ∈ heads, lastTrailers given heading.stream = some heading.fields :=
    fun heading member =>
    posted.trailers _ _ (waited heading member)
  calc (blocksIn written).map (fun block => lastTrailers given block.1)
    _ = ((blocksIn written).map Prod.fst).map (lastTrailers given) := by rw [map_map]; rfl
    _ = heads.map fun heading => lastTrailers given heading.stream := by rw [streams, map_map]; rfl
    _ = (heads.map Heading.fields).map some := by
        rw [map_map]
        exact map_congr_left found

/-- Work on what waits sends the trailers given, whatever else it began with. -/
theorem move (releases : Releases words start (conn.move motion))
    (same : start.outbound = conn.outbound) (quiet : conn.sendsOff motion = []) :
    ∃ more, conn.trailersOut given motion = more.map some ∧
      Posted role given (lists ++ more)
        (sent ++ (conn.sendsOff motion ++ (conn.move motion).outbound)) (conn.move motion) := by
  obtain ⟨written, more, outbound, trailers, after⟩ := posted.releases releases
  refine ⟨more, ?_, ?_⟩
  · rw [trailersOut, outbound, same, drop_left]
    exact trailers
  · rw [quiet, nil_append]
    exact after

end

theorem untouched (posted : Posted role [] lists start.outbound start)
    (releases : Releases words start after) :
    Posted role [] lists after.outbound after := by
  have posted : Posted role [] lists ([] ++ start.outbound) start := posted
  obtain ⟨written, more, -, trailers, after⟩ := posted.releases releases
  cases more with
  | nil => rwa [append_nil] at after
  | cons fields rest =>
    have member : some fields ∈ (blocksIn written).map fun block => lastTrailers [] block.1 := by
      rw [trailers]
      exact mem_cons_self
    obtain ⟨block, -, none⟩ := mem_map.mp member
    cases none

end Posted

private theorem handsIn_of_kept (kept : (conn.answer call).isOk = true → call.trailers? = none) :
    conn.handsIn (.call call) = [] := by
  simp only [handsIn]
  split
  · rename_i succeeds
    rw [kept succeeds]
    rfl
  · rfl

private theorem trailers?_of_heading {fields : List Field} (heading : call.heading? = some fields) :
    call.trailers? = none := by
  cases call with
  | sendTrailers => cases heading
  | _ => rfl

private theorem posted_move (addressed : motion.Addressed limit)
    (posted : Posted role given lists (sent ++ conn.outbound) conn) :
    ∃ more, conn.headings (given ++ conn.handsIn motion) motion = more.map some ∧
      Posted role (given ++ conn.handsIn motion) (lists ++ more)
        (sent ++ (conn.sendsOff motion ++ (conn.move motion).outbound)) (conn.move motion) := by
  cases motion with
  | call call =>
    cases called_output conn call with
    | @announces fields heading announces =>
      rw [handsIn_of_kept fun _ => trailers?_of_heading heading, append_nil]
      simp only [headings, heading]
      cases result : conn.answer call with
      | ok value =>
        rw [result] at announces
        obtain ⟨id, output⟩ := announces
        obtain ⟨written, outbound, -, after⟩ := posted.output output
        exact ⟨[fields], rfl, after⟩
      | error error =>
        rw [result] at announces
        obtain ⟨written, outbound, -, after⟩ := posted.output (show Output _ [] _ _ from announces)
        exact ⟨[], rfl, after⟩
    | @trailers id fields same succeeds releases =>
      -- They count as given before the call sends what it can, since that may be these very
      -- trailers.
      subst same
      have gives : conn.handsIn (.call (.sendTrailers id fields)) = [⟨id, fields⟩] :=
        if_pos succeeds
      rw [gives, headings_of_plain rfl]
      exact (posted.enqueue id fields).move releases rfl rfl
    | resizes same output =>
      subst same
      rw [handsIn_of_kept fun _ => rfl, append_nil, headings_of_plain rfl]
      refine Posted.move ?_ output.releases rfl rfl
      exact posted.alike rfl rfl
    | releases plain kept _ releases =>
      rw [handsIn_of_kept kept, append_nil, headings_of_plain plain]
      exact posted.move releases rfl rfl
  | frame frame =>
    obtain ⟨decoder, releases, -⟩ := handle_releases conn addressed
    simp only [handsIn, append_nil]
    refine Posted.move ?_ releases rfl rfl
    exact posted.alike rfl rfl
  | fail error =>
    simp only [handsIn, append_nil]
    exact posted.move (conn.fail_output error).releases rfl rfl
  | close =>
    simp only [handsIn, append_nil]
    exact posted.move conn.close_output.releases rfl rfl
  | handOver =>
    -- What waited becomes what has been sent.
    simp only [handsIn, append_nil]
    refine ⟨[], by simp [headings, trailersOut, Connection.move, blocksIn], ?_⟩
    simp only [sendsOff, Connection.move, append_nil]
    exact posted.alike rfl rfl
  | tell count =>
    simp only [handsIn, append_nil]
    refine ⟨[], by simp [headings, trailersOut, Connection.move, blocksIn], ?_⟩
    simp only [sendsOff, Connection.move, nil_append, append_nil]
    exact posted.alike rfl rfl

theorem Trail.posted {motions : List Motion} (trail : Trail start motions conn)
    (addressed : ∀ motion ∈ motions, motion.Addressed limit)
    (begins : Posted role [] [] start.outbound start) :
    ∃ lists, start.headingsAlong [] motions = lists.map some ∧
      Posted role (start.along handsIn motions) lists (start.sentAlong motions) conn := by
  induction trail with
  | refl => exact ⟨[], rfl, begins⟩
  | @tail motions conn motion before allowed ih =>
    obtain ⟨lists, headings, posted⟩ :=
      ih fun motion member => addressed motion (mem_append_left _ member)
    rw [sentAlong, before.moved] at posted
    obtain ⟨more, going, after⟩ := posted_move (addressed motion (by simp)) posted
    refine ⟨lists ++ more, ?_, ?_⟩
    · rw [headingsAlong_append, before.moved, headings, headingsAlong, headingsAlong, append_nil,
        nil_append, going, map_append]
    · rw [before.along_concat, before.sentAlong_concat]
      exact after

/-! ## The decoder -/

private theorem decoder_called (conn : Connection) (call : Call) :
    (conn.called call).decoder = conn.decoder := by
  cases called_output conn call with
  | announces _ announces =>
    obtain ⟨heads, output⟩ := announces.exists_output
    exact output.decoder
  | trailers _ _ releases | releases _ _ _ releases =>
    obtain ⟨heads, output, -⟩ := releases
    exact output.decoder
  | resizes _ output => exact output.decoder

end Connection

def headerBlocks (frames : List Frame) : List Octets := (frames.filterMap Frame.block?).map Prod.snd

private theorem headerBlocks_append (first second : List Frame) :
    headerBlocks (first ++ second) = headerBlocks first ++ headerBlocks second := by
  simp [headerBlocks]

namespace Connection

variable {conn start : Connection} {role : Role} {motion : Motion} {motions : List Motion}
  {limit : Nat}

/-- The decoder is where the header blocks of the frames leave it. -/
def Attentive (frames : List Frame) (conn : Connection) : Prop :=
  ∃ lists, Header.decodeAll .new (headerBlocks frames) = (.ok lists, conn.decoder)

private theorem attentive_move {frames : List Frame} (addressed : motion.Addressed limit)
    (attentive : conn.Attentive frames) (opened : (conn.move motion).closed = false) :
    (conn.move motion).Attentive (frames ++ framesIn [motion]) := by
  have idle : ∀ {other : Connection}, other.decoder = conn.decoder →
      other.Attentive (frames ++ []) := by
    intro other same
    rw [append_nil, Attentive, same]
    exact attentive
  cases motion with
  | call call => exact idle (decoder_called conn call)
  | fail error => exact idle (conn.fail_output error).decoder
  | close => exact idle conn.close_output.decoder
  | handOver | tell => exact idle rfl
  | frame frame =>
    obtain ⟨decoder, ⟨heads, output, -⟩, decodes⟩ := handle_releases conn addressed
    have decoded := decodes opened
    have moved : (conn.move (.frame frame)).decoder = decoder := output.decoder
    have framed : framesIn [.frame frame] = [frame] := rfl
    obtain ⟨lists, earlier⟩ := attentive
    rw [Attentive, framed, headerBlocks_append, moved]
    cases carried : frame.block? with
    | none =>
      rw [Frame.Decodes, carried] at decoded
      refine ⟨lists, ?_⟩
      rw [show headerBlocks [frame] =
        [] by simp [headerBlocks, carried], append_nil, earlier, decoded]
    | some block =>
      rw [Frame.Decodes, carried] at decoded
      obtain ⟨fields, decoded⟩ := decoded
      refine ⟨lists ++ [fields], ?_⟩
      rw [show headerBlocks [frame] = [block.2] by simp [headerBlocks, carried]]
      exact Header.decodeAll_concat earlier decoded

theorem Trail.attentive (trail : Trail start motions conn)
    (addressed : ∀ motion ∈ motions, motion.Addressed limit) (fresh : start.decoder = .new)
    (opened : conn.closed = false) : conn.Attentive (framesIn motions) := by
  induction trail with
  | refl => exact ⟨[], by rw [fresh]; rfl⟩
  | @tail motions conn motion before allowed ih =>
    have still : conn.closed = false := by
      cases closed : conn.closed with
      | false => rfl
      | true => rw [(allowed.staysClosed closed).closed] at opened; cases opened
    have earlier := ih (fun motion member => addressed motion (mem_append_left _ member)) still
    rw [framesIn, filterMap_append]
    exact attentive_move (addressed motion (by simp)) earlier opened

end Connection

/-! ## Sessions -/

namespace Session

variable {session : Session} {role : Role} {config : Config} {now : Nat}

def headings (session : Session) (uses : List Use) : List (Option (List Field)) :=
  session.connection.headingsAlong [] (session.history uses)

private theorem posted_fresh (role : Role) (config : Config) :
    (fresh role config).Posted role [] [] (fresh role config).outbound where
  encoder := rfl
  blocks := by cases role <;> rfl
  legible := ⟨[], (append_nil _).symm, by simp⟩
  named :=
    ⟨fun id held => (by cases held), by cases role <;> exact Nat.zero_lt_succ _, Nat.zero_le _⟩
  trailers id fields waits := by cases waits

theorem posted_of_create (created : create role config now = .ok session) :
    session.connection.Posted role [] [] session.connection.outbound := by
  have settings : Releases _ (fresh role config)
      ((fresh role config).called (.sendSettings config.settings now)) :=
    called_releases rfl rfl (by simp)
  have announced := (posted_fresh role config).untouched settings
  rcases create_eq created with same | same
  · rw [same]
    exact announced
  · obtain ⟨windows, target, output⟩ := called_resizeWindow
      ((fresh role config).called (.sendSettings config.settings now)) config.connectionWindow
    rw [same]
    refine Posted.untouched ?_ output.releases
    exact announced.alike rfl rfl

private theorem decoder_of_create (created : create role config now = .ok session) :
    session.connection.decoder = .new := by
  exact create_induct (motive := fun conn => conn.decoder = .new) created rfl
    fun _ _ decoder => (decoder_called _ _).trans decoder

/-- Both contexts of header compression stay in step with the wire.  A reader of everything that a
session has written, if its limits allow for what is written, finds the blocks of just the header
lists that the application has given to the calls that succeeded and of the trailers as they went
out, compressed in the order in which they stand there; so wherever compression can be undone at
all, a fresh decoder gets these lists.  And while the session is open, its own decoder has been
through every header block in the octets of the peer, one after the other, whatever became of their
streams. -/
theorem compression_in_step (created : create role config now = .ok session) (uses : List Use) :
    (∀ limit blockLimit, limit ≤ greatestFrameLimit →
      (∀ outgoing ∈ session.sent uses, outgoing.Fits limit blockLimit) →
      ∃ frames lists,
        (Reader.process { prefaceDue := role == .client, frameLimit := limit, blockLimit }
          ((session.sent uses).flatMap Outgoing.octets)).1 = .ok frames ∧
        session.headings uses = lists.map some ∧
        headerBlocks frames = (Header.encodeAll .new lists).1 ∧
        (Header.Reversible lists → (Header.decodeAll .new (headerBlocks frames)).1 = .ok lists)) ∧
    ((session.after uses).connection.closed = false → ∃ frames lists, (Reader.process {
            prefaceDue := role == .server, frameLimit := greatestFrameLimit,
            blockLimit := config.blockLimit }
          (uses.flatMap Use.octets)).1 = .ok frames ∧
        Header.decodeAll .new (headerBlocks frames) =
          (.ok lists, (session.after uses).connection.decoder)) := by
  have addressed := history_addressed created uses
  have trail := trail_after (.create created) uses
  constructor
  · intro limit blockLimit greatest fits
    obtain ⟨lists, headings, posted⟩ := trail.posted addressed (posted_of_create created)
    obtain ⟨written, sent, legible⟩ := posted.legible
    have sent : session.sent uses = opening role ++ written := sent
    have blocks : (blocksIn (session.sent uses)).map Prod.snd = (Header.encodeAll .new lists).1 :=
      posted.blocks
    have bare : blocksIn (opening role) = [] := by cases role <;> rfl
    rw [sent] at fits
    obtain ⟨frames, read, same⟩ :=
      @Reader.process_legible written role limit blockLimit greatest legible
      fun outgoing member => fits outgoing (List.mem_append_right _ member)
    have carried : headerBlocks frames = (Header.encodeAll .new lists).1 := by
      rw [headerBlocks, same, ← blocks, sent, blocksIn_append, bare, List.nil_append]
    refine ⟨frames, lists, ?_, headings, carried, fun reversible => ?_⟩
    · rw [sent, read]
    · rw [carried]
      exact reversible
  · intro opened
    obtain ⟨lists, decoded⟩ := trail.attentive addressed (decoder_of_create created) opened
    have received := process_received created uses opened
    rw [reader_create created] at received
    exact ⟨framesIn (session.history uses), lists, congrArg Prod.fst received, decoded⟩

def upload : List Field := [⟨":method", "POST"⟩]

def inquiry : List Field := [⟨":method", "GET"⟩, ⟨"x-trace", "on"⟩]

def checksum : List Field := [⟨"x-trace", "off"⟩]

/-- A client whose trailers wait until the peer grants credit, with another request in between that
it resets.  The peer answers both, the second time by what the first answer has put into the
table. -/
def postponed : List Use :=
  let blocks :=
    (Header.encodeAll .new [[⟨"x-cache", "hit"⟩], [⟨":status", "200"⟩, ⟨"x-cache", "hit"⟩]]).1
  [.receive (Frame.encode leastFrameLimit (.settings false [(4, 0)])),
    .call (.createStream upload none false), .call (.sendData 1 [7] false),
    .call (.sendTrailers 1 checksum),
    .call (.createStream inquiry none true), .call (.reset 3 .cancel),
    .receive ([Frame.headers 3 none (blocks.headD []) true, .windowUpdate 1 8,
      .headers 1 none (blocks.getLastD []) true].flatMap (Frame.encode leastFrameLimit))]

theorem compression_in_step_postponed :
    newClient.headings postponed = [some upload, some inquiry, some checksum] ∧
    (∀ outgoing ∈ newClient.sent postponed, outgoing.Fits leastFrameLimit 262144) ∧
    (newClient.after postponed).connection.closed = false ∧
    (∃ frames,
      (Reader.process { prefaceDue := true }
        ((newClient.sent postponed).flatMap Outgoing.octets)).1 = .ok frames ∧
      (Header.decodeAll .new (headerBlocks frames)).1 = .ok [upload, inquiry, checksum]) ∧
    ∃ frames lists,
      (Reader.process { frameLimit := greatestFrameLimit } (postponed.flatMap Use.octets)).1 =
        .ok frames ∧
      Header.decodeAll .new (headerBlocks frames) =
        (.ok lists, (newClient.after postponed).connection.decoder) := by
  obtain ⟨headings, fits, opened, reversible⟩ :
      newClient.headings postponed = [some upload, some inquiry, some checksum] ∧
      (∀ outgoing ∈ newClient.sent postponed, outgoing.Fits leastFrameLimit 262144) ∧
      (newClient.after postponed).connection.closed = false ∧
      Header.Reversible [upload, inquiry, checksum] := by
    unfold Header.Reversible
    decide +kernel
  obtain ⟨sends, hears⟩ := compression_in_step create_newClient postponed
  obtain ⟨frames, lists, read, named, -, undone⟩ := sends leastFrameLimit 262144 (by decide) fits
  have same : [upload, inquiry, checksum].map some = lists.map some := headings.symm.trans named
  obtain rfl := (List.map_inj_right fun _ _ => Option.some.inj).mp same
  exact ⟨headings, fits, opened, ⟨frames, read, undone reversible⟩, hears opened⟩

end Session

end Http2
