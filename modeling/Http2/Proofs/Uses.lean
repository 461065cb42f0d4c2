import Http2.Proofs.Farewells
import Http2.Proofs.Passage
import Http2.Proofs.Tables
import Mathlib.Data.List.Induction

/-!
# Using a session

Inside, every use of a session is a stretch of `Motion`s of the connection: to receive octets is to
handle the frames in them one by one, and all that the passing of time can do is to end the session.
The `history` of a session puts the motions of all its uses in a row, so that what happens frame by
frame can be told in the same order as what the application does.

A `Trail` is a row of motions with the state that it leads to, and the form in which an induction
over a history goes.
-/

namespace Http2

open List

namespace Connection

def move (conn : Connection) : Motion → Connection
  | .call call => conn.called call
  | .frame frame => conn.handle frame
  | .fail error => conn.fail error
  | .close => conn.close
  | .handOver => { conn with outbound := [] }
  | .tell count => { conn with events := conn.events.drop count }

def moved (conn : Connection) (motions : List Motion) : Connection :=
  motions.foldl move conn

def along {α : Type} (observe : Connection → Motion → List α) (conn : Connection) :
    List Motion → List α
  | [] => []
  | motion :: rest => observe conn motion ++ along observe (conn.move motion) rest

def Allows (conn : Connection) : Motion → Prop
  | .frame _ | .fail _ => conn.closed = false
  | _ => True

/-- Motions that lead from one state to another, each of them where it can happen. -/
inductive Trail (start : Connection) : List Motion → Connection → Prop
  | refl : Trail start [] start
  | tail {motions : List Motion} {conn : Connection} {motion : Motion}
      (trail : Trail start motions conn) (allowed : conn.Allows motion) :
      Trail start (motions ++ [motion]) (conn.move motion)

variable {start conn after : Connection} {motions more : List Motion} {α : Type}

@[simp] theorem moved_append (conn : Connection) (first second : List Motion) :
    conn.moved (first ++ second) = (conn.moved first).moved second :=
  foldl_append

@[simp] theorem moved_nil (conn : Connection) : conn.moved [] = conn := rfl

@[simp] theorem moved_cons (conn : Connection) (motion : Motion) (rest : List Motion) :
    conn.moved (motion :: rest) = (conn.move motion).moved rest := rfl

section

variable (observe : Connection → Motion → List α) (conn : Connection)

@[simp] theorem along_nil : conn.along observe [] = [] := rfl

@[simp] theorem along_cons (motion : Motion) (rest : List Motion) :
    conn.along observe (motion :: rest) = observe conn motion ++
      (conn.move motion).along observe rest := rfl

theorem along_append (first second : List Motion) :
    conn.along observe (first ++ second) =
      conn.along observe first ++ (conn.moved first).along observe second := by
  induction first generalizing conn with
  | nil => rfl
  | cons motion first ih => rw [cons_append, along_cons, along_cons, ih, append_assoc, moved_cons]

end

namespace Trail

variable {motion : Motion}

theorem single (allowed : conn.Allows motion) : Trail conn [motion] (conn.move motion) :=
  Trail.refl.tail allowed

theorem trans (first : Trail start motions conn) (second : Trail conn more after) :
    Trail start (motions ++ more) after := by
  induction second with
  | refl =>
    rw [append_nil]
    exact first
  | tail _ allowed ih =>
    rw [← append_assoc]
    exact ih.tail allowed

theorem moved (trail : Trail start motions conn) : start.moved motions = conn := by
  induction trail with
  | refl => rfl
  | tail _ _ ih => rw [moved_append, ih, moved_cons, moved_nil]

theorem along_concat (trail : Trail start motions conn)
    (observe : Connection → Motion → List α) (motion : Motion) :
    start.along observe (motions ++ [motion]) = start.along observe motions ++
      observe conn motion := by
  rw [along_append, trail.moved, along_cons, along_nil, append_nil]

theorem last (trail : Trail start (motions ++ [motion]) after) :
    Trail start motions (start.moved motions) ∧ (start.moved motions).Allows motion ∧
      after = (start.moved motions).move motion := by
  generalize whole : motions ++ [motion] = all at trail
  cases trail with
  | refl => simp at whole
  | tail before allowed =>
    obtain ⟨rfl, same⟩ := append_inj' whole rfl
    cases same
    rw [before.moved]
    exact ⟨before, allowed, rfl⟩

theorem split (trail : Trail start (motions ++ more) after) :
    Trail start motions (start.moved motions) ∧ Trail (start.moved motions) more after := by
  induction more using List.reverseRecOn generalizing after with
  | nil =>
    rw [append_nil] at trail
    rw [trail.moved]
    exact ⟨trail, .refl⟩
  | append_singleton more motion ih =>
    rw [← append_assoc] at trail
    obtain ⟨before, allowed, rfl⟩ := trail.last
    obtain ⟨first, second⟩ := ih before
    exact ⟨first, second.tail allowed⟩

end Trail

theorem Allows.step {motion : Motion} (allowed : conn.Allows motion) :
    ∃ log, Step conn log (conn.move motion) := by
  cases motion with
  | call call => exact ⟨_, .call call⟩
  | frame frame =>
    have opened : conn.closed = false := allowed
    cases ran : (receiveFrame frame).run conn with
    | ok _ after =>
      simp only [move, handle_of_ok ran]
      exact ⟨_, .accept opened ran⟩
    | error error after =>
      simp only [move, handle_of_error ran]
      cases fatal : error.isFatal with
      | true => exact ⟨_, .collapse opened ran fatal⟩
      | false => exact ⟨_, .absorb opened ran fatal⟩
  | fail error => exact ⟨_, .fail error⟩
  | close => exact ⟨_, .close⟩
  | handOver => exact ⟨_, .handOver⟩
  | tell count => exact ⟨_, .tell _⟩

def answer (conn : Connection) (call : Call) : Except Error (Option Nat) :=
  match (perform call).run conn with
  | .ok answer _ => .ok answer
  | .error error _ => .error error

theorem answer_of_leads {goal : Except Error (Option Nat) → Connection → Prop} {call : Call}
    (leads : (perform call).Leads conn goal) : goal (conn.answer call) (conn.called call) := by
  unfold answer called
  cases ran : (perform call).run conn with
  | ok answer after => exact leads.of_ok ran
  | error error after => exact leads.of_error ran

/-! ## From the beginning -/

/-- The connection has come about, step by step, from the beginning of a session in the role. -/
def Reached (role : Role) (conn : Connection) : Prop :=
  ∃ config log, Steps (Session.fresh role config) log conn

namespace Reached

variable {role : Role}

theorem fresh (role : Role) (config : Config) : (Session.fresh role config).Reached role :=
  ⟨config, [], .refl⟩

section

variable (reached : conn.Reached role)

include reached

theorem sound (opened : conn.closed = false) : conn.Sound := by
  obtain ⟨config, log, steps⟩ := reached
  exact steps.sound (Session.fresh_sound role config) opened

theorem role_eq : conn.registry.role = role := by
  obtain ⟨config, log, steps⟩ := reached
  exact steps.role (Session.fresh_sound role config)

theorem tidy : ∃ closings, conn.Tidy closings := by
  obtain ⟨config, log, steps⟩ := reached
  obtain ⟨closings, -, tidy⟩ := steps.history
  exact ⟨closings, tidy⟩

theorem deserted (closed : conn.closed) : conn.Deserted := by
  obtain ⟨config, log, steps⟩ := reached
  exact steps.deserted (Session.fresh_sound role config) rfl closed

theorem move {motion : Motion} (allowed : conn.Allows motion) :
    (conn.move motion).Reached role := by
  obtain ⟨config, log, steps⟩ := reached
  obtain ⟨more, step⟩ := allowed.step
  exact ⟨config, _, steps.tail step⟩

end

theorem trail (reached : start.Reached role) (trail : Trail start motions conn) :
    conn.Reached role := by
  induction trail with
  | refl => exact reached
  | tail _ allowed ih => exact ih.move allowed

/-- What holds at the start of a trail, and goes on to hold with every motion and what is seen at
it, holds at its end. -/
theorem along_induct (reached : start.Reached role) {observe : Connection → Motion → List α}
    {holds : List α → Connection → Prop} (begins : holds [] start)
    (step : ∀ {seen : List α} {conn : Connection} {motion : Motion}, conn.Reached role →
      conn.Allows motion → holds seen conn →
        holds (seen ++ observe conn motion) (conn.move motion))
    (trail : Trail start motions conn) : holds (start.along observe motions) conn := by
  induction trail with
  | refl => exact begins
  | tail before allowed ih =>
    rw [before.along_concat]
    exact step (reached.trail before) allowed ih

end Reached

end Connection

/-! ## Uses and their motions -/

namespace Session

open Connection (Trail)

def motions (session : Session) : Use → List Motion
  | .call call => [.call call]
  | .receive octets =>
    if session.connection.closed then []
    else consumeMotions (session.reader.feed octets) session.connection
  | .close => [.close]
  | .tick now =>
    match session.deadline? with
    | some deadline => if deadline ≤ now then [.fail (.connection .settingsTimeout)] else []
    | none => []
  | .takeOutbound => [.handOver]
  | .flush transport =>
    if session.outboundOctets.isEmpty then []
    else
      match transport session.outboundOctets with
      | .error _ => []
      | .ok () => [.handOver]
  | .nextEvent => [.tell 1]
  | .takeEvents => [.tell session.connection.events.length]

def history (session : Session) (uses : List Use) : List Motion := session.along motions uses

variable {session : Session} {log : List Activity} {role : Role} {config : Config} {now : Nat}

theorem history_append (session : Session) (first second : List Use) :
    session.history (first ++ second) = session.history first ++
      (session.after first).history second :=
  along_append ..

theorem history_concat (session : Session) (uses : List Use) (use : Use) :
    session.history (uses ++ [use]) = session.history uses ++ (session.after uses).motions use :=
  along_concat ..

theorem Consumed.trail {reader : Reader} {conn : Connection} {motions : List Motion}
    {result : Except Error Unit} (consumed : Consumed reader conn motions result session) :
    Trail conn motions session.connection := by
  induction consumed with
  | fails _ opened => exact .single opened
  | stops => exact .refl
  | ends _ opened => exact .single opened
  | @goes _ _ conn frame _ _ _ _ opened _ _ ih =>
    have first : Trail conn [.frame frame] (conn.handle frame) := .single opened
    exact first.trans ih

theorem use_trail (sound : session.connection.closed = false → session.connection.Sound)
    (use : Use) :
    Trail session.connection (session.motions use) (session.use use).connection := by
  cases use with
  | call call =>
    simp only [Session.use, connection_call]
    exact .single trivial
  | receive octets =>
    simp only [Session.use, motions, Session.receive]
    cases closed : session.connection.closed with
    | true => exact .refl
    | false => exact (consumed (sound closed) closed _).trail
  | close => exact .single trivial
  | tick now =>
    cases due : session.deadline? with
    | none =>
      simp only [Session.use, motions, tick, due]
      exact .refl
    | some deadline =>
      have opened := opened_of_due due
      by_cases late : deadline ≤ now
      · simp only [Session.use, motions, tick, due, if_pos late]
        exact Trail.single (show session.connection.Allows (.fail _) from opened)
      · simp only [Session.use, motions, tick, due, if_neg late]
        exact .refl
  | takeOutbound => exact .single trivial
  | flush transport =>
    have handed : Trail session.connection [.handOver] { session.connection with outbound := [] } :=
      .single trivial
    have flushed : session.flush transport =
        if session.outboundOctets.isEmpty then (.ok 0, session)
        else
          match transport session.outboundOctets with
          | .error error => (.error error, session)
          | .ok () => (.ok session.outboundOctets.length, session.takeOutbound.2) := rfl
    simp only [Session.use, motions, flushed]
    by_cases empty : session.outboundOctets.isEmpty
    · simp only [if_pos empty]
      exact .refl
    · simp only [if_neg empty]
      cases transport session.outboundOctets with
      | error _ => exact .refl
      | ok _ => exact handed
  | nextEvent =>
    have told : Trail session.connection [.tell 1] (session.connection.move (.tell 1)) :=
      .single trivial
    simp only [Session.use, motions, nextEvent?]
    cases events : session.connection.events with
    | nil =>
      simp only [Connection.move, events, drop_nil] at told
      rw [← events] at told
      exact told
    | cons event rest =>
      simp only [Connection.move, events, drop_one, tail_cons] at told
      exact told
  | takeEvents =>
    have told : Trail session.connection [.tell session.connection.events.length]
        (session.connection.move (.tell session.connection.events.length)) := .single trivial
    simp only [Connection.move, drop_length] at told
    exact told

theorem trail_after (run : Run session log) (uses : List Use) :
    Trail session.connection (session.history uses) (session.after uses).connection := by
  induction uses using List.reverseRecOn with
  | nil => exact .refl
  | append_singleton uses use ih =>
    rw [history_concat, after_concat]
    exact ih.trans (use_trail (run.after uses).sound use)

theorem reached_of_create (created : create role config now = .ok session) :
    session.connection.Reached role :=
  ⟨config, _, create_steps created⟩

theorem trail_of_create (created : create role config now = .ok session) :
    Trail (fresh role config) [.call (.sendSettings config.settings now)] session.connection ∨
      Trail (fresh role config)
        ([.call (.sendSettings config.settings now)] ++
        [.call (.resizeWindow config.connectionWindow)]) session.connection := by
  have first : Trail (fresh role config) [.call (.sendSettings config.settings now)]
      ((fresh role config).called (.sendSettings config.settings now)) := .single trivial
  rcases create_eq created with same | same
  · exact .inl (same ▸ first)
  · exact .inr (same ▸ first.tail trivial)

theorem answer_eq (session : Session) (call : Call) :
    (session.call call).1 = session.connection.answer call := by
  unfold Session.call Connection.answer
  cases (Connection.perform call).run session.connection <;> rfl

end Session

end Http2
