import Http2.Proofs.Output

/-!
# What the peer may send on the connection

The application asks for a window of the connection by its size.  A smaller size only moves the
target to which the window is refilled, and a larger one is announced as the difference of the two
targets.  So credit that stands above a lowered target stays, and is added to when the target is
raised again: the peer may then send more than was ever asked for.  What it may send beyond the
target is at most what the target was lowered by along the way, and nothing once every growth has
waited for the window to come down to the target.
-/

namespace Http2

open List

/-- A size that was granted, and what the target and the window of the connection were then. -/
structure Resize where
  size : Nat
  target : Nat
  window : Int
  deriving DecidableEq, Repr

namespace Resize

def cut (resize : Resize) : Nat := resize.target - resize.size

/-- The size and, where the target is raised, whatever the window stands above the old target. -/
def grant (resize : Resize) : Int :=
  if resize.target < resize.size then resize.size +
    max 0 (resize.window - resize.target) else resize.size

theorem grant_eq (resize : Resize)
    (waits : resize.target < resize.size → resize.window ≤ resize.target) :
    resize.grant = resize.size := by
  unfold grant
  split
  · have := waits ‹_›
    omega
  · rfl

theorem size_le_grant (resize : Resize) : (resize.size : Int) ≤ resize.grant := by
  unfold grant
  split <;> omega

end Resize

namespace Connection

variable {conn after start : Connection} {motion : Motion} {motions : List Motion}
  {role : Role} {limit : Nat}

/-- The window of the connection is at most refilled to its target, which stays. -/
structure WithinTarget (before after : Connection) : Prop where
  target : after.receiveTarget = before.receiveTarget
  window : after.receiveWindows.connection ≤
    max before.receiveWindows.connection (before.receiveTarget : Int)

theorem Output.withinTarget {words : Frame → Prop} {heads : List Heading}
    (output : Output words heads conn after) : WithinTarget conn after :=
  ⟨output.target, output.window⟩

theorem Releases.withinTarget {words : Frame → Prop} (releases : Releases words conn after) :
    WithinTarget conn after := by
  obtain ⟨heads, output, -⟩ := releases
  exact output.withinTarget

private theorem called_withinTarget {call : Call} (fixed : ∀ size, call ≠ .resizeWindow size) :
    WithinTarget conn (conn.called call) := by
  cases called_output conn call with
  | announces _ announces =>
    obtain ⟨heads, output⟩ := announces.exists_output
    exact output.withinTarget
  | trailers _ _ releases => exact ⟨releases.withinTarget.target, releases.withinTarget.window⟩
  | resizes same => exact absurd same (fixed _)
  | releases _ _ _ releases => exact releases.withinTarget

private theorem move_withinTarget (addressed : motion.Addressed limit)
    (fixed : ∀ size, motion ≠ .call (.resizeWindow size)) :
    WithinTarget conn (conn.move motion) := by
  cases motion with
  | call call => exact called_withinTarget fun size same => fixed size (congrArg Motion.call same)
  | frame frame =>
    obtain ⟨decoder, releases, -⟩ := handle_releases conn addressed
    exact ⟨releases.withinTarget.target, releases.withinTarget.window⟩
  | fail error => exact (conn.fail_output error).withinTarget
  | close => exact conn.close_output.withinTarget
  | handOver | tell => exact ⟨rfl, Int.le_max_left _ _⟩

/-! ## Resizing -/

/-- A resize that succeeds adds what the target grows by to whatever the window is. -/
structure Resized (before : Connection) (size : Nat) (after : Connection) : Prop where
  target : after.receiveTarget = size
  window : after.receiveWindows.connection =
    before.receiveWindows.connection + (size - before.receiveTarget : Nat)

private theorem called_resized (conn : Connection) (size : Nat) :
    (conn.answer (.resizeWindow size)).isOk = true ∧
    Resized conn size (conn.called (.resizeWindow size)) ∨
      (conn.answer (.resizeWindow size)).isOk = false ∧
      conn.called (.resizeWindow size) = conn := by
  have leads : (perform (.resizeWindow size)).Leads conn fun result after =>
      result.isOk = true ∧ Resized conn size after ∨ result.isOk = false ∧ after = conn := by
    refine (perform_served conn _).mono fun result after served => ?_
    cases served with
    | denied => exact .inr ⟨rfl, rfl⟩
    | grown _ _ credited =>
      obtain ⟨-, -, rfl⟩ := Windows.credit_connection_eq credited
      exact .inl ⟨rfl, rfl, rfl⟩
    | lowered _ lower =>
      refine .inl ⟨rfl, rfl, ?_⟩
      simp only
      omega
  exact answer_of_leads leads

/-! ## Along a run -/

def resizes (conn : Connection) : Motion → List Resize
  | .call (.resizeWindow size) =>
    if (conn.answer (.resizeWindow size)).isOk then
      [⟨size, conn.receiveTarget, conn.receiveWindows.connection⟩]
    else []
  | _ => []

private theorem resizes_of_fixed (fixed : ∀ size, motion ≠ .call (.resizeWindow size)) :
    conn.resizes motion = [] := by
  unfold resizes
  split
  · exact absurd rfl (fixed _)
  · rfl

/-- How the allowance is bounded after some resizes, on top of the sizes that it began with. -/
structure Metered (sizes : List Nat) (resizes : List Resize) (conn : Connection) : Prop where
  asked : conn.receiveTarget ∈ sizes ++ resizes.map Resize.size
  lowered : conn.receiveWindows.connection ≤ conn.receiveTarget + total (resizes.map Resize.cut)
  granted : ∃ bound ∈ sizes.map Nat.cast ++ resizes.map Resize.grant,
    conn.receiveWindows.connection ≤ bound

namespace Metered

variable {sizes : List Nat} {resizes : List Resize}

variable (metered : Metered sizes resizes conn)

include metered

theorem target_le :
    ∃ bound ∈ sizes.map Nat.cast ++ resizes.map Resize.grant,
      (conn.receiveTarget : Int) ≤ bound := by
  rcases mem_append.mp metered.asked with first | later
  · exact ⟨_, mem_append_left _ (mem_map_of_mem first), Int.le_refl _⟩
  · obtain ⟨resize, member, same⟩ := mem_map.mp later
    exact ⟨resize.grant, mem_append_right _ (mem_map_of_mem member), same ▸ resize.size_le_grant⟩

theorem withinTarget (withinTarget : WithinTarget conn after) : Metered sizes resizes after where
  asked := withinTarget.target ▸ metered.asked
  lowered := by
    have window := withinTarget.window
    have lowered := metered.lowered
    rw [withinTarget.target]
    omega
  granted := by
    -- A window below its target may be refilled, and then it is the target that has been granted.
    rcases Int.le_total conn.receiveWindows.connection conn.receiveTarget with under | above
    · obtain ⟨bound, member, within⟩ := metered.target_le
      exact ⟨bound, member, by have := withinTarget.window; omega⟩
    · obtain ⟨bound, member, within⟩ := metered.granted
      exact ⟨bound, member, by have := withinTarget.window; omega⟩

theorem resized {size : Nat} (resized : Resized conn size after) :
    Metered sizes (resizes ++ [⟨size, conn.receiveTarget, conn.receiveWindows.connection⟩])
      after where
  asked := by
    rw [resized.target]
    simp
  lowered := by
    have lowered := metered.lowered
    rw [resized.target, resized.window, map_append, total_append]
    simp only [map_cons, map_nil, total_cons, total_nil, Resize.cut]
    omega
  granted := by
    rw [resized.window]
    by_cases grows : conn.receiveTarget < size
    · refine ⟨Resize.grant ⟨size, conn.receiveTarget, conn.receiveWindows.connection⟩, by simp, ?_⟩
      simp only [Resize.grant, if_pos grows]
      omega
    · obtain ⟨bound, member, within⟩ := metered.granted
      refine ⟨bound, ?_, by omega⟩
      rw [map_append, ← append_assoc]
      exact mem_append_left _ member

end Metered

private theorem metered_move {sizes : List Nat} {resizes : List Resize}
    (addressed : motion.Addressed limit) (metered : Metered sizes resizes conn) :
    Metered sizes (resizes ++ conn.resizes motion) (conn.move motion) := by
  by_cases fixed : ∀ size, motion ≠ .call (.resizeWindow size)
  · rw [resizes_of_fixed fixed, append_nil]
    exact metered.withinTarget (move_withinTarget addressed fixed)
  · simp only [not_forall, not_not] at fixed
    obtain ⟨size, rfl⟩ := fixed
    rcases called_resized conn size with ⟨succeeds, resized⟩ | ⟨fails, same⟩
    · simp only [Connection.resizes, if_pos succeeds]
      exact metered.resized resized
    · have unchanged : conn.move (.call (.resizeWindow size)) = conn := same
      simp only [Connection.resizes, fails, Bool.false_eq_true, if_false, append_nil]
      rw [unchanged]
      exact metered

theorem Trail.metered {sizes : List Nat} (trail : Trail start motions conn)
    (addressed : ∀ motion ∈ motions, motion.Addressed limit) (begins : start.Metered sizes []) :
    conn.Metered sizes (start.along resizes motions) := by
  induction trail with
  | refl => exact begins
  | tail before allowed ih =>
    rw [before.along_concat]
    have earlier := ih fun motion member => addressed motion (mem_append_left _ member)
    exact metered_move (addressed _ (by simp)) earlier

end Connection

namespace Session

variable {session : Session} {role : Role} {config : Config} {now : Nat}

private theorem defaultWindow_le_of_create (created : create role config now = .ok session) :
    defaultWindow ≤ config.connectionWindow := by
  unfold create at created
  split at created
  · cases created
  · rename_i valid
    unfold Config.validate at valid
    split at valid
    · cases valid
    · split at valid
      · cases valid
      · omega

private theorem metered_of_create (created : create role config now = .ok session) :
    session.connection.Metered [defaultWindow, config.connectionWindow] [] := by
  have begins : (fresh role config).Metered [defaultWindow, config.connectionWindow] [] :=
    ⟨mem_cons_self, Int.le_refl _, defaultWindow, by simp, Int.le_refl _⟩
  have withinTarget : Connection.WithinTarget (fresh role config)
      ((fresh role config).called (.sendSettings config.settings now)) :=
    Connection.called_withinTarget (by simp)
  rcases create_eq created with same | same
  · rw [same]
    exact begins.withinTarget withinTarget
  · rw [same]
    rcases Connection.called_resized
      ((fresh role config).called (.sendSettings config.settings now))
      config.connectionWindow with ⟨-, resized⟩ | ⟨-, unchanged⟩
    · have enough := defaultWindow_le_of_create created
      have window : (((fresh role config).called (.sendSettings config.settings now)).called
          (.resizeWindow config.connectionWindow)).receiveWindows.connection ≤
          config.connectionWindow := by
        have target : _ = defaultWindow := withinTarget.target
        have window : _ ≤ max (defaultWindow : Int) defaultWindow := withinTarget.window
        rw [resized.window, target]
        omega
      refine ⟨by simp [resized.target], ?_, config.connectionWindow, by simp, window⟩
      rw [resized.target]
      simpa using window
    · rw [unchanged]
      exact begins.withinTarget withinTarget

def resizes (session : Session) (uses : List Use) : List Resize :=
  session.connection.along Connection.resizes (session.history uses)

/-- The peer may send no more than the largest size ever asked for, each counted with what the
window stood above the target when it was raised to that size.  So where every growth waits for the
window to come down to the target, no more is granted than was asked for; and in any case the excess
over the target is no more than what the target was ever lowered by.  A growth adds the difference
of the targets to whatever is left. -/
theorem allowance_bounded (created : create role config now = .ok session) (uses : List Use) :
    let connection := (session.after uses).connection
    let sizes := [defaultWindow, config.connectionWindow]
    let resizes := session.resizes uses
    (∃ bound ∈ sizes.map Nat.cast ++ resizes.map Resize.grant,
      connection.receiveWindows.connection ≤ bound) ∧
    ((∀ resize ∈ resizes, resize.target < resize.size → resize.window ≤ resize.target) →
      ∃ size ∈ sizes ++ resizes.map Resize.size, connection.receiveWindows.connection ≤ size) ∧
    connection.receiveTarget ∈ sizes ++ resizes.map Resize.size ∧
    connection.receiveWindows.connection ≤ connection.receiveTarget +
    total (resizes.map Resize.cut) ∧
    ∀ size, ((session.after uses).call (.resizeWindow size)).1.isOk = true →
      ((session.after uses).call (.resizeWindow size)).2.connection.receiveWindows.connection =
        connection.receiveWindows.connection + (size - connection.receiveTarget : Nat) := by
  intro connection sizes resizes
  have metered : connection.Metered sizes resizes :=
    (trail_after (Run.create created) uses).metered (history_addressed created uses)
      (metered_of_create created)
  refine ⟨metered.granted, fun waits => ?_, metered.asked, metered.lowered, fun size succeeds => ?_⟩
  · obtain ⟨bound, member, within⟩ := metered.granted
    rcases List.mem_append.mp member with first | later
    · obtain ⟨size, mine, rfl⟩ := List.mem_map.mp first
      exact ⟨size, List.mem_append_left _ mine, within⟩
    · obtain ⟨resize, mine, rfl⟩ := List.mem_map.mp later
      refine ⟨resize.size, List.mem_append_right _ (List.mem_map_of_mem mine), ?_⟩
      rwa [resize.grant_eq (waits resize mine)] at within
  · rw [answer_eq] at succeeds
    rw [connection_call]
    rcases Connection.called_resized connection size with ⟨-, resized⟩ | ⟨fails, -⟩
    · exact resized.window
    · exact (Bool.false_ne_true (fails.symm.trans succeeds)).elim

/-- An application that gives up all credit of the connection and then asks for it again. -/
def wavering : List Use := [.call (.resizeWindow 0), .call (.resizeWindow defaultWindow)]

/-- The peer may then send twice as much as was ever asked for. -/
theorem allowance_exceeds_sizes :
    create .client {} 0 = .ok newClient ∧
    (newClient.resizes wavering).map Resize.size = [0, defaultWindow] ∧
    (newClient.after wavering).connection.receiveWindows.connection = 2 * defaultWindow ∧
    ¬ ∃ size ∈ [defaultWindow, ({} : Config).connectionWindow] ++
        (newClient.resizes wavering).map Resize.size,
      (newClient.after wavering).connection.receiveWindows.connection ≤ size := by
  refine ⟨create_newClient, ?_⟩
  decide +kernel

theorem allowance_bounded_wavering :
    newClient.resizes wavering =
      [⟨0, defaultWindow, defaultWindow⟩, ⟨defaultWindow, 0, defaultWindow⟩] ∧
    (newClient.after wavering).connection.receiveWindows.connection ≤
      defaultWindow + total [defaultWindow, 0] ∧
    ((newClient.after wavering).call (.resizeWindow (defaultWindow + 1))).1.isOk = true ∧
    ((newClient.after wavering).call
      (.resizeWindow (defaultWindow + 1))).2.connection.receiveWindows.connection =
        2 * defaultWindow + 1 ∧
    ∃ size ∈ [defaultWindow, defaultWindow, 0],
      (newClient.after [.call (.resizeWindow 0)]).connection.receiveWindows.connection ≤ size := by
  have resizes : newClient.resizes wavering =
      [⟨0, defaultWindow, defaultWindow⟩, ⟨defaultWindow, 0, defaultWindow⟩] := by decide +kernel
  have stands : (newClient.after wavering).connection.receiveWindows.connection =
      2 * defaultWindow ∧
      (newClient.after wavering).connection.receiveTarget = defaultWindow := by decide +kernel
  have succeeds : ((newClient.after wavering).call (.resizeWindow (defaultWindow + 1))).1.isOk =
      true := by
    decide +kernel
  have once : newClient.resizes [.call (.resizeWindow 0)] =
      [⟨0, defaultWindow, defaultWindow⟩] := by
    decide +kernel
  obtain ⟨-, -, -, lowered, grows⟩ := allowance_bounded create_newClient wavering
  obtain ⟨-, waits, -, -, -⟩ := allowance_bounded create_newClient [.call (.resizeWindow 0)]
  rw [resizes, stands.2] at lowered
  rw [once] at waits
  have grown := grows (defaultWindow + 1) succeeds
  rw [stands.1, stands.2] at grown
  refine ⟨resizes, lowered, succeeds, grown.trans (by decide), waits ?_⟩
  decide

end Session

end Http2
