import BookmarkHub.Proofs.Connection.Attempts
import BookmarkHub.Proofs.Connection.History
import BookmarkHub.Proofs.Connection.Phases

/-!
# Phases, attempts and sockets of a run

Between any two handlers the parts of a connection agree.  Its phase has gone
along edges, until the connection was closed, and it has made one attempt and
held one socket at a time.
-/

set_option autoImplicit false

namespace BookmarkHub

open Connection

theorem History.running_of_extend {history : History} {moment : Moment}
    (running : (history.extend moment).connection.stopped = false) :
    history.connection.stopped = false := by
  obtain ⟨_, _, ⟨same, _⟩ | ⟨event, stepped, _⟩⟩ := history.extend_cases moment
  · rw [same] at running
    exact running
  · rw [stepped] at running
    exact running_of_step running

/-- What is so of the parts of a connection between two handlers, and of the way that led there,
which closing ends.  What can happen next begins at most one attempt, and takes at most one
socket. -/
structure Orderly (history : History) : Prop where
  parts : history.connection.stopped = false → Coherent history.connection
  way : history.connection.stopped = false →
    Path .disconnected history.trace.entered history.connection.phase
  ending : history.connection.stopped = true → history.connection.phase = .disconnected ∧
    ∃ earlier last, Path .disconnected earlier last ∧
      history.trace.entered = earlier ++ [.disconnected]
  next : ∀ moment, ∃ effects, (history.extend moment).trace = history.trace ++ effects ∧
    OneAtATime history.connection ((history.extend moment).connection, effects)
  unstranded : ∀ id, .strand id ∉ history.trace

section Orderly
variable {history : History}

theorem orderly_next (parts : history.connection.stopped = false → Coherent history.connection)
    (moment : Moment) :
    ∃ effects, (history.extend moment).trace = history.trace ++ effects ∧
      OneAtATime history.connection ((history.extend moment).connection, effects) := by
  obtain ⟨aside, outside, ⟨same, told⟩ | ⟨event, stepped, told⟩⟩ := history.extend_cases moment
  · refine ⟨aside, told, ?_⟩
    rw [same]
    exact Steady.oneAtATime ⟨Trace.plain_of_aside outside, rfl, id⟩
  · refine ⟨_, told, ?_⟩
    have single : OneAtATime history.connection
        (history.connection.step moment.around event) := by
      cases stopped : history.connection.stopped with
      | false =>
          rw [step_of_running _ _ _ stopped]
          exact handle_oneAtATime moment.around (parts stopped) event
      | true =>
          obtain ⟨unchanged, aside⟩ :=
            step_of_stopped moment.around history.connection event stopped
          refine Steady.oneAtATime ⟨Trace.plain_of_aside aside, ?_, ?_⟩ <;> simp [unchanged]
    rw [stepped]
    simpa using single.surround [] aside (by simp) (Trace.plain_of_aside outside)

theorem Orderly.unstranded_extend (orderly : Orderly history) (moment : Moment) (id : Nat) :
    .strand id ∉ (history.extend moment).trace := by
  obtain ⟨effects, told, single⟩ := orderly.next moment
  rw [told]
  intro strands
  rcases List.mem_append.1 strands with earlier | now
  · exact orderly.unstranded id earlier
  · exact single.stranded id now

theorem start_orderly (options : ConnectionOptions) : Orderly (History.start options) where
  parts := fun _ => coherent_create options
  way := fun _ => rfl
  ending := fun stopped => by cases stopped
  next := orderly_next fun _ => coherent_create options
  unstranded := fun id strands => by cases strands

theorem Orderly.aside (orderly : Orderly history) (moment : Moment) {aside : Trace}
    (same : (history.extend moment).connection = history.connection)
    (told : (history.extend moment).trace = history.trace ++ aside)
    (outside : ∀ effect ∈ aside, effect.IsAside) : Orderly (history.extend moment) := by
  have entered : (history.extend moment).trace.entered = history.trace.entered := by
    rw [told, Trace.entered_append, Trace.entered_aside outside, List.append_nil]
  have parts : (history.extend moment).connection.stopped = false →
      Coherent (history.extend moment).connection := by
    rw [same]
    exact orderly.parts
  refine ⟨parts, ?_, ?_, orderly_next parts, orderly.unstranded_extend moment⟩
  · rw [same, entered]
    exact orderly.way
  · rw [same, entered]
    exact orderly.ending

theorem Orderly.close (orderly : Orderly history) (moment : Moment) {aside : Trace}
    (running : history.connection.stopped = false)
    (closed : (history.extend moment).connection = (shutDown history.connection).1)
    (told : (history.extend moment).trace =
      history.trace ++ ((shutDown history.connection).2 ++ aside))
    (outside : ∀ effect ∈ aside, effect.IsAside) : Orderly (history.extend moment) := by
  have stopped : (history.extend moment).connection.stopped = true := by
    rw [closed]
    rfl
  have entered : (history.extend moment).trace.entered =
      history.trace.entered ++ [.disconnected] := by
    rw [told, shutDown_eq]
    simp [Trace.entered_aside outside]
  have parts : (history.extend moment).connection.stopped = false →
      Coherent (history.extend moment).connection := by
    intro running
    rw [stopped] at running
    cases running
  refine ⟨parts, ?_, ?_, orderly_next parts, orderly.unstranded_extend moment⟩
  · intro running
    rw [stopped] at running
    cases running
  · intro _
    refine ⟨?_, history.trace.entered, history.connection.phase, orderly.way running, entered⟩
    rw [closed]
    rfl

theorem Orderly.handle (orderly : Orderly history) (moment : Moment) (event : ConnectionEvent)
    {aside : Trace} (running : history.connection.stopped = false) (goesOn : event ≠ .close)
    (stepped : (history.extend moment).connection =
      (history.connection.handle moment.around event).1)
    (told : (history.extend moment).trace =
      history.trace ++ ((history.connection.handle moment.around event).2 ++ aside))
    (outside : ∀ effect ∈ aside, effect.IsAside) : Orderly (history.extend moment) := by
  have coherent := handle_coherent moment.around (orderly.parts running) event goesOn
  have walks := handle_walks moment.around (orderly.parts running) event goesOn
  rw [← stepped] at coherent
  refine ⟨fun _ => coherent, ?_, ?_, orderly_next fun _ => coherent,
    orderly.unstranded_extend moment⟩
  · intro _
    rw [told, stepped, Trace.entered_append, Trace.entered_append, Trace.entered_aside outside,
      List.append_nil]
    exact path_append (orderly.way running) walks
  · intro stopped
    rw [coherent.running] at stopped
    cases stopped

theorem extend_orderly (orderly : Orderly history) (moment : Moment) :
    Orderly (history.extend moment) := by
  obtain ⟨aside, outside, ⟨same, told⟩ | ⟨event, stepped, told⟩⟩ := history.extend_cases moment
  · exact orderly.aside moment same told outside
  · cases stopped : history.connection.stopped with
    | true =>
        obtain ⟨unchanged, still⟩ :=
          step_of_stopped moment.around history.connection event stopped
        refine orderly.aside moment (stepped.trans unchanged) told ?_
        intro effect member
        exact (List.mem_append.1 member).elim (still effect) (outside effect)
    | false =>
        rw [step_of_running _ _ _ stopped] at stepped told
        by_cases closes : event = .close
        · subst closes
          exact orderly.close moment stopped stepped told outside
        · exact orderly.handle moment event stopped closes stepped told outside

theorem orderly_run (options : ConnectionOptions) (moments : List Moment) :
    Orderly (History.run options moments) :=
  History.run_induction options (start_orderly options)
    (fun _ moment orderly => extend_orderly orderly moment) moments

end Orderly

/-- Every run of a connection is orderly. -/
theorem run_orderly (options : ConnectionOptions) (moments : List Moment) :
    Orderly (History.run options moments) :=
  orderly_run options moments

end BookmarkHub
