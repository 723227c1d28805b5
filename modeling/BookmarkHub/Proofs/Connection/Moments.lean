import BookmarkHub.Proofs.Connection.Accounts
import BookmarkHub.Proofs.Connection.Deeds

/-!
# Moments of a run

What a connection keeps as long as it runs is kept by each thing that it can be
told.  Whatever a run has done was done at one of its moments.
-/

set_option autoImplicit false

namespace BookmarkHub

open Connection

namespace History

theorem deeds_of_running {history : History} {moment : Moment}
    (running : (history.extend moment).connection.stopped = false) {event : ConnectionEvent}
    (told : moment.happening.event? history.endpoint = some event) :
    event ≠ .close ∧ history.connection.stopped = false ∧
      (history.extend moment).connection =
        (handle moment.around event history.connection).1 ∧
      ∃ aside : Trace, (∀ effect ∈ aside, effect.IsAside) ∧
        history.deeds moment = (handle moment.around event history.connection).2 ++ aside := by
  obtain ⟨stepped, outside, plain, done⟩ := history.deeds_of_some moment told
  have before := running_of_step (stepped ▸ running)
  rw [step_of_running _ _ _ before] at stepped done
  refine ⟨?_, before, stepped, outside, plain, done⟩
  rintro rfl
  rw [stepped] at running
  cases running

theorem coherent_run {options : ConnectionOptions} {moments : List Moment}
    (running : (run options moments).connection.stopped = false) :
    Coherent (run options moments).connection := by
  rcases run_kept options moments with runs | closed
  · exact runs.coherent
  · rw [closed.stopped] at running
    cases running

/-! ## The time of what is done -/

/-- The effects so far, each with the time of its moment. -/
def datedFrom (history : History) : List Moment → DatedTrace
  | [] => []
  | moment :: later =>
      (history.deeds moment).dated moment.around.now ++ datedFrom (history.extend moment) later

def dated (options : ConnectionOptions) (moments : List Moment) : DatedTrace :=
  datedFrom (start options) moments

theorem datedFrom_concat (history : History) (earlier : List Moment) (moment : Moment) :
    datedFrom history (earlier ++ [moment]) =
      datedFrom history earlier ++
        ((earlier.foldl extend history).deeds moment).dated moment.around.now := by
  induction earlier generalizing history with
  | nil => simp [datedFrom]
  | cons first rest ih => simp [datedFrom, ih]

theorem dated_concat (options : ConnectionOptions) (earlier : List Moment) (moment : Moment) :
    dated options (earlier ++ [moment]) =
      dated options earlier ++ ((run options earlier).deeds moment).dated moment.around.now :=
  datedFrom_concat (start options) earlier moment

theorem trace_of_dated (options : ConnectionOptions) (moments : List Moment) :
    (dated options moments).map Prod.snd = (run options moments).trace := by
  induction moments using List.reverseRecOn with
  | nil => rfl
  | append_singleton earlier moment ih =>
      rw [dated_concat, run_concat, trace_deeds, List.map_append, ih, Trace.undated]

/-! ## Inductions -/

/-- What holds at the start and is kept by whatever an open connection is told, at any time,
holds of every run until the connection is closed. -/
theorem dated_induction (options : ConnectionOptions)
    (Holds : Connection → DatedTrace → Prop) (atStart : Holds (.create options) [])
    (aside : ∀ connection dated now (effects : Trace), (∀ effect ∈ effects, effect.IsAside) →
      Holds connection dated → Holds connection (dated ++ effects.dated now))
    (handled : ∀ around connection event dated, Coherent connection → event ≠ .close →
      Holds connection dated →
        Holds (handle around event connection).1
          (dated ++ Trace.dated around.now (handle around event connection).2))
    (moments : List Moment) (running : (run options moments).connection.stopped = false) :
    Holds (run options moments).connection (dated options moments) := by
  induction moments using List.reverseRecOn with
  | nil => exact atStart
  | append_singleton earlier moment ih =>
      rw [run_concat] at running ⊢
      rw [dated_concat]
      cases told : moment.happening.event? (run options earlier).endpoint with
      | none =>
          obtain ⟨same, plain⟩ := (run options earlier).deeds_of_none moment told
          rw [same] at running ⊢
          exact aside _ _ _ _ plain (ih running)
      | some event =>
          obtain ⟨goesOn, before, stepped, outside, plain, done⟩ := deeds_of_running running told
          rw [stepped, done, Trace.dated_append, ← List.append_assoc]
          exact aside _ _ _ _ plain
            (handled moment.around _ event _ (coherent_run before) goesOn (ih before))

theorem running_induction (options : ConnectionOptions) (Holds : Connection → Trace → Prop)
    (atStart : Holds (.create options) [])
    (aside : ∀ connection trace (effects : Trace), (∀ effect ∈ effects, effect.IsAside) →
      Holds connection trace → Holds connection (trace ++ effects))
    (handled : ∀ around connection event trace, Coherent connection → event ≠ .close →
      Holds connection trace →
        Holds (handle around event connection).1 (trace ++ (handle around event connection).2))
    (moments : List Moment) (running : (run options moments).connection.stopped = false) :
    Holds (run options moments).connection (run options moments).trace := by
  rw [← trace_of_dated]
  refine dated_induction options (fun connection dated => Holds connection (dated.map Prod.snd))
    atStart ?_ ?_ moments running
  · intro connection dated now effects plain holds
    rw [List.map_append, Trace.undated]
    exact aside _ _ effects plain holds
  · intro around connection event dated coherent goesOn holds
    rw [List.map_append, Trace.undated]
    exact handled around connection event _ coherent goesOn holds

theorem options_run (options : ConnectionOptions) (moments : List Moment)
    (running : (run options moments).connection.stopped = false) :
    (run options moments).connection.options = options := by
  refine running_induction options (fun connection _ => connection.options = options)
    rfl ?_ ?_ moments running
  · intro connection trace effects _ same
    exact same
  · intro around connection event trace coherent goesOn same
    exact ((handle_deed around coherent event goesOn).options coherent).trans same

theorem moment_of_effect {options : ConnectionOptions} {moments : List Moment}
    {before after : Trace} {effect : ConnectionEffect}
    (split : (run options moments).trace = before ++ effect :: after) :
    ∃ earlier moment first rest, before = (run options earlier).trace ++ first ∧
      ((run options earlier).extend moment).trace =
        (run options earlier).trace ++ (first ++ effect :: rest) := by
  induction moments using List.reverseRecOn generalizing after with
  | nil => simp [run, start] at split
  | append_singleton earlier moment ih =>
      rw [run_concat] at split
      obtain ⟨effects, longer⟩ := (run options earlier).trace_extend moment
      rw [← longer] at split
      rcases List.append_eq_append_iff.1 split with
        ⟨first, now, done⟩ | ⟨between, earlierTrace, done⟩
      · refine ⟨earlier, moment, first, after, now, ?_⟩
        rw [← longer, done]
      · cases between with
        | nil =>
            refine ⟨earlier, moment, [], after, by simpa using earlierTrace.symm, ?_⟩
            rw [← longer]
            simpa using done.symm
        | cons other rest =>
            obtain ⟨rfl, _⟩ := List.cons.inj done
            exact ih earlierTrace

end History

end BookmarkHub
