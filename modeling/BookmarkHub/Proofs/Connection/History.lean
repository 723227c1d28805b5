import BookmarkHub.Connection.Endpoint
import BookmarkHub.Proofs.Connection.Trace
import Mathlib.Data.List.Induction

/-!
# Runs of a connection

Callers put commands into the mailbox of a connection.  In between the
connection takes the oldest command, or meets something from outside, in any
order and at any time.  The history of a run keeps the requests that were handed
in and everything that was done.
-/

set_option autoImplicit false

namespace BookmarkHub

/-- What happens to a connection with its mailbox, from which it takes the oldest command. -/
inductive Happening where
  | send (request : Request)
  | connect
  | listen (label : String) (once immediately : Bool)
  | count (caller : Nat)
  | close
  | take
  | meet (occurrence : Occurrence)

structure Moment where
  around : Surroundings
  happening : Happening

namespace Happening

def request? : Happening → Option Request
  | .send request => some request
  | _ => none

def event? (endpoint : Endpoint) : Happening → Option ConnectionEvent
  | .take => endpoint.mailbox.head?.map CallerCommand.event
  | .meet occurrence => some occurrence.event
  | _ => none

/-- What becomes of an endpoint.  A request that is handed in gets the ticket. -/
def act (around : Surroundings) (ticket : Ticket) (endpoint : Endpoint) :
    Happening → Endpoint.Handled
  | .send request => endpoint.send ticket request
  | .connect => endpoint.post .connect
  | .listen label once immediately =>
      let (handled, told) := endpoint.onConnected label once immediately
      (handled.1, told.map .notify ++ handled.2)
  | .count caller => endpoint.post (.count caller)
  | .close => endpoint.post .close
  | .take => endpoint.takeCommand around
  | .meet occurrence => endpoint.tell around occurrence.event

end Happening

/-- A connection with everything that was handed in and done.  The ticket of a request is its
position. -/
structure History where
  endpoint : Endpoint
  requests : List Request := []
  trace : Trace := []

namespace History

abbrev connection (history : History) : Connection := history.endpoint.connection

def start (options : ConnectionOptions) : History := { endpoint := .create options }

def extend (history : History) (moment : Moment) : History :=
  let (endpoint, effects) :=
    moment.happening.act moment.around history.requests.length history.endpoint
  { endpoint
    requests := history.requests ++ moment.happening.request?.toList
    trace := history.trace ++ effects }

def deeds (history : History) (moment : Moment) : Trace :=
  (moment.happening.act moment.around history.requests.length history.endpoint).2

theorem trace_deeds (history : History) (moment : Moment) :
    (history.extend moment).trace = history.trace ++ history.deeds moment := rfl

def run (options : ConnectionOptions) (moments : List Moment) : History :=
  moments.foldl extend (start options)

theorem run_concat (options : ConnectionOptions) (moments : List Moment) (moment : Moment) :
    run options (moments ++ [moment]) = (run options moments).extend moment := by
  simp [run]

/-- What holds at the start and is kept by whatever happens holds of every run. -/
theorem run_induction (options : ConnectionOptions) {Holds : History → Prop}
    (atStart : Holds (start options))
    (kept : ∀ history moment, Holds history → Holds (history.extend moment))
    (moments : List Moment) : Holds (run options moments) := by
  induction moments using List.reverseRecOn with
  | nil => exact atStart
  | append_singleton earlier moment ih =>
      rw [run_concat]
      exact kept _ moment ih

theorem requests_extend (history : History) (moment : Moment) :
    (history.extend moment).requests =
      history.requests ++ moment.happening.request?.toList := rfl

theorem trace_extend (history : History) (moment : Moment) :
    history.trace <+: (history.extend moment).trace := List.prefix_append _ _

def outcome? (history : History) (ticket : Ticket) : Option Outcome :=
  history.trace.findSome? (·.outcomeFor? ticket)

theorem resolve_of_outcome? {history : History} {ticket : Ticket} {outcome : Outcome}
    (told : history.outcome? ticket = some outcome) :
    ∃ before after, history.trace = before ++ .resolve ticket outcome :: after :=
  List.append_of_mem (Trace.resolve_of_told told)

theorem outcome?_extend {history : History} {ticket : Ticket} {outcome : Outcome}
    (told : history.outcome? ticket = some outcome) (moment : Moment) :
    (history.extend moment).outcome? ticket = some outcome := by
  obtain ⟨more, longer⟩ := history.trace_extend moment
  rw [outcome?, ← longer, List.findSome?_append]
  rw [outcome?] at told
  rw [told]
  rfl

/-- What can become of a connection. -/
inductive Reaches (history : History) : History → Prop where
  | refl : Reaches history history
  | extend {later : History} (before : Reaches history later) (moment : Moment) :
      Reaches history (later.extend moment)

theorem Reaches.trans {first second third : History} (before : Reaches first second)
    (after : Reaches second third) : Reaches first third := by
  induction after with
  | refl => exact before
  | extend _ moment ih => exact .extend ih moment

theorem Reaches.request {history later : History} (reaches : Reaches history later)
    {ticket : Ticket} {request : Request} (handedIn : history.requests[ticket]? = some request) :
    later.requests[ticket]? = some request := by
  induction reaches with
  | refl => exact handedIn
  | extend _ moment ih =>
      rw [requests_extend, List.getElem?_append_left]
      · exact ih
      · exact (List.getElem?_eq_some_iff.1 ih).1

theorem Reaches.outcome {history later : History} (reaches : Reaches history later)
    {ticket : Ticket} {outcome : Outcome} (told : history.outcome? ticket = some outcome) :
    later.outcome? ticket = some outcome := by
  induction reaches with
  | refl => exact told
  | extend _ moment ih => exact outcome?_extend ih moment

theorem Reaches.length_le {history later : History} (reaches : Reaches history later) :
    history.requests.length ≤ later.requests.length := by
  induction reaches with
  | refl => exact Nat.le_refl _
  | extend _ moment ih =>
      rw [requests_extend, List.length_append]
      exact Nat.le_add_right_of_le ih

theorem Reaches.run {options : ConnectionOptions} {history later : History}
    (reaches : Reaches history later) (ran : ∃ moments, history = run options moments) :
    ∃ moments, later = run options moments := by
  induction reaches with
  | refl => exact ran
  | extend _ moment ih =>
      obtain ⟨moments, rfl⟩ := ih
      exact ⟨moments ++ [moment], (run_concat options moments moment).symm⟩

end History

def withTickets (requests : List Request) : List Queued :=
  requests.zipIdx.map fun entry => ⟨entry.2, entry.1⟩

theorem withTickets_concat (requests : List Request) (request : Request) :
    withTickets (requests ++ [request]) =
      withTickets requests ++ [⟨requests.length, request⟩] := by
  simp [withTickets, List.zipIdx_append]

theorem tickets_withTickets (requests : List Request) :
    (withTickets requests).map Queued.ticket = List.range requests.length := by
  rw [withTickets, List.map_map, List.range_eq_range', ← List.zipIdx_map_snd]
  rfl

theorem mem_withTickets {requests : List Request} {queued : Queued}
    (member : queued ∈ withTickets requests) :
    requests[queued.ticket]? = some queued.request := by
  obtain ⟨entry, there, rfl⟩ := List.mem_map.1 member
  exact List.mem_zipIdx_iff_getElem?.1 there

def CallerCommand.queued? : CallerCommand → Option Queued
  | .submit ticket request => some ⟨ticket, request⟩
  | _ => none

def Endpoint.unread (endpoint : Endpoint) : List Queued :=
  endpoint.mailbox.filterMap CallerCommand.queued?

/-! ## What a moment does -/

namespace Endpoint
variable (endpoint : Endpoint)

theorem reject_aside (command : CallerCommand) : ∀ effect ∈ reject command, effect.IsAside := by
  intro effect member
  cases command with
  | submit ticket request =>
      cases List.mem_singleton.1 member
      trivial
  | count caller =>
      cases List.mem_singleton.1 member
      trivial
  | connect | listen listener | close => cases member

theorem rejected_aside (mailbox : List CallerCommand) :
    ∀ effect ∈ mailbox.flatMap reject, effect.IsAside := by
  intro effect member
  obtain ⟨command, _, rejected⟩ := List.mem_flatMap.1 member
  exact reject_aside command effect rejected

theorem post_of_running (command : CallerCommand)
    (running : endpoint.connection.stopped = false) :
    endpoint.post command = ({ endpoint with mailbox := endpoint.mailbox ++ [command] }, []) := by
  simp [post, isRunning, running]

theorem post_of_stopped (command : CallerCommand) (stopped : endpoint.connection.stopped = true) :
    endpoint.post command = (endpoint, reject command) := by
  simp [post, isRunning, stopped]

theorem tell_eq (around : Surroundings) (event : ConnectionEvent) :
    endpoint.tell around event =
      if (endpoint.connection.step around event).1.stopped then
        (⟨(endpoint.connection.step around event).1, []⟩,
          (endpoint.connection.step around event).2 ++ endpoint.mailbox.flatMap reject)
      else
        (⟨(endpoint.connection.step around event).1, endpoint.mailbox⟩,
          (endpoint.connection.step around event).2) := by
  cases stopped : (endpoint.connection.step around event).1.stopped <;>
    simp [tell, settleStopped, isRunning, stopped]

theorem post_aside (command : CallerCommand) :
    (endpoint.post command).1.connection = endpoint.connection ∧
      ∀ effect ∈ (endpoint.post command).2, effect.IsAside := by
  cases stopped : endpoint.connection.stopped with
  | false =>
      rw [post_of_running _ _ stopped]
      exact ⟨rfl, by simp⟩
  | true =>
      rw [post_of_stopped _ _ stopped]
      exact ⟨rfl, reject_aside command⟩

theorem onConnected_cases (label : String) (once immediately : Bool) :
    ∃ told, endpoint.onConnected label once immediately = ((endpoint, []), told) ∨
      endpoint.onConnected label once immediately =
        (endpoint.post (.listen ⟨label, once⟩), told) := by
  simp only [onConnected]
  split
  · split
    · exact ⟨_, Or.inl rfl⟩
    · exact ⟨_, Or.inr rfl⟩
  · exact ⟨_, Or.inr rfl⟩

theorem tell_aside (around : Surroundings) (event : ConnectionEvent) :
    ∃ aside : Trace, (∀ effect ∈ aside, effect.IsAside) ∧
      (endpoint.tell around event).1.connection = (endpoint.connection.step around event).1 ∧
      (endpoint.tell around event).2 = (endpoint.connection.step around event).2 ++ aside := by
  rw [tell_eq]
  split
  · exact ⟨endpoint.mailbox.flatMap reject, rejected_aside endpoint.mailbox, rfl, rfl⟩
  · exact ⟨[], by simp, rfl, (List.append_nil _).symm⟩

end Endpoint

namespace History

section Deeds
variable (history : History) (moment : Moment)

theorem deeds_of_none (untold : moment.happening.event? history.endpoint = none) :
    (history.extend moment).connection = history.connection ∧
      ∀ effect ∈ history.deeds moment, effect.IsAside := by
  obtain ⟨around, happening⟩ := moment
  have posted := history.endpoint.post_aside
  cases happening with
  | send request => exact posted (.submit history.requests.length request)
  | connect => exact posted .connect
  | listen label once immediately =>
      obtain ⟨same, outside⟩ := posted (.listen ⟨label, once⟩)
      obtain ⟨told, unregistered | registered⟩ :=
        history.endpoint.onConnected_cases label once immediately
      · have notified := Trace.aside_notifications told
        simpa [extend, deeds, Happening.act, unregistered] using notified
      · simp only [connection, extend, deeds, Happening.act, registered]
        refine ⟨same, fun effect member => ?_⟩
        exact (List.mem_append.1 member).elim (Trace.aside_notifications told effect)
          (outside effect)
  | count caller => exact posted (.count caller)
  | close => exact posted .close
  | take =>
      have nothing : history.endpoint.mailbox = [] := by simpa [Happening.event?] using untold
      simp [connection, extend, deeds, Happening.act, Endpoint.takeCommand, nothing]
  | meet occurrence => cases untold

theorem deeds_of_some {event : ConnectionEvent}
    (told : moment.happening.event? history.endpoint = some event) :
    (history.extend moment).connection = (history.connection.step moment.around event).1 ∧
      ∃ aside : Trace, (∀ effect ∈ aside, effect.IsAside) ∧
        history.deeds moment = (history.connection.step moment.around event).2 ++ aside := by
  obtain ⟨around, happening⟩ := moment
  cases happening with
  | send | connect | listen | count | close => cases told
  | take =>
      cases waiting : history.endpoint.mailbox with
      | nil => simp [Happening.event?, waiting] at told
      | cons command rest =>
          obtain rfl : command.event = event := by simpa [Happening.event?, waiting] using told
          obtain ⟨aside, plain, stepped, done⟩ :=
            Endpoint.tell_aside ⟨history.connection, rest⟩ around command.event
          simp only [connection, extend, deeds, Happening.act, Endpoint.takeCommand, waiting]
          exact ⟨stepped, aside, plain, done⟩
  | meet occurrence =>
      cases told
      obtain ⟨aside, plain, stepped, done⟩ := history.endpoint.tell_aside around occurrence.event
      exact ⟨stepped, aside, plain, done⟩

theorem extend_cases :
    ∃ aside : Trace, (∀ effect ∈ aside, effect.IsAside) ∧
      (((history.extend moment).connection = history.connection ∧
        (history.extend moment).trace = history.trace ++ aside) ∨
      ∃ event,
        (history.extend moment).connection = (history.connection.step moment.around event).1 ∧
        (history.extend moment).trace =
          history.trace ++ ((history.connection.step moment.around event).2 ++ aside)) := by
  cases told : moment.happening.event? history.endpoint with
  | none =>
      obtain ⟨same, plain⟩ := history.deeds_of_none moment told
      exact ⟨history.deeds moment, plain, Or.inl ⟨same, trace_deeds ..⟩⟩
  | some event =>
      obtain ⟨stepped, aside, plain, done⟩ := history.deeds_of_some moment told
      exact ⟨aside, plain, Or.inr ⟨event, stepped, by rw [trace_deeds, done]⟩⟩

end Deeds

end History

end BookmarkHub
