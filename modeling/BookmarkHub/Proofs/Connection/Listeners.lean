import BookmarkHub.Proofs.Connection.Deeds
import BookmarkHub.Proofs.Connection.Orderly

/-!
# Who is told of a socket

Whoever waits for sockets is told when one was taken and the queue has gone out
over it, and at no other time.  A socket that is lost over the queue is told to
nobody.  What is still in the mailbox is not registered yet, but is not lost:
the listeners and the mailbox together are the audience of a connection.
-/

set_option autoImplicit false

namespace BookmarkHub

@[simp] def ConnectionEffect.notice? : ConnectionEffect → Option String
  | .notify label => some label
  | _ => none

def Trace.notices (trace : Trace) : List String := trace.filterMap ConnectionEffect.notice?

def ConnectionEvent.listener? : ConnectionEvent → Option Listener
  | .listen listener => some listener
  | _ => none

namespace Trace

section Notices
variable (first second : Trace)

@[simp] theorem notices_nil : notices [] = [] := rfl

@[simp] theorem notices_append : notices (first ++ second) = notices first ++ notices second :=
  List.filterMap_append

@[simp] theorem notices_cons (effect : ConnectionEffect) :
    notices (effect :: first) = effect.notice?.toList ++ notices first :=
  filterMap_cons_toList ..

@[simp] theorem notices_hangUps (sockets : List Nat) : notices (sockets.map .hangUp) = [] := by
  simp [notices, List.filterMap_map, Function.comp_def]

@[simp] theorem notices_notifications (labels : List String) :
    notices (labels.map .notify) = labels := by
  simp [notices, List.filterMap_map, Function.comp_def]

@[simp] theorem notices_rejections (failure : Failure) (tickets : List Ticket) :
    notices (rejections failure tickets) = [] :=
  filterMap_rejections _ _ _ fun _ => rfl

end Notices

end Trace

namespace Connection

/-! ## What a step does about the listeners -/

/-- No socket is taken, and nobody is told anything. -/
structure Mute (before : Connection) (handled : Handled) : Prop where
  listeners : handled.1.listeners = before.listeners
  unopened : .connected ∉ Trace.entered handled.2
  silent : Trace.notices handled.2 = []

/-- What a step does about the listeners. -/
inductive Heeds (before : Connection) (event : ConnectionEvent) (handled : Handled) : Prop where
  | tells (connecting : before.phase = .connecting) (opening : event = .opened)
      (opened : .connected ∈ Trace.entered handled.2) (isOpen : handled.1.phase = .connected)
      (told : Trace.notices handled.2 = before.listeners.map Listener.label)
      (left : handled.1.listeners = before.listeners.filter (!·.once))
  | quiet (unkept : .connected ∈ Trace.entered handled.2 → handled.1.phase ≠ .connected)
      (silent : Trace.notices handled.2 = [])
      (same : handled.1.listeners = before.listeners ++ event.listener?.toList)

section Heeds
variable (around : Surroundings) {connection : Connection}

theorem Mute.quiet {event : ConnectionEvent} {handled : Handled} (mute : Mute connection handled)
    (unasked : event.listener? = none) : Heeds connection event handled := by
  refine .quiet (fun opened => absurd opened mute.unopened) mute.silent ?_
  rw [unasked, mute.listeners]
  exact (List.append_nil _).symm

variable (connection) in
theorem loseSocket_mute : Mute connection (loseSocket around connection) := by
  obtain ⟨timer, backoff, lost⟩ := loseSocket_eq around connection
  rw [lost]
  exact ⟨rfl, by simp, by simp⟩

variable (connection) in
theorem shutDown_mute : Mute connection (shutDown connection) := by
  rw [shutDown_eq]
  exact ⟨rfl, by simp, by simp⟩

theorem transmit_mute (queued : Queued) {socket : Nat} (held : connection.writer = some socket) :
    Mute connection (transmit around queued connection) := by
  rcases transmit_cases around connection queued held with
    ⟨delay, _, waits⟩ | ⟨_, written⟩ | ⟨_, lost⟩
  · rw [waits]
    exact ⟨rfl, by simp, rfl⟩
  · rw [written]
    exact ⟨rfl, by simp, rfl⟩
  · have mute := loseSocket_mute around (numbered queued connection)
    rw [lost]
    exact ⟨mute.listeners, by simpa using mute.unopened, by simpa using mute.silent⟩

theorem flush_heeds (queue : List Queued) (standing : Standing connection)
    (isOpen : connection.phase = .connected) :
    ((flush around queue connection).1.phase = .connected ∧
      Trace.notices (flush around queue connection).2 = connection.listeners.map Listener.label ∧
      (flush around queue connection).1.listeners = connection.listeners.filter (!·.once)) ∨
    ((flush around queue connection).1.phase ≠ .connected ∧
      Trace.notices (flush around queue connection).2 = [] ∧
      (flush around queue connection).1.listeners = connection.listeners) := by
  induction queue generalizing connection with
  | nil =>
      left
      refine ⟨isOpen, ?_, rfl⟩
      have labels := Trace.notices_notifications (connection.listeners.map Listener.label)
      rwa [List.map_map] at labels
  | cons first rest ih =>
      have stands := standing.withQueue rest
      obtain ⟨socket, held, _⟩ := stands.socket isOpen
      have mute := transmit_mute around first held
      simp only [flush, andThen]
      rcases transmit_standing around stands first isOpen with
        ⟨stillStands, stillOpen, _⟩ | ⟨_, lost⟩
      · have told := ih stillStands stillOpen
        simp only [mute.listeners] at told
        simpa only [stillOpen, Trace.notices_append, mute.silent, List.nil_append] using told
      · right
        simp only [lost]
        exact ⟨by simp, by simpa using mute.silent, mute.listeners⟩

theorem takeSocket_heeds (coherent : Coherent connection)
    (connecting : connection.phase = .connecting) :
    Heeds connection .opened
      (andThen (adopted connection, [.enter .connected]) (flush around connection.queue)) := by
  rcases flush_heeds around connection.queue (adopted_standing coherent connecting) rfl with
    ⟨isOpen, told, left⟩ | ⟨lost, silent, same⟩
  · exact .tells connecting rfl (by simp [andThen]) isOpen told left
  · exact .quiet (fun _ => lost) silent (same.trans (List.append_nil _).symm)

theorem Deed.heeds {event : ConnectionEvent} {handled : Handled} (coherent : Coherent connection)
    (deed : Deed around connection event handled) (unasked : event.listener? = none) :
    Heeds connection event handled := by
  cases deed with
  | listen => cases unasked
  | transmit ticket request isOpen =>
      obtain ⟨socket, held, _⟩ := coherent.socket isOpen
      have mute := transmit_mute around ⟨ticket, request⟩ held
      refine Mute.quiet ⟨mute.listeners, ?_, ?_⟩ rfl
      · simpa using mute.unopened
      · simpa using mute.silent
  | takeSocket connecting => exact takeSocket_heeds around coherent connecting
  | fail =>
      obtain ⟨timer, backoff, failed⟩ := failConnect_eq around { connection with dialing := false }
      rw [failed]
      exact Mute.quiet ⟨rfl, by simp, rfl⟩ rfl
  | lose => exact (loseSocket_mute around connection).quiet unasked
  | _ => exact Mute.quiet ⟨rfl, by simp, rfl⟩ unasked

theorem handle_heeds (coherent : Coherent connection) (event : ConnectionEvent) :
    Heeds connection event (handle around event connection) := by
  cases asked : event.listener? with
  | some listener =>
      cases event <;> cases asked
      exact .quiet (by simp [handle]) rfl rfl
  | none =>
      by_cases closes : event = .close
      · subst closes
        exact (shutDown_mute connection).quiet rfl
      · exact (handle_deed around coherent event closes).heeds around coherent asked

end Heeds

end Connection

/-! ## What a moment does about the listeners -/

def CallerCommand.listener? : CallerCommand → Option Listener
  | .listen listener => some listener
  | _ => none

theorem CallerCommand.listener?_event (command : CallerCommand) :
    command.event.listener? = command.listener? := by
  cases command <;> rfl

def Happening.label? : Happening → Option String
  | .listen label _ _ => some label
  | _ => none

namespace Endpoint

def unregistered (endpoint : Endpoint) : List Listener :=
  endpoint.mailbox.filterMap CallerCommand.listener?

/-- The listeners, and after them those that are still to be registered. -/
def audience (endpoint : Endpoint) : List Listener :=
  endpoint.connection.listeners ++ endpoint.unregistered

/-- What the listeners notice when the connection is told something. -/
inductive Notices (before : Endpoint) (event : ConnectionEvent) (handled : Handled) : Prop where
  | tells (connecting : before.connection.phase = .connecting) (opening : event = .opened)
      (opened : .connected ∈ Trace.entered handled.2)
      (isOpen : handled.1.connection.phase = .connected)
      (told : Trace.notices handled.2 = before.connection.listeners.map Listener.label)
      (left : handled.1.audience =
        before.connection.listeners.filter (!·.once) ++ before.unregistered)
  | quiet
      (unkept : .connected ∈ Trace.entered handled.2 → handled.1.connection.phase ≠ .connected)
      (silent : Trace.notices handled.2 = [])
      (same : handled.1.connection.stopped = false → handled.1.audience =
        before.connection.listeners ++ event.listener?.toList ++ before.unregistered)

theorem reject_silent (command : CallerCommand) : Trace.notices (reject command) = [] := by
  cases command <;> rfl

theorem rejected_silent (mailbox : List CallerCommand) :
    Trace.notices (mailbox.flatMap reject) = [] := by
  induction mailbox with
  | nil => rfl
  | cons command rest ih => simp [ih, reject_silent]

theorem tell_silent_of_stopped (around : Surroundings) (endpoint : Endpoint)
    (event : ConnectionEvent) (stopped : endpoint.connection.stopped = true) :
    Trace.notices (endpoint.tell around event).2 = [] := by
  have silent : Trace.notices (endpoint.connection.step around event).2 = [] := by
    simp only [Connection.step, stopped, if_true]
    cases event <;> rfl
  rw [tell_eq]
  split <;> simp [silent, rejected_silent]

section Tell
variable (around : Surroundings) (endpoint : Endpoint) (event : ConnectionEvent)
  (coherent : Connection.Coherent endpoint.connection)
include coherent

theorem tell_notices : Notices endpoint event (endpoint.tell around event) := by
  have heeds := Connection.handle_heeds around coherent event
  have outside := Trace.entered_aside (rejected_aside endpoint.mailbox)
  rw [tell_eq, Connection.step_of_running _ _ _ coherent.running]
  cases heeds with
  | tells connecting opening opened isOpen told left =>
      have goesOn : event ≠ .close := by simp [opening]
      have running := (Connection.handle_coherent around coherent event goesOn).running
      rw [if_neg (by simp [running])]
      refine .tells connecting opening opened isOpen told ?_
      rw [audience, left]
      rfl
  | quiet unkept silent same =>
      split
      · rename_i stopped
        refine .quiet ?_ ?_ ?_
        · simpa [outside] using unkept
        · simp [silent, rejected_silent]
        · intro running
          rw [stopped] at running
          cases running
      · refine .quiet unkept silent fun _ => ?_
        rw [audience, same]
        rfl

end Tell

end Endpoint

namespace History

/-- An attempt succeeds, and the connection takes the socket. -/
def Opens (history : History) (moment : Moment) : Prop :=
  history.connection.phase = .connecting ∧ .connected ∈ (history.deeds moment).entered

def tellsInside (history : History) (immediately : Bool) : Bool :=
  immediately && decide (history.connection.phase = .connected)

/-- What the listeners notice of a moment. -/
inductive Hears (history : History) (moment : Moment) : Prop where
  | asks (label : String) (once immediately : Bool)
      (asked : moment.happening = .listen label once immediately)
      (unopened : .connected ∉ (history.deeds moment).entered)
      (told : (history.deeds moment).notices =
        if history.tellsInside immediately then [label] else [])
      (same : (history.extend moment).endpoint.audience = history.endpoint.audience ++
        if once && history.tellsInside immediately then [] else [⟨label, once⟩])
  | tells (unasked : moment.happening.label? = none) (opens : history.Opens moment)
      (isOpen : (history.extend moment).connection.phase = .connected)
      (told : (history.deeds moment).notices = history.connection.listeners.map Listener.label)
      (left : (history.extend moment).endpoint.audience =
        history.connection.listeners.filter (!·.once) ++ history.endpoint.unregistered)
  | quiet (unasked : moment.happening.label? = none)
      (unkept : history.Opens moment → (history.extend moment).connection.phase ≠ .connected)
      (silent : (history.deeds moment).notices = [])
      (same : (history.extend moment).connection.stopped = false →
        (history.extend moment).endpoint.audience = history.endpoint.audience)

section Hears
variable {history : History}

variable (history) in
theorem onConnected_eq (label : String) (once immediately : Bool) :
    history.endpoint.onConnected label once immediately =
      (if once && history.tellsInside immediately then (history.endpoint, [])
        else history.endpoint.post (.listen ⟨label, once⟩),
        if history.tellsInside immediately then [label] else []) := by
  cases immediately with
  | false => simp [Endpoint.onConnected, tellsInside]
  | true =>
      by_cases isOpen : history.connection.phase = .connected <;> cases once <;>
        simp [Endpoint.onConnected, tellsInside, isOpen]

section Running
variable (coherent : Connection.Coherent history.connection)
include coherent

theorem listen_hears (around : Surroundings) (label : String) (once immediately : Bool) :
    Hears history ⟨around, .listen label once immediately⟩ := by
  have posted := history.endpoint.post_of_running (.listen ⟨label, once⟩) coherent.running
  have called := history.onConnected_eq label once immediately
  rw [posted] at called
  have unopened (labels : List String) :
      .connected ∉ Trace.entered (labels.map .notify) := by
    rw [Trace.entered_aside (Trace.aside_notifications labels)]
    exact nofun
  cases unlistened : once && history.tellsInside immediately <;> rw [unlistened] at called
  · refine .asks label once immediately rfl ?_ ?_ ?_
    · simp [deeds, Happening.act, called, unopened]
    · simp [deeds, Happening.act, called]
    · simp [extend, Happening.act, called, unlistened, Endpoint.audience, Endpoint.unregistered,
        CallerCommand.listener?]
  · refine .asks label once immediately rfl ?_ ?_ ?_
    · simp [deeds, Happening.act, called, unopened]
    · simp [deeds, Happening.act, called]
    · simp [extend, Happening.act, called, unlistened]

theorem post_hears {around : Surroundings} {happening : Happening} (command : CallerCommand)
    (unasked : happening.label? = none) (unlistened : command.listener? = none)
    (posts : happening.act around history.requests.length history.endpoint =
      history.endpoint.post command) : Hears history ⟨around, happening⟩ := by
  rw [Endpoint.post_of_running _ _ coherent.running] at posts
  refine .quiet unasked ?_ ?_ fun _ => ?_
  · rintro ⟨_, opened⟩
    simp [deeds, posts] at opened
  · simp [deeds, posts]
  · simp [extend, posts, Endpoint.audience, Endpoint.unregistered, unlistened]

theorem take_hears (around : Surroundings) : Hears history ⟨around, .take⟩ := by
  cases waiting : history.endpoint.mailbox with
  | nil =>
      have idle : history.endpoint.takeCommand around = (history.endpoint, []) := by
        simp [Endpoint.takeCommand, waiting]
      refine .quiet rfl ?_ ?_ fun _ => ?_
      · rintro ⟨_, opened⟩
        simp [deeds, Happening.act, idle] at opened
      · simp [deeds, Happening.act, idle]
      · simp [extend, Happening.act, idle]
  | cons command rest =>
      have taken : history.endpoint.takeCommand around =
          Endpoint.tell around command.event ⟨history.connection, rest⟩ := by
        simp [Endpoint.takeCommand, waiting]
      have notices := Endpoint.tell_notices around ⟨history.connection, rest⟩ command.event coherent
      rw [← taken] at notices
      cases notices with
      | tells _ opening => cases command <;> cases opening
      | quiet unkept silent same =>
          refine .quiet rfl (fun opens => unkept opens.2) silent fun running => ?_
          refine (same running).trans ?_
          rw [Endpoint.audience, Endpoint.unregistered, Endpoint.unregistered, waiting,
            CallerCommand.listener?_event]
          cases listens : command.listener? <;> simp [listens]

theorem meet_hears (around : Surroundings) (occurrence : Occurrence) :
    Hears history ⟨around, .meet occurrence⟩ := by
  have unlistened : occurrence.event.listener? = none := by cases occurrence <;> rfl
  have notices := history.endpoint.tell_notices around occurrence.event coherent
  cases notices with
  | tells connecting _ opened isOpen told left =>
      exact .tells rfl ⟨connecting, opened⟩ isOpen told left
  | quiet unkept silent same =>
      refine .quiet rfl (fun opens => unkept opens.2) silent fun running => ?_
      have kept := same running
      rwa [unlistened, Option.toList_none, List.append_nil] at kept

/-- Whatever happens to a running connection, its listeners notice it in one of three ways. -/
theorem extend_hears (moment : Moment) : Hears history moment := by
  obtain ⟨around, happening⟩ := moment
  cases happening with
  | send request => exact post_hears coherent (.submit history.requests.length request) rfl rfl rfl
  | connect => exact post_hears coherent .connect rfl rfl rfl
  | count caller => exact post_hears coherent (.count caller) rfl rfl rfl
  | close => exact post_hears coherent .close rfl rfl rfl
  | listen label once immediately => exact listen_hears coherent around label once immediately
  | take => exact take_hears coherent around
  | meet occurrence => exact meet_hears coherent around occurrence

end Running

theorem silent_of_stopped (orderly : Orderly history)
    (stopped : history.connection.stopped = true) (moment : Moment) :
    (history.deeds moment).notices = [] := by
  have shut : history.connection.phase = .disconnected := (orderly.ending stopped).1
  have posted (command : CallerCommand) :
      Trace.notices (history.endpoint.post command).2 = [] := by
    rw [Endpoint.post_of_stopped _ _ stopped]
    exact Endpoint.reject_silent command
  obtain ⟨around, happening⟩ := moment
  cases happening with
  | send request => exact posted _
  | connect => exact posted _
  | count caller => exact posted _
  | close => exact posted _
  | listen label once immediately =>
      have unheard : history.tellsInside immediately = false := by simp [tellsInside, shut]
      have called := history.onConnected_eq label once immediately
      rw [unheard, Bool.and_false] at called
      simpa [deeds, Happening.act, called] using posted _
  | take =>
      simp only [deeds, Happening.act, Endpoint.takeCommand]
      split
      · rfl
      · exact Endpoint.tell_silent_of_stopped around ⟨history.connection, _⟩ _ stopped
  | meet occurrence => exact history.endpoint.tell_silent_of_stopped around _ stopped

end Hears

end History

end BookmarkHub
