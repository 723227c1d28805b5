import BookmarkHub.Hub.Bridge
import BookmarkHub.Proofs.Table
import BookmarkHub.Wire.SurfaceCommand

/-!
# A bridge between its callers and the hub

Callers ask a bridge through any number of handles, the hub posts what it likes,
and either side may go away at any time.  In between the bridge takes the oldest
request or hears the oldest command of the hub, in any order.  A line keeps what
was asked, what the bridge has taken and heard, and everything that it did.
-/

set_option autoImplicit false

namespace BookmarkHub

abbrev BridgeResult := Except HubError Response

/-- The response that a command of the hub is to the call with a number. -/
def HubCommand.responseTo? (number : Nat) : HubCommand → Option Response
  | .answer id status body => if id.toNat = number then some { id, status, body } else none
  | _ => none

theorem HubCommand.number_of_responseTo? {command : HubCommand} {number : Nat}
    {response : Response} (responds : command.responseTo? number = some response) :
    response.id.toNat = number := by
  cases command with
  | answer id status body =>
      rw [responseTo?] at responds
      split at responds
      · rename_i same
        rw [← Option.some.inj responds]
        exact same
      · cases responds
  | _ => cases responds

def BridgeRequest.call? : BridgeRequest → Option ((String × List Json) × BridgeTicket)
  | .call ticket func args => some ((func, args), ticket)
  | .count _ => none

@[simp] theorem BridgeRequest.call?_call (ticket : BridgeTicket) (func : String)
    (args : List Json) : (call ticket func args).call? = some ((func, args), ticket) := rfl

@[simp] theorem BridgeRequest.call?_count (caller : BridgeTicket) : (count caller).call? = none :=
  rfl

namespace BridgeEffect

def resultFor? (ticket : BridgeTicket) : BridgeEffect → Option BridgeResult
  | .resolve other result => if other = ticket then some result else none
  | _ => none

def sent? : BridgeEffect → Option SurfaceCommand
  | .relay id func args => some (.relay (UInt64.ofNat id) func args)
  | _ => none

section Seen
variable (ticket other : BridgeTicket) (result : BridgeResult) (id : Nat) (func : String)
  (args : List Json)

@[simp] theorem resultFor?_resolve : (resolve other result).resultFor? ticket =
    if other = ticket then some result else none := rfl

@[simp] theorem resultFor?_relay : (relay id func args).resultFor? ticket = none := rfl

@[simp] theorem resultFor?_tellCount (count : Nat) :
    (tellCount other count).resultFor? ticket = none := rfl

@[simp] theorem resultFor?_disconnect : disconnect.resultFor? ticket = none := rfl

@[simp] theorem sent?_resolve : (resolve other result).sent? = none := rfl

@[simp] theorem sent?_relay :
    (relay id func args).sent? = some (.relay (UInt64.ofNat id) func args) := rfl

@[simp] theorem sent?_tellCount (count : Nat) : (tellCount other count).sent? = none := rfl

@[simp] theorem sent?_disconnect : disconnect.sent? = none := rfl

end Seen

end BridgeEffect

/-! ## What a bridge does -/

namespace Bridge
variable {bridge : Bridge} (running : bridge.isRunning = true) (hubHears : Bool)

theorem ask_stopped (stopped : bridge.isRunning = false) (request : BridgeRequest) :
    bridge.ask request = (bridge, [reject request]) := by
  simp [ask, stopped]

section Take
include running

theorem ask_running (request : BridgeRequest) :
    bridge.ask request =
      ({ bridge with mailbox := bridge.mailbox ++ [request] }, []) := by
  simp [ask, running]

theorem take_call {ticket : BridgeTicket} {func : String} {args : List Json}
    {rest : List BridgeRequest} (oldest : bridge.mailbox = .call ticket func args :: rest) :
    bridge.take hubHears =
      ({ bridge with
          mailbox := rest
          lastId := bridge.lastId + 1
          pending :=
            if hubHears then bridge.pending.insert (bridge.lastId + 1) ticket
            else bridge.pending },
        [if hubHears then .relay (bridge.lastId + 1) func args
          else .resolve ticket (.error .shutdown)]) := by
  cases hubHears <;> simp [take, handle, oldest, running]

theorem take_count {caller : BridgeTicket} {rest : List BridgeRequest}
    (oldest : bridge.mailbox = .count caller :: rest) :
    bridge.take hubHears =
      ({ bridge with mailbox := rest }, [.tellCount caller bridge.pending.size]) := by
  simp [take, handle, oldest, running]

end Take

theorem take_nothing (empty : bridge.mailbox = []) : bridge.take hubHears = (bridge, []) := by
  simp [take, empty]

variable (bridge) in
theorem hear_cases (command : HubCommand) :
    (∃ ticket response, bridge.pending.find? response.id.toNat = some ticket ∧
      (∀ number, command.responseTo? number =
        if response.id.toNat = number then some response else none) ∧
      bridge.hear command =
        ({ bridge with pending := bridge.pending.erase response.id.toNat },
          [.resolve ticket (.ok response)])) ∨
    ((∀ number response, command.responseTo? number = some response →
        bridge.pending.find? number = none) ∧
      bridge.hear command = (bridge, [])) := by
  cases command with
  | answer id status body =>
      cases found : bridge.pending.find? id.toNat with
      | some ticket =>
          left
          exact ⟨ticket, ⟨id, status, body⟩, found, fun number => rfl, by simp [hear, found]⟩
      | none =>
          right
          refine ⟨fun number response answers => ?_, by simp [hear, found]⟩
          simp only [HubCommand.responseTo?] at answers
          split at answers
          · rename_i same
            rw [← same, found]
          · cases answers
  | focus | close | setTab =>
      refine Or.inr ⟨fun number response responds => ?_, rfl⟩
      cases responds

section Handled
variable (bridge : Bridge)

theorem take_cases : bridge.take hubHears = (bridge, []) ∨
    bridge.isRunning = true ∧ ∃ request rest, bridge.mailbox = request :: rest := by
  cases waiting : bridge.mailbox with
  | nil => exact .inl (take_nothing hubHears waiting)
  | cons request rest =>
      cases running : bridge.isRunning with
      | false => exact .inl (by simp [take, waiting, running])
      | true => exact .inr ⟨rfl, request, rest, rfl⟩

@[simp] theorem ask_isRunning (request : BridgeRequest) :
    (bridge.ask request).1.isRunning = bridge.isRunning := by
  rw [ask]
  split <;> rfl

@[simp] theorem take_isRunning : (bridge.take hubHears).1.isRunning = bridge.isRunning := by
  rcases bridge.take_cases hubHears with idle | ⟨running, request, rest, waiting⟩
  · rw [idle]
  · cases request with
    | call ticket func args => rw [take_call running hubHears waiting]
    | count caller => rw [take_count running hubHears waiting]

@[simp] theorem hear_isRunning (command : HubCommand) :
    (bridge.hear command).1.isRunning = bridge.isRunning := by
  rcases bridge.hear_cases command with ⟨ticket, response, _, _, answered⟩ | ⟨_, ignored⟩
  · rw [answered]
  · rw [ignored]

@[simp] theorem stop_isRunning : bridge.stop.1.isRunning = false := by
  rw [stop]
  split
  · rfl
  · rename_i stopped
    exact eq_false_of_ne_true stopped

def Counts (handled : Handled) : Prop :=
  ∀ caller count, .tellCount caller count ∈ handled.2 → count = handled.1.pending.size

variable {bridge} in
theorem ask_counts (idle : bridge.isRunning = false → bridge.pending.size = 0)
    (request : BridgeRequest) : Counts (bridge.ask request) := by
  intro caller count told
  cases running : bridge.isRunning with
  | true =>
      rw [ask_running running] at told
      cases told
  | false =>
      rw [ask_stopped running] at told ⊢
      rw [idle running]
      cases request with
      | call ticket func args => cases List.mem_singleton.1 told
      | count other => exact (BridgeEffect.tellCount.inj (List.mem_singleton.1 told)).2

theorem take_counts : Counts (bridge.take hubHears) := by
  intro caller count told
  rcases bridge.take_cases hubHears with idle | ⟨running, request, rest, waiting⟩
  · rw [idle] at told
    cases told
  · cases request with
    | call ticket func args =>
        rw [take_call running hubHears waiting] at told
        cases hubHears <;> simp at told
    | count other =>
        rw [take_count running hubHears waiting] at told ⊢
        exact (BridgeEffect.tellCount.inj (List.mem_singleton.1 told)).2

theorem stop_counts : Counts bridge.stop := by
  intro caller count told
  rw [stop] at told ⊢
  split at told
  · rename_i running
    rw [if_pos running]
    rcases List.mem_append.1 told with early | last
    · rcases List.mem_append.1 early with waits | asked
      · obtain ⟨ticket, _, same⟩ := List.mem_map.1 waits
        cases same
      · obtain ⟨request, _, same⟩ := List.mem_map.1 asked
        cases request with
        | call ticket func args => cases same
        | count other => exact (BridgeEffect.tellCount.inj same).2.symm
    · cases List.mem_singleton.1 last
  · cases told

theorem hear_counts (command : HubCommand) : Counts (bridge.hear command) := by
  intro caller count told
  rcases bridge.hear_cases command with ⟨ticket, response, _, _, answered⟩ | ⟨_, ignored⟩
  · rw [answered] at told
    cases List.mem_singleton.1 told
  · rw [ignored] at told
    cases told

end Handled

end Bridge

/-- A call that a bridge took, how many commands of the hub it had heard before, and whether the
hub was there to hear of it. -/
structure TakenCall where
  func : String
  args : List Json
  since : Nat
  posted : Bool

namespace TakenCall

def call (taken : TakenCall) : String × List Json := (taken.func, taken.args)

def sent? (number : Nat) (taken : TakenCall) : Option SurfaceCommand :=
  if taken.posted then some (.relay (UInt64.ofNat number) taken.func taken.args) else none

/-- What a call has led to: the first response to its number that was heard since.  A call
that could not be posted has failed. -/
def result? (heard : List HubCommand) (number : Nat) (taken : TakenCall) : Option BridgeResult :=
  if taken.posted then ((heard.drop taken.since).findSome? (·.responseTo? number)).map .ok
  else some (.error .shutdown)

theorem result?_append {heard : List HubCommand} {number : Nat} {taken : TakenCall}
    {result : BridgeResult} (led : taken.result? heard number = some result)
    (more : List HubCommand) : taken.result? (heard ++ more) number = some result := by
  rw [result?] at led ⊢
  split at led
  · rename_i posted
    obtain ⟨response, found, same⟩ := Option.map_eq_some_iff.1 led
    rw [if_pos posted, List.drop_append, List.findSome?_append, found]
    exact congrArg some same
  · rename_i unposted
    rw [if_neg unposted]
    exact led

end TakenCall

/-- What can happen to a bridge, to its callers and to the hub.  A release drops the last handle,
and whoever waits for a call holds one.  Once the hub lets go, nobody is left who could post more.
-/
inductive BridgeMove where
  | call (func : String) (args : List Json)
  | count (caller : BridgeTicket)
  | abandon (ticket : BridgeTicket)
  | release
  | post (command : HubCommand)
  | letGo
  | take (hubHears : Bool)
  | hear
  | leave

namespace BridgeMove

def posted? : BridgeMove → Option HubCommand
  | .post command => some command
  | _ => none

def isHear : BridgeMove → Bool
  | .hear => true
  | _ => false

end BridgeMove

/-- A bridge between its callers and the hub.  In the inbox is what the hub has posted and the
bridge has not heard; the ticket of a call is its position. -/
structure BridgeLine where
  bridge : Bridge := {}
  inbox : List HubCommand := []
  isHeld : Bool := true
  isKept : Bool := true
  calls : List (String × List Json) := []
  abandoned : List BridgeTicket := []
  taken : List TakenCall := []
  heard : List HubCommand := []
  trace : List BridgeEffect := []

namespace BridgeLine

def results (ticket : BridgeTicket) (line : BridgeLine) : List BridgeResult :=
  line.trace.filterMap (·.resultFor? ticket)

def sent (line : BridgeLine) : List SurfaceCommand := line.trace.filterMap BridgeEffect.sent?

def isAwaited (line : BridgeLine) : Bool :=
  (List.range line.calls.length).any fun ticket =>
    !line.abandoned.contains ticket && (line.results ticket).isEmpty

def perform (handled : Bridge.Handled) (line : BridgeLine) : BridgeLine :=
  { line with bridge := handled.1, trace := line.trace ++ handled.2 }

def next? (hubHears : Bool) (line : BridgeLine) : Option TakenCall :=
  match line.bridge.isRunning, line.bridge.mailbox with
  | true, .call _ func args :: _ => some ⟨func, args, line.heard.length, hubHears⟩
  | _, _ => none

def step (line : BridgeLine) : BridgeMove → BridgeLine
  | .call func args =>
      if line.isKept then
        { line with calls := line.calls ++ [(func, args)] }.perform
          (line.bridge.ask (.call line.calls.length func args))
      else line
  | .count caller => if line.isKept then line.perform (line.bridge.ask (.count caller)) else line
  | .abandon ticket =>
      if ticket < line.calls.length then { line with abandoned := line.abandoned ++ [ticket] }
      else line
  | .release => if line.isAwaited then line else { line with isKept := false }
  | .post command =>
      if line.isHeld then { line with inbox := line.inbox ++ [command] } else line
  | .letGo => { line with isHeld := false }
  | .take hubHears =>
      { line with taken := line.taken ++ (line.next? hubHears).toList }.perform
        (line.bridge.take hubHears)
  | .hear =>
      match line.bridge.isRunning, line.inbox with
      | false, _ => line
      | true, command :: rest =>
          { line with inbox := rest, heard := line.heard ++ [command] }.perform
            (line.bridge.hear command)
      | true, [] => if line.isHeld then line else line.perform line.bridge.stop
  | .leave =>
      if line.isKept || !line.bridge.mailbox.isEmpty then line
      else line.perform line.bridge.stop

def run (moves : List BridgeMove) : BridgeLine := moves.foldl step {}

theorem run_snoc (moves : List BridgeMove) (move : BridgeMove) :
    run (moves ++ [move]) = (run moves).step move := by
  rw [run, List.foldl_append]
  rfl

/-! ## What becomes of a call -/

def settled? (ticket : BridgeTicket) (line : BridgeLine) : Option BridgeResult :=
  line.taken[ticket]?.bind (·.result? line.heard (ticket + 1))

/-- What the caller with a ticket is told.  Calls without a response fail when the bridge
stops. -/
def fate? (ticket : BridgeTicket) (line : BridgeLine) : Option BridgeResult :=
  (line.settled? ticket).or
    (if line.bridge.isRunning = false ∧ ticket < line.calls.length then some (.error .shutdown)
      else none)

def unresolved (line : BridgeLine) : List BridgeTicket :=
  (List.range line.taken.length).filter fun ticket => (line.fate? ticket).isNone

section Perform
variable (line : BridgeLine) (handled : Bridge.Handled)

@[simp] theorem perform_bridge : (line.perform handled).bridge = handled.1 := rfl

@[simp] theorem results_perform (ticket : BridgeTicket) : (line.perform handled).results ticket =
    line.results ticket ++ handled.2.filterMap (·.resultFor? ticket) :=
  List.filterMap_append

@[simp] theorem sent_perform :
    (line.perform handled).sent = line.sent ++ handled.2.filterMap BridgeEffect.sent? :=
  List.filterMap_append

end Perform

section Settled
variable {line : BridgeLine} {ticket : BridgeTicket}

theorem fate?_of_running (running : line.bridge.isRunning = true) :
    line.fate? ticket = line.settled? ticket := by
  simp [fate?, running]

theorem fate?_of_stopped (stopped : line.bridge.isRunning = false) :
    line.fate? ticket = (line.settled? ticket).or
      (if ticket < line.calls.length then some (.error .shutdown) else none) := by
  simp [fate?, stopped]

theorem settled?_of_untaken (untaken : line.taken.length ≤ ticket) :
    line.settled? ticket = none := by
  rw [settled?, List.getElem?_eq_none untaken]
  rfl

variable {after : BridgeLine}

theorem settled?_congr (taken : after.taken = line.taken) (heard : after.heard = line.heard) :
    after.settled? ticket = line.settled? ticket := by
  rw [settled?, taken, heard]
  rfl

theorem settled?_of_taken {func : String} {args : List Json} {posted : Bool}
    (taken : after.taken = line.taken ++ [⟨func, args, line.heard.length, posted⟩])
    (heard : after.heard = line.heard) :
    after.settled? ticket =
      if ticket = line.taken.length ∧ posted = false then some (.error .shutdown)
      else line.settled? ticket := by
  rw [settled?, taken, heard]
  rcases Nat.lt_trichotomy ticket line.taken.length with earlier | rfl | later
  · have apart : ticket ≠ line.taken.length := Nat.ne_of_lt earlier
    rw [if_neg (fun both => apart both.1), List.getElem?_append_left earlier]
    rfl
  · rw [settled?_of_untaken (Nat.le_refl _), List.getElem?_concat_length]
    cases posted <;> simp [TakenCall.result?]
  · have apart : ticket ≠ line.taken.length := Nat.ne_of_gt later
    rw [if_neg (fun both => apart both.1), settled?_of_untaken (Nat.le_of_lt later),
      List.getElem?_eq_none]
    · rfl
    · rw [List.length_append, List.length_singleton]
      exact later

/-- A command that is heard leads to something for the call whose number it answers, if
nothing has become of that yet. -/
theorem settled?_of_heard {command : HubCommand}
    (since : ∀ taken ∈ line.taken, taken.since ≤ line.heard.length)
    (taken : after.taken = line.taken) (heard : after.heard = line.heard ++ [command]) :
    after.settled? ticket = (line.settled? ticket).or
      (if ticket < line.taken.length then (command.responseTo? (ticket + 1)).map .ok
        else none) := by
  rw [settled?, taken, heard]
  by_cases there : ticket < line.taken.length
  · have found := List.getElem?_eq_getElem there
    have before := since _ (List.getElem_mem there)
    rw [if_pos there, settled?, found, Option.bind_some, Option.bind_some]
    simp only [TakenCall.result?]
    split
    · rw [List.drop_append_of_le_length before, List.findSome?_append]
      cases (line.heard.drop line.taken[ticket].since).findSome? (·.responseTo? (ticket + 1)) <;>
        simp
    · rfl
  · have untaken := Nat.le_of_not_lt there
    rw [if_neg there, settled?_of_untaken untaken, List.getElem?_eq_none untaken]
    rfl

end Settled

end BridgeLine

end BookmarkHub
