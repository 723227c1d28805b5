import BookmarkHub.Connection.Endpoint

/-!
# A query

A query hands one operation in to a connection that was just opened, and waits
for the response until its time is up.  Then it closes the connection, whatever
came of it.  What happens meanwhile, and afterwards, is given.
-/

set_option autoImplicit false

namespace BookmarkHub

/-- Something that happens while a query is on its way. -/
inductive QueryMoment where
  | command (around : Surroundings)
  | event (around : Surroundings) (occurrence : Occurrence)
  | timeUp

structure QueryRun where
  outcome : Outcome
  endpoint : Endpoint
  effects : List ConnectionEffect
  deriving Inhabited

namespace Query

def ticket : Ticket := 0

def outcome? (effects : List ConnectionEffect) : Option Outcome :=
  effects.findSome? fun
    | .resolve caller outcome => if caller = ticket then some outcome else none
    | _ => none

def happen (moment : QueryMoment) (endpoint : Endpoint) : Endpoint.Handled :=
  match moment with
  | .command around => endpoint.takeCommand around
  | .event around occurrence => endpoint.tell around occurrence.event
  | .timeUp => (endpoint, [])

def happenAll : List QueryMoment → Endpoint.Handled → Endpoint.Handled
  | [], handled => handled
  | moment :: rest, (endpoint, effects) =>
      let (endpoint, more) := happen moment endpoint
      happenAll rest (endpoint, effects ++ more)

def finish (outcome : Outcome) (rest : List QueryMoment) (handled : Endpoint.Handled) :
    QueryRun :=
  let (endpoint, effects) := handled
  let (endpoint, more) := endpoint.post .close
  let (endpoint, effects) := happenAll rest (endpoint, effects ++ more)
  { outcome, endpoint, effects }

/-- Waits for the outcome.  When nothing happens any more, time will be up. -/
def wait (limit : Nat) : List QueryMoment → Endpoint.Handled → QueryRun
  | [], handled => finish (.error (.timeout limit)) [] handled
  | .timeUp :: rest, handled => finish (.error (.timeout limit)) rest handled
  | moment :: rest, (endpoint, effects) =>
      let (endpoint, more) := happen moment endpoint
      let handled := (endpoint, effects ++ more)
      match outcome? more with
      | some outcome => finish outcome rest handled
      | none => wait limit rest handled

/-- Hands in an operation and waits for at most so many milliseconds. -/
def ask (operation : Operation) (limit : Nat) (moments : List QueryMoment)
    (endpoint : Endpoint) : QueryRun :=
  wait limit moments (endpoint.send ticket operation.toRequest)

def run (options : ConnectionOptions) (operation : Operation) (limit : Nat)
    (moments : List QueryMoment) : QueryRun :=
  ask operation limit moments (.connecting options)

end Query

end BookmarkHub
