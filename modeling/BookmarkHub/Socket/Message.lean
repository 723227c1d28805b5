import BookmarkHub.Connection.State

/-!
# Socket messages

What arrives on a socket, and the texts among it that a connection is given:
the texts before the first close, error or end, in their order.
-/

set_option autoImplicit false

namespace BookmarkHub

/-- A raw message carries nothing.  A farewell has a code and a reason if the peer gives them. -/
inductive SocketMessage where
  | text (text : String)
  | binary (bytes : List UInt8)
  | ping (bytes : List UInt8)
  | pong (bytes : List UInt8)
  | raw
  | close (farewell : Option (UInt16 × String))
  deriving DecidableEq, Repr, Inhabited

inductive SocketEvent where
  | text (text : String)
  | binary (bytes : List UInt8)
  | ping (bytes : List UInt8)
  | pong (bytes : List UInt8)
  | close (code : UInt16) (reason : String)
  | failed (message : String)
  deriving DecidableEq, Repr, Inhabited

/-- What a connection reads: a text, the end as `none`, or why there is neither. -/
abbrev Reading := Option (Except Failure String)

/-- What a connection is told when it has read.  An error ends its socket too. -/
def ConnectionEvent.ofReading : Reading → ConnectionEvent
  | some (.ok text) => .frame text
  | some (.error _) => .ended
  | none => .ended

/-- What is left to arrive on a socket; an error ends it. -/
abbrev SocketStream := List (Except String SocketMessage)

namespace SocketStream

def next? : SocketStream → Option (SocketEvent × SocketStream)
  | [] => none
  | .error message :: rest => some (.failed ("WebSocket read error: " ++ message), rest)
  | .ok (.text text) :: rest => some (.text text, rest)
  | .ok (.binary bytes) :: rest => some (.binary bytes, rest)
  | .ok (.ping bytes) :: rest => some (.ping bytes, rest)
  | .ok (.pong bytes) :: rest => some (.pong bytes, rest)
  | .ok (.close farewell) :: rest =>
      let (code, reason) := farewell.getD (1005, "")
      some (.close code reason, rest)
  | .ok .raw :: rest => next? rest

theorem length_of_next? {messages rest : SocketStream} {event : SocketEvent}
    (found : next? messages = some (event, rest)) : rest.length < messages.length := by
  fun_induction next? messages <;> simp_all
  omega

/-- What a connection is given when it asks for a text, and what is left to arrive. -/
def nextText (messages : SocketStream) : Reading × SocketStream :=
  match _ : next? messages with
  | none => (none, [])
  | some (.text text, rest) => (some (.ok text), rest)
  | some (.failed message, rest) => (some (.error (.transport message)), rest)
  | some (.close _ _, rest) => (none, rest)
  | some (_, rest) => nextText rest
termination_by messages.length
decreasing_by exact length_of_next? (by assumption)

end SocketStream

end BookmarkHub
