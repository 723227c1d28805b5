/-!
# Socket addresses

An address of a socket has a token in it, so that it is shown without the token.
A socket is opened in two steps, each of which may fail: the address is read,
and what it names is reached.  How addresses are read and servers are reached is
given from outside.
-/

set_option autoImplicit false

namespace BookmarkHub.SocketAddress

/-! ## Showing an address -/

/-- Replaces what follows the first `token=` up to the next `&` by stars. -/
def redactMarks : List Char → List Char
  | [] => []
  | mark :: rest =>
      if "token=".toList.isPrefixOf (mark :: rest) then
        "token=***".toList ++ ((mark :: rest).drop 6).dropWhile (· != '&')
      else mark :: redactMarks rest

def redacted (address : String) : String := String.ofList (redactMarks address.toList)

/-! ## Opening a socket -/

/-- Opens the socket at an address.  A failure has its causes behind it. -/
def connect {Target Socket : Type} (read : String → Except (List String) Target)
    (reach : Target → Except (List String) Socket) (address : String) :
    Except (List String) Socket :=
  match read address with
  | .error causes => .error (("invalid WebSocket URL: " ++ redacted address) :: causes)
  | .ok target => (reach target).mapError ("WebSocket connect failed" :: ·)

end BookmarkHub.SocketAddress
