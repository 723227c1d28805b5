import BookmarkHub.Wire.Frame
import BookmarkHub.Wire.Tab

/-!
# Commands to a surface

What the hub tells a surface, and the frames that carry it.
-/

set_option autoImplicit false

namespace BookmarkHub

inductive HubCommand where
  | focus
  | close
  | setTab (tab : Tab)
  | answer (id : UInt64) (status : UInt16) (body : Json)
  deriving Inhabited

namespace HubCommand

def toWire : HubCommand → Json
  | .focus => .record [("cmd", .text "focus"), ("type", .text "cmd")]
  | .close => .record [("cmd", .text "close"), ("type", .text "cmd")]
  | .setTab tab =>
      .record [("cmd", .text "setCurTab"), ("curTab", tab.toJson), ("type", .text "cmd")]
  | .answer id status body =>
      .record [("body", body), ("cmd", .text "rpcResp"), ("id", .ofWord id),
        ("status", .ofNat status.toNat), ("type", .text "cmd")]

structure Draft where
  tab : Option Tab := none
  id : Option UInt64 := none
  status : Option UInt16 := none
  body : Option Json := none

def tabShape : Json.Shape Draft where
  title := "a map"
  fields := [
    Json.field "curTab" Tab.read Draft.tab (fun draft tab => { draft with tab })]

def answerShape : Json.Shape Draft where
  title := "a map"
  fields := [
    Json.field "id" Json.readWord64 Draft.id (fun draft id => { draft with id }),
    Json.field "status" Json.readWord16 Draft.status
      (fun draft status => { draft with status }),
    Json.field "body" Json.readJson Draft.body (fun draft body => { draft with body })]

def readTab : Json.Reader HubCommand := fun origin document => do
  let draft ← tabShape.read {} origin document
  let tab ← Json.require "curTab" draft.tab
  return .setTab tab

def readAnswer : Json.Reader HubCommand := fun origin document => do
  let draft ← answerShape.read {} origin document
  let id ← Json.require "id" draft.id
  let status ← Json.require "status" draft.status
  let body ← Json.require "body" draft.body
  return .answer id status body

def known : List (String × Json.Reader HubCommand) :=
  [("focus", fun _ _ => .ok .focus), ("close", fun _ _ => .ok .close),
    ("setCurTab", readTab), ("rpcResp", readAnswer)]

def ofWire (frame : Json) : Except FrameError HubCommand := Frame.read known frame

end HubCommand

end BookmarkHub
