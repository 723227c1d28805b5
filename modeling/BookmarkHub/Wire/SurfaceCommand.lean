import BookmarkHub.Wire.Frame
import BookmarkHub.Wire.Tab

/-!
# Commands from a surface

What a surface asks of the hub, and the frames that carry it.  Where a command
may leave a field out, its frame holds null.
-/

set_option autoImplicit false

namespace BookmarkHub

inductive SurfaceCommand where
  | clearTab
  | openLookup (tab : Option Tab)
  | openTags (tab : Option Tab)
  | openBookmark (id : UInt64) (tab : Option Tab)
  | openTag (id : UInt64) (tab : Option Tab)
  | openLogin (backFunc : Option String) (backArgs : Option Json) (tab : Option Tab)
  | relay (id : UInt64) (func : String) (args : List Json)
  deriving Inhabited

namespace SurfaceCommand

def tabJson (tab : Option Tab) : Json := .ofOption Tab.toJson tab

def toWire : SurfaceCommand → Json
  | .clearTab => .record [("cmd", .text "clearCurTab"), ("type", .text "cmd")]
  | .openLookup tab =>
      .record [("cmd", .text "openPageGetBookmark"), ("curTab", tabJson tab),
        ("type", .text "cmd")]
  | .openTags tab =>
      .record [("cmd", .text "openPageTagsTree"), ("curTab", tabJson tab),
        ("type", .text "cmd")]
  | .openBookmark id tab =>
      .record [("bkmId", .ofWord id), ("cmd", .text "openPageEditBookmarks"),
        ("curTab", tabJson tab), ("type", .text "cmd")]
  | .openTag id tab =>
      .record [("cmd", .text "openPageEditTag"), ("curTab", tabJson tab),
        ("tagId", .ofWord id), ("type", .text "cmd")]
  | .openLogin backFunc backArgs tab =>
      .record [("backArgs", .ofOption id backArgs), ("backFunc", .ofOption .text backFunc),
        ("cmd", .text "openPageLogin"), ("curTab", tabJson tab), ("type", .text "cmd")]
  | .relay id func args =>
      .record [("args", .list args), ("cmd", .text "sendViaRPC"), ("funcName", .text func),
        ("id", .ofWord id), ("type", .text "cmd")]

structure Draft where
  id : Option UInt64 := none
  tab : Option (Option Tab) := none
  backFunc : Option (Option String) := none
  backArgs : Option (Option Json) := none
  func : Option String := none
  args : Option (List Json) := none

def idField (name : String) : Json.Field Draft :=
  Json.field name Json.readWord64 Draft.id (fun draft id => { draft with id })

def tabField : Json.Field Draft :=
  Json.field "curTab" (Json.readOption Tab.read) Draft.tab
    (fun draft tab => { draft with tab := some tab }) true

def openShape : Json.Shape Draft where
  title := "a map"
  fields := [tabField]

def openNumberedShape (name : String) : Json.Shape Draft where
  title := "a map"
  fields := [idField name, tabField]

def openLoginShape : Json.Shape Draft where
  title := "a map"
  fields := [
    Json.field "backFunc" (Json.readOption Json.readText) Draft.backFunc
      (fun draft backFunc => { draft with backFunc := some backFunc }) true,
    Json.field "backArgs" (Json.readOption Json.readJson) Draft.backArgs
      (fun draft backArgs => { draft with backArgs := some backArgs }) true,
    tabField]

def relayShape : Json.Shape Draft where
  title := "a map"
  fields := [
    idField "id",
    Json.field "funcName" Json.readText Draft.func (fun draft func => { draft with func }),
    Json.field "args" (Json.readList Json.readJson) Draft.args
      (fun draft args => { draft with args }) true]

def readOpen (build : Option Tab → SurfaceCommand) : Json.Reader SurfaceCommand :=
  fun origin document => do
    let draft ← openShape.read {} origin document
    return build (draft.tab.getD none)

def readOpenNumbered (name : String) (build : UInt64 → Option Tab → SurfaceCommand) :
    Json.Reader SurfaceCommand := fun origin document => do
  let draft ← (openNumberedShape name).read {} origin document
  let id ← Json.require name draft.id
  return build id (draft.tab.getD none)

def readOpenLogin : Json.Reader SurfaceCommand := fun origin document => do
  let draft ← openLoginShape.read {} origin document
  return .openLogin (draft.backFunc.getD none) (draft.backArgs.getD none)
    (draft.tab.getD none)

def readRelay : Json.Reader SurfaceCommand := fun origin document => do
  let draft ← relayShape.read {} origin document
  let id ← Json.require "id" draft.id
  let func ← Json.require "funcName" draft.func
  return .relay id func (draft.args.getD [])

def known : List (String × Json.Reader SurfaceCommand) :=
  [("clearCurTab", fun _ _ => .ok .clearTab),
    ("openPageGetBookmark", readOpen .openLookup),
    ("openPageTagsTree", readOpen .openTags),
    ("openPageEditBookmarks", readOpenNumbered "bkmId" .openBookmark),
    ("openPageEditTag", readOpenNumbered "tagId" .openTag),
    ("openPageLogin", readOpenLogin),
    ("sendViaRPC", readRelay)]

def ofWire (frame : Json) : Except FrameError SurfaceCommand := Frame.read known frame

end SurfaceCommand

end BookmarkHub
