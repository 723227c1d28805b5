import BookmarkHub.Json.Record

/-!
# Browser tabs

A surface is opened for a tab of the browser.  What is known of the tab is its
address and its title at the time of opening.
-/

set_option autoImplicit false

namespace BookmarkHub

structure Tab where
  url : String
  title : String
  deriving DecidableEq, Repr, Inhabited

namespace Tab

def toJson (tab : Tab) : Json :=
  .record [("title", .text tab.title), ("url", .text tab.url)]

structure Draft where
  url : Option String := none
  title : Option String := none

def shape : Json.Shape Draft where
  title := "struct TabInfo"
  fields := [
    Json.field "url" Json.readText Draft.url (fun draft url => { draft with url }),
    Json.field "title" Json.readText Draft.title (fun draft title => { draft with title })]

def read : Json.Reader Tab := fun origin document => do
  let draft ← shape.read {} origin document
  let url ← Json.require "url" draft.url
  let title ← Json.require "title" draft.title
  return { url, title }

end Tab

end BookmarkHub
