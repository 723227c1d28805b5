import BookmarkHub.Json.Record

/-!
# Data of the operations

What is written about tags and bookmarks.  Written data has all its fields, in
the byte order of their names; read data may leave out fields with a default.
-/

set_option autoImplicit false

namespace BookmarkHub

def wordsJson (words : List UInt64) : Json := .list (words.map .ofWord)

/-! ## Tags -/

/-- The names of a new tag, the primary one first, and whether missing tags on the way to its
parent are created too. -/
structure NewTag where
  names : List String
  description : String := ""
  createIntermediary : Bool := false
  deriving DecidableEq, Repr, Inhabited

namespace NewTag

def toJson (tag : NewTag) : Json :=
  .record [("createIntermediary", .bool tag.createIntermediary),
    ("description", .text tag.description), ("names", .ofTexts tag.names)]

structure Draft where
  names : Option (List String) := none
  description : Option String := none
  createIntermediary : Option Bool := none

def shape : Json.Shape Draft where
  title := "struct NewTag"
  fields := [
    Json.field "names" (Json.readList Json.readText) Draft.names
      (fun draft names => { draft with names }),
    Json.field "description" Json.readText Draft.description
      (fun draft description => { draft with description }) true,
    Json.field "createIntermediary" Json.readBool Draft.createIntermediary
      (fun draft createIntermediary => { draft with createIntermediary }) true]

def read : Json.Reader NewTag := fun origin document => do
  let draft ← shape.read {} origin document
  let names ← Json.require "names" draft.names
  return {
    names
    description := draft.description.getD ""
    createIntermediary := draft.createIntermediary.getD false }

end NewTag

structure TagUpdate where
  names : List String
  description : String := ""
  parent : UInt64
  deriving DecidableEq, Repr, Inhabited

namespace TagUpdate

def toJson (update : TagUpdate) : Json :=
  .record [("description", .text update.description), ("names", .ofTexts update.names),
    ("parentTagID", .ofWord update.parent)]

structure Draft where
  names : Option (List String) := none
  description : Option String := none
  parent : Option UInt64 := none

def shape : Json.Shape Draft where
  title := "struct TagUpdate"
  fields := [
    Json.field "names" (Json.readList Json.readText) Draft.names
      (fun draft names => { draft with names }),
    Json.field "description" Json.readText Draft.description
      (fun draft description => { draft with description }) true,
    Json.field "parentTagID" Json.readWord64 Draft.parent
      (fun draft parent => { draft with parent })]

def read : Json.Reader TagUpdate := fun origin document => do
  let draft ← shape.read {} origin document
  let names ← Json.require "names" draft.names
  let parent ← Json.require "parentTagID" draft.parent
  return { names, description := draft.description.getD "", parent }

end TagUpdate

/-- What happens to the bookmarks of a tag that loses its last child. -/
inductive LeafPolicy where
  | keep
  | del
  deriving DecidableEq, Repr, Inhabited

namespace LeafPolicy

def name : LeafPolicy → String
  | .keep => "keep"
  | .del => "del"

def known : List (String × LeafPolicy) := [("keep", .keep), ("del", .del)]

def read : Json.Reader LeafPolicy := Json.readChoice known

end LeafPolicy

/-! ## Bookmarks -/

structure Bookmark where
  url : String
  title : String := ""
  comment : String := ""
  tags : List UInt64 := []
  deriving DecidableEq, Repr, Inhabited

namespace Bookmark

def toJson (bookmark : Bookmark) : Json :=
  .record [("comment", .text bookmark.comment), ("tagIDs", wordsJson bookmark.tags),
    ("title", .text bookmark.title), ("url", .text bookmark.url)]

structure Draft where
  url : Option String := none
  title : Option String := none
  comment : Option String := none
  tags : Option (List UInt64) := none

def shape : Json.Shape Draft where
  title := "struct BookmarkData"
  fields := [
    Json.field "url" Json.readText Draft.url (fun draft url => { draft with url }),
    Json.field "title" Json.readText Draft.title
      (fun draft title => { draft with title }) true,
    Json.field "comment" Json.readText Draft.comment
      (fun draft comment => { draft with comment }) true,
    Json.field "tagIDs" (Json.readList Json.readWord64) Draft.tags
      (fun draft tags => { draft with tags }) true]

def read : Json.Reader Bookmark := fun origin document => do
  let draft ← shape.read {} origin document
  let url ← Json.require "url" draft.url
  return {
    url
    title := draft.title.getD ""
    comment := draft.comment.getD ""
    tags := draft.tags.getD [] }

end Bookmark

end BookmarkHub
