import BookmarkHub.Operation.Data
import BookmarkHub.Wire.Envelope

/-!
# Operations on the bookmark store

The operations that the server knows, with the request that each of them is.
A tag is referred to by its number or by its path; slashes that lead a path
are dropped when the request is built.
-/

set_option autoImplicit false

namespace BookmarkHub

inductive Operation where
  | tagTree
  | oneTag (tag : String)
  | tagsByPattern (pattern : String) (allowNew : Bool)
  | addTag (parent : String) (data : NewTag)
  | updateTag (tag : String) (data : TagUpdate)
  | deleteTag (tag : String) (policy : LeafPolicy)
  | taggedBookmarks (tags : List UInt64)
  | bookmarksByUrl (url : String)
  | oneBookmark (id : UInt64)
  | addBookmark (data : Bookmark)
  | updateBookmark (id : UInt64) (data : Bookmark)
  | deleteBookmark (id : UInt64)
  deriving DecidableEq, Repr, Inhabited

namespace Operation

def tagPath (tag : String) : String :=
  String.ofList ("/tags/".toList ++ tag.toList.dropWhile (· == '/'))

def bookmarkPath (id : UInt64) : String := "/bookmarks/" ++ Decimal.ofNat id.toNat

def toRequest : Operation → Request
  | .tagTree => .get "/tags"
  | .oneTag tag => (Request.get (tagPath tag)).withValue "shape" (.one "single")
  | .tagsByPattern pattern allowNew =>
      let request := ((Request.get "/tags").withValue "shape" (.one "flat")).withValue
        "pattern" (.one pattern)
      if allowNew then request.withValue "allow_new" (.one "1") else request
  | .addTag parent data =>
      { path := tagPath parent, method := .post, body := some data.toJson }
  | .updateTag tag data => { path := tagPath tag, method := .put, body := some data.toJson }
  | .deleteTag tag policy =>
      ({ path := tagPath tag, method := .delete } : Request).withValue "new_leaf_policy"
        (.one policy.name)
  | .taggedBookmarks tags =>
      (Request.get "/bookmarks").withValue "tag_id"
        (.many (tags.map fun tag => Decimal.ofNat tag.toNat))
  | .bookmarksByUrl url => (Request.get "/bookmarks").withValue "url" (.many [url])
  | .oneBookmark id => .get (bookmarkPath id)
  | .addBookmark data => { path := "/bookmarks", method := .post, body := some data.toJson }
  | .updateBookmark id data =>
      { path := bookmarkPath id, method := .put, body := some data.toJson }
  | .deleteBookmark id => { path := bookmarkPath id, method := .delete }

end Operation

end BookmarkHub
