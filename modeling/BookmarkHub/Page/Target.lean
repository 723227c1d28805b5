import BookmarkHub.Json.Writer
import BookmarkHub.Text.FormUrlencoded
import BookmarkHub.Wire.SurfaceCommand

/-!
# Pages

A page is what a surface shows.  Its key is its identity: a page that is
opened under a key which is already there comes to the front instead.  Its
parameters are what the window that shows it is opened with.
-/

set_option autoImplicit false

namespace BookmarkHub

inductive Page where
  | lookup
  | tags
  | bookmark (id : UInt64)
  | tag (id : UInt64)
  | login (backFunc : Option String) (backArgs : Option Json)
  deriving Inhabited

namespace Page

def key : Page → String
  | .lookup => "getBookmark"
  | .tags => "tagsTree"
  | .bookmark id => "editBookmark-" ++ Decimal.ofNat id.toNat
  | .tag id => "editTag-" ++ Decimal.ofNat id.toNat
  | .login .. => "loginLogout"

def optionalPair (name : String) : Option String → List (String × String)
  | none => []
  | some value => [(name, value)]

def parameters : Page → List (String × String)
  | .lookup => [("page", "get-bookmark")]
  | .tags => [("page", "tags-tree")]
  | .bookmark id => [("page", "edit-bookmark"), ("bkm_id", Decimal.ofNat id.toNat)]
  | .tag id => [("page", "edit-tag"), ("tag_id", Decimal.ofNat id.toNat)]
  | .login backFunc backArgs =>
      ("page", "login-logout") :: optionalPair "back_func" backFunc ++
        optionalPair "back_args" (backArgs.map Json.toText)

def openParams (page : Page) : String :=
  String.ofList (FormUrlencoded.query page.parameters)

/-- The page that a command opens, with the tab to open it for. -/
def ofCommand? : SurfaceCommand → Option (Page × Option Tab)
  | .clearTab => none
  | .openLookup tab => some (.lookup, tab)
  | .openTags tab => some (.tags, tab)
  | .openBookmark id tab => some (.bookmark id, tab)
  | .openTag id tab => some (.tag id, tab)
  | .openLogin backFunc backArgs tab => some (.login backFunc backArgs, tab)
  | .relay .. => none

end Page

end BookmarkHub
