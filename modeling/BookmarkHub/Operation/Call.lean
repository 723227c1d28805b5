import BookmarkHub.Operation.Basic

/-!
# Operations called by name

A page calls an operation by its name with a list of JSON arguments.
`Operation.name` and `Operation.args` write an operation as such a call, and
`Operation.ofCall` reads a call, telling which argument is to blame.  Further
arguments behind those that an operation takes are passed over.
-/

set_option autoImplicit false

namespace BookmarkHub

inductive ArgumentError where
  | missing
  | notATag (found : Json)
  | unreadable (error : Json.ReadError)
  deriving Inhabited

inductive CallError where
  | unknownMethod (name : String)
  | invalidArgument (method : String) (index : Nat) (error : ArgumentError)
  deriving Inhabited

def ArgumentError.message (index : Nat) : ArgumentError → String
  | .missing => "missing argument " ++ Decimal.ofNat index
  | .notATag found =>
      "argument " ++ Decimal.ofNat index ++ ": expected tag path or id, got " ++ found.toText
  | .unreadable error => "argument " ++ Decimal.ofNat index ++ ": " ++ error.message

def CallError.message : CallError → String
  | .unknownMethod name => "unknown RPC method: " ++ name
  | .invalidArgument method index error =>
      "invalid arguments for " ++ method ++ ": " ++ error.message index

namespace Operation

def name : Operation → String
  | .tagTree => "getTagsTree"
  | .oneTag .. => "getTag"
  | .tagsByPattern .. => "getTagsByPattern"
  | .addTag .. => "addTag"
  | .updateTag .. => "updateTag"
  | .deleteTag .. => "deleteTag"
  | .taggedBookmarks .. => "getTaggedBookmarks"
  | .bookmarksByUrl .. => "getBookmarksByURL"
  | .oneBookmark .. => "getBookmarkByID"
  | .addBookmark .. => "addBookmark"
  | .updateBookmark .. => "updateBookmark"
  | .deleteBookmark .. => "deleteBookmark"

def args : Operation → List Json
  | .tagTree => []
  | .oneTag tag => [.text tag]
  | .tagsByPattern pattern allowNew => [.text pattern, .bool allowNew]
  | .addTag parent data => [.text parent, data.toJson]
  | .updateTag tag data => [.text tag, data.toJson]
  | .deleteTag tag policy => [.text tag, .text policy.name]
  | .taggedBookmarks tags => [wordsJson tags]
  | .bookmarksByUrl url => [.text url]
  | .oneBookmark id => [.ofWord id]
  | .addBookmark data => [data.toJson]
  | .updateBookmark id data => [.ofWord id, data.toJson]
  | .deleteBookmark id => [.ofWord id]

/-! ## Reading calls -/

/-- A step of reading arguments, which may blame one of them. -/
abbrev Taken (Value : Type) := Except (Nat × ArgumentError) Value

def take {Value : Type} (read : Json.Reader Value) (args : List Json) (index : Nat) :
    Taken Value :=
  match args[index]? with
  | none => .error (index, .missing)
  | some found => (Json.ofValue read found).mapError fun error => (index, .unreadable error)

def takeOptional {Value : Type} (read : Json.Reader Value) (otherwise : Value)
    (args : List Json) (index : Nat) : Taken Value :=
  match args[index]? with
  | none => .ok otherwise
  | some .null => .ok otherwise
  | some _ => take read args index

/-- Reads a reference to a tag: a text that is not empty, or a number. -/
def takeTag (args : List Json) (index : Nat) : Taken String :=
  match args[index]? with
  | none => .error (index, .missing)
  | some (.text "") => .error (index, .notATag (.text ""))
  | some (.text tag) => .ok tag
  | some (.number number) => .ok (Json.number number).toText
  | some found => .error (index, .notATag found)

def known : List (String × (List Json → Taken Operation)) :=
  [("getTagsTree", fun _ => .ok .tagTree),
    ("getTag", fun args => do
      return .oneTag (← takeTag args 0)),
    ("getTagsByPattern", fun args => do
      let pattern ← take Json.readText args 0
      return .tagsByPattern pattern (← takeOptional Json.readBool false args 1)),
    ("addTag", fun args => do
      let parent ← takeTag args 0
      return .addTag parent (← take NewTag.read args 1)),
    ("updateTag", fun args => do
      let tag ← takeTag args 0
      return .updateTag tag (← take TagUpdate.read args 1)),
    ("deleteTag", fun args => do
      let tag ← takeTag args 0
      return .deleteTag tag (← take LeafPolicy.read args 1)),
    ("getTaggedBookmarks", fun args => do
      return .taggedBookmarks (← take (Json.readList Json.readWord64) args 0)),
    ("getBookmarksByURL", fun args => do
      return .bookmarksByUrl (← take Json.readText args 0)),
    ("getBookmarkByID", fun args => do
      return .oneBookmark (← take Json.readWord64 args 0)),
    ("addBookmark", fun args => do
      return .addBookmark (← take Bookmark.read args 0)),
    ("updateBookmark", fun args => do
      let id ← take Json.readWord64 args 0
      return .updateBookmark id (← take Bookmark.read args 1)),
    ("deleteBookmark", fun args => do
      return .deleteBookmark (← take Json.readWord64 args 0))]

def ofCall (method : String) (args : List Json) : Except CallError Operation :=
  match known.lookup method with
  | none => .error (.unknownMethod method)
  | some read => (read args).mapError fun blamed =>
      .invalidArgument method blamed.1 blamed.2

end Operation

end BookmarkHub
