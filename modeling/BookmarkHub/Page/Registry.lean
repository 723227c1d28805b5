import BookmarkHub.Decimal.Whole
import BookmarkHub.Table
import BookmarkHub.Wire.Tab

/-!
# The registry of open pages

A page that has been opened has a context: the tab it was opened for, and the
link of its surface once the surface has connected.  A link is attached only
to a page that was opened, and only where none is attached yet.
-/

set_option autoImplicit false

namespace BookmarkHub

/-- The hub's end of a channel to a surface.  Two links with one number are
still told apart by their channels. -/
structure Link where
  id : Nat
  channel : Nat
  deriving DecidableEq, Repr, Inhabited

def Link.label (id : Nat) : String := "port-" ++ Decimal.ofNat id

structure PageContext where
  key : String
  link : Option Link := none
  tab : Option Tab := none
  deriving DecidableEq, Repr, Inhabited

def PageContext.hasLink (context : PageContext) (id : Nat) : Bool :=
  match context.link with
  | some link => link.id == id
  | none => false

structure PageInfo where
  key : String
  connected : Bool
  tab : Option Tab
  deriving DecidableEq, Repr, Inhabited

inductive AttachError where
  | notOpened
  | alreadyAttached (id : Nat)
  deriving DecidableEq, Repr, Inhabited

def AttachError.message : AttachError → String
  | .notOpened => "connect without a prior open request"
  | .alreadyAttached id => "duplicate connect, " ++ Link.label id ++ " is already attached"

/-- The contexts of the open pages under their keys. -/
structure Registry where
  pages : Table String PageContext := Table.empty
  deriving DecidableEq, Inhabited

namespace Registry

def find? (registry : Registry) (key : String) : Option PageContext :=
  registry.pages.find? key

def contains (registry : Registry) (key : String) : Bool := registry.pages.contains key

def size (registry : Registry) : Nat := registry.pages.size

def put (registry : Registry) (context : PageContext) : Registry :=
  ⟨registry.pages.insert context.key context⟩

/-- Gives a page a context, unless it has one. -/
def create (registry : Registry) (key : String) (tab : Option Tab) : Bool × Registry :=
  if registry.contains key then (false, registry)
  else (true, registry.put { key, tab })

def attach (registry : Registry) (key : String) (link : Link) :
    Except AttachError (PageContext × Registry) :=
  match registry.find? key with
  | none => .error .notOpened
  | some context =>
      match context.link with
      | some attached => .error (.alreadyAttached attached.id)
      | none =>
          let context := { context with link := some link }
          .ok (context, registry.put context)

def setTab (registry : Registry) (key : String) (tab : Option Tab) : Bool × Registry :=
  match registry.find? key with
  | none => (false, registry)
  | some context => (true, registry.put { context with tab })

def remove (registry : Registry) (key : String) : Option PageContext × Registry :=
  (registry.find? key, ⟨registry.pages.erase key⟩)

def keyForLink? (registry : Registry) (id : Nat) : Option String :=
  (registry.pages.values.find? (·.hasLink id)).map PageContext.key

def drain (registry : Registry) : List PageContext × Registry :=
  (registry.pages.values, {})

/-- What is told of the open pages, in the order of their keys. -/
def snapshot (registry : Registry) : List PageInfo :=
  registry.pages.values.map fun context =>
    ⟨context.key, context.link.isSome, context.tab⟩

end Registry

end BookmarkHub
