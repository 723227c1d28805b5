import BookmarkHub.Page.Target

/-!
# Windows

A page is shown in a window.  The address of the window carries the
parameters of the page and, last, the name under which its surface will ask
for a link.
-/

set_option autoImplicit false

namespace BookmarkHub

structure WindowSize where
  width : UInt32 := 700
  height : UInt32 := 400
  deriving DecidableEq, Repr, Inhabited

inductive WindowRequest where
  | «open» (url : String) (size : WindowSize)
  | focus (key : String)
  deriving DecidableEq, Repr, Inhabited

namespace Page

def windowUrl (key openParams : String) : String :=
  let link := "port_name=".toList ++ FormUrlencoded.encode key
  let query := if openParams.isEmpty then link else openParams.toList ++ '&' :: link
  String.ofList ("/page-wrapper/page-wrapper.html?".toList ++ query)

end Page

end BookmarkHub
