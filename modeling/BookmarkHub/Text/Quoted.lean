import BookmarkHub.Text.Unprintable

/-!
# Quoted text for messages

Error messages show a piece of text between double quotes, with the quote,
the backslash and everything that has no visible shape written as escapes.
-/

set_option autoImplicit false

namespace BookmarkHub.Text

def quoteMark (mark : Char) : List Char :=
  match mark with
  | '"' => ['\\', '"']
  | '\\' => ['\\', '\\']
  | '\n' => ['\\', 'n']
  | '\r' => ['\\', 'r']
  | '\t' => ['\\', 't']
  | '\x00' => ['\\', '0']
  | mark =>
      let code := mark.toNat
      if code < 0x20 ∨ code = 0x7f ∨ (0x7f < code ∧ isUnprintable code) then
        ['\\', 'u', '\x7b'] ++ Nat.toDigits 16 code ++ ['\x7d']
      else [mark]

def quoted (text : String) : String :=
  String.ofList ('"' :: text.toList.flatMap quoteMark ++ ['"'])

end BookmarkHub.Text
