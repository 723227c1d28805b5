import BookmarkHub.Json.Reader
import BookmarkHub.Text.Utf8

/-!
# Stored files

A file on disk as the program sees it: absent, or with a content and access
rights.  What is written here may be read by its owner only.
-/

set_option autoImplicit false

namespace BookmarkHub

inductive FileContent where
  | text (text : String)
  | bytes (bytes : List UInt8)
  deriving DecidableEq, Repr, Inhabited

/-- The content that bytes are: a text, if they are one. -/
def FileContent.ofBytes (bytes : List UInt8) : FileContent :=
  match String.fromUTF8? bytes.toByteArray with
  | some value => .text value
  | none => .bytes bytes

def FileContent.shown : FileContent → String
  | .text value => value
  | .bytes values => Utf8.shown values

structure StoredFile where
  content : FileContent
  mode : Nat
  deriving DecidableEq, Repr, Inhabited

inductive FileError where
  | unreadable (path : String)
  | unwritable (path : String)
  | invalid (what path : String) (error : Json.ReadError)
  deriving DecidableEq, Repr, Inhabited

/-- What was tried when the error arose. -/
def FileError.context : FileError → String
  | .unreadable path => "Failed to read " ++ path
  | .unwritable path => "Failed to write " ++ path
  | .invalid what path _ => "Invalid " ++ what ++ " " ++ path

/-- What was tried, and what is wrong with the content if it was read. -/
def FileError.message : FileError → String
  | .invalid what path error =>
      (FileError.invalid what path error).context ++ ": " ++ error.message
  | error => error.context

namespace StoredFile

def ownerOnly : Nat := 0o600

/-- A file after a text was written to it.  An old file keeps its mode, and a new
one gets the mode that the system gives to new files. -/
def write (fresh : Nat) (text : String) (file : Option StoredFile) : StoredFile :=
  ⟨.text text, (file.map mode).getD fresh⟩

def restrict (file : StoredFile) : StoredFile := { file with mode := ownerOnly }

/-- A file with a text that its owner alone may read. -/
def confidential (text : String) : StoredFile := ⟨.text text, ownerOnly⟩

def readJson {Value : Type} (read : Json.Reader Value) (what path : String)
    (file : Option StoredFile) : Except FileError Value :=
  match file with
  | some ⟨.text text, _⟩ => (Json.ofText read text).mapError (.invalid what path)
  | _ => .error (.unreadable path)

theorem readJson_eq_ok {Value : Type} {read : Json.Reader Value} {what path : String}
    {file : Option StoredFile} {value : Value} :
    readJson read what path file = .ok value ↔
      ∃ text mode, file = some ⟨.text text, mode⟩ ∧ Json.ofText read text = .ok value := by
  constructor
  · intro reads
    unfold readJson at reads
    split at reads
    · rename_i text mode
      cases decoded : Json.ofText read text with
      | error error =>
          rw [decoded] at reads
          cases reads
      | ok found =>
          rw [decoded] at reads
          cases reads
          exact ⟨text, mode, rfl, decoded⟩
    · cases reads
  · rintro ⟨text, mode, rfl, decoded⟩
    rw [readJson, decoded]
    rfl

end StoredFile

end BookmarkHub
