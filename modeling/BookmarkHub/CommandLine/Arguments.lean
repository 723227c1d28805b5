import BookmarkHub.Decimal.Whole
import BookmarkHub.Operation.Basic

/-!
# Arguments of the command line

A command line names one command, with its options and its words.  An option
starts with two dashes; its value is the next word, or stands behind an equals
sign.  A word that starts with a dash is no value, and no word of a command
either, unless it stands behind a lone pair of dashes.
-/

set_option autoImplicit false

namespace BookmarkHub

inductive Task where
  | showSettings
  | keepToken (token : String)
  | logout
  | ask (operation : Operation) (seconds : Nat)
  deriving Inhabited

inductive Invocation where
  | help
  | version
  | task (task : Task)
  deriving Inhabited

namespace CommandLine

/-! ## Words -/

/-- A word of a command line.  Behind an escape, which is two dashes and nothing else, all words
are plain. -/
inductive Word where
  | plain (text : String)
  | option (name : String) (value : Option String)
  | letters (letters : List Char)
  | escape
  deriving DecidableEq, Repr, Inhabited

def splitOption (marks : List Char) : Word :=
  let name := String.ofList (marks.takeWhile (· != '='))
  match marks.dropWhile (· != '=') with
  | [] => .option name none
  | _ :: value => .option name (some (String.ofList value))

/-- The word that a text is.  One dash alone is plain. -/
def Word.ofText (text : String) : Word :=
  match text.toList with
  | ['-', '-'] => .escape
  | '-' :: '-' :: marks => splitOption marks
  | '-' :: first :: rest => .letters (first :: rest)
  | _ => .plain text

def plain? (text : String) : Option String :=
  match Word.ofText text with
  | .plain text => some text
  | _ => none

def takeValue? (attached : Option String) (rest : List String) :
    Option (String × List String) :=
  match attached, rest with
  | some value, rest => some (value, rest)
  | none, next :: rest => (plain? next).map fun value => (value, rest)
  | none, [] => none

theorem length_of_takeValue? {attached : Option String} {rest left : List String}
    {value : String} (taken : takeValue? attached rest = some (value, left)) :
    left.length ≤ rest.length := by
  unfold takeValue? at taken
  split at taken
  · simp_all
  · obtain ⟨_, _, same⟩ := Option.map_eq_some_iff.1 taken
    cases same
    exact Nat.le_succ _
  · simp at taken

/-! ## Commands -/

inductive CommandName where
  | tags
  | tree
  | bookmarks
  | bookmark
  | setToken
  | logout
  | config
  deriving DecidableEq, Repr, Inhabited

def CommandName.ofText? : String → Option CommandName
  | "tags" => some .tags
  | "tree" => some .tree
  | "bookmarks" => some .bookmarks
  | "bookmark" => some .bookmark
  | "set-token" => some .setToken
  | "logout" => some .logout
  | "config" => some .config
  | _ => none

structure Given where
  timeout : Option UInt64 := none
  allowNew : Bool := false
  url : Option String := none
  tags : List UInt64 := []
  words : List String := []
  deriving DecidableEq, Repr, Inhabited

namespace Given

/-- Takes an option without a value.  It may stand only once. -/
def takeFlag? (command : CommandName) (name : String) (given : Given) : Option Given :=
  match command, name with
  | .tags, "allow-new" => if given.allowNew then none else some { given with allowNew := true }
  | _, _ => none

def takesValue (command : CommandName) (name : String) : Bool :=
  match command, name with
  | _, "timeout" => true
  | .bookmarks, "url" => true
  | .bookmarks, "tag-id" => true
  | _, _ => false

/-- Takes an option with its value.  Only tags may be given more than once. -/
def takeOption? (name value : String) (given : Given) : Option Given :=
  match name with
  | "timeout" =>
      if given.timeout.isSome then none
      else (Decimal.readWord? value).map fun seconds => { given with timeout := some seconds }
  | "url" => if given.url.isSome then none else some { given with url := some value }
  | "tag-id" =>
      (Decimal.readWord? value).map fun tag => { given with tags := given.tags ++ [tag] }
  | _ => none

def suits (command : CommandName) (word : String) : Bool :=
  match command with
  | .tags | .setToken => true
  | .bookmark => (Decimal.readWord? word).isSome
  | _ => false

def takeWord? (command : CommandName) (word : String) (given : Given) : Option Given :=
  if suits command word && given.words.isEmpty then some { given with words := [word] }
  else none

end Given

def takeWords? (command : CommandName) : List String → Given → Option Given
  | [], given => some given
  | word :: rest, given => (given.takeWord? command word).bind (takeWords? command rest)

/-- Reads what follows the name of a command; `none` inside says that help is
asked for. -/
def readGiven? (command : CommandName) (words : List String) (given : Given) :
    Option (Option Given) :=
  match words with
  | [] => some (some given)
  | word :: rest =>
      match Word.ofText word with
      | .plain text => (given.takeWord? command text).bind (readGiven? command rest)
      | .escape => (takeWords? command rest given).map some
      | .letters ('h' :: _) => some none
      | .letters _ => none
      | .option "help" none => some none
      | .option name attached =>
          if Given.takesValue command name then
            match _ : takeValue? attached rest with
            | none => none
            | some (value, left) =>
                (given.takeOption? name value).bind (readGiven? command left)
          else
            match attached with
            | none => (given.takeFlag? command name).bind (readGiven? command rest)
            | some _ => none
termination_by words.length
decreasing_by
  · exact Nat.lt_succ_self _
  · exact Nat.lt_succ_of_le (length_of_takeValue? (by assumption))
  · exact Nat.lt_succ_self _

/-- How many seconds to wait for the server unless told otherwise. -/
def defaultTimeout : Nat := 30

/-- The task of a command, if all is given that it needs and nothing too much.
A time limit behind the name of the command replaces one before it. -/
def Given.task? (command : CommandName) (timeout : Option UInt64) (given : Given) :
    Option Task :=
  let seconds := ((given.timeout.or timeout).map UInt64.toNat).getD defaultTimeout
  match command, given.words with
  | .tags, [pattern] => some (.ask (.tagsByPattern pattern given.allowNew) seconds)
  | .tree, [] => some (.ask .tagTree seconds)
  | .bookmarks, [] =>
      match given.url, given.tags with
      | some url, [] => some (.ask (.bookmarksByUrl url) seconds)
      | none, tag :: tags => some (.ask (.taggedBookmarks (tag :: tags)) seconds)
      | _, _ => none
  | .bookmark, [word] =>
      (Decimal.readWord? word).map fun id => .ask (.oneBookmark id) seconds
  | .setToken, [token] => some (.keepToken token)
  | .logout, [] => some .logout
  | .config, [] => some .showSettings
  | _, _ => none

/-! ## Whole command lines -/

def isHelpTopic : List String → Bool
  | [] => true
  | [name] => name == "help" || (CommandName.ofText? name).isSome
  | _ => false

/-- Reads a command line, with the time limit that was read before; `none` is
an error of usage. -/
def read? (timeout : Option UInt64) (words : List String) : Option Invocation :=
  match words with
  | [] => none
  | word :: rest =>
      match Word.ofText word with
      | .plain "help" => if isHelpTopic rest then some .help else none
      | .plain name =>
          (CommandName.ofText? name).bind fun command =>
            (readGiven? command rest {}).bind fun
              | none => some .help
              | some given => (given.task? command timeout).map .task
      | .letters ('V' :: _) => some .version
      | .letters ('h' :: _) => some .help
      | .option "version" none => some .version
      | .option "help" none => some .help
      | .option "timeout" attached =>
          match timeout, _ : takeValue? attached rest with
          | none, some (value, left) =>
              (Decimal.readWord? value).bind fun seconds => read? (some seconds) left
          | _, _ => none
      | _ => none
termination_by words.length
decreasing_by
  simp only [List.length_cons]
  have := length_of_takeValue? (by assumption)
  omega

def parse? (words : List String) : Option Invocation := read? none words

end CommandLine

end BookmarkHub
