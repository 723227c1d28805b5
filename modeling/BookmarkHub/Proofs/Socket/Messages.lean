import BookmarkHub.Socket.Message

/-!
# Texts that are read from a socket

A connection reads a socket until it gets no text.  By then it has read every
text that came before the first farewell, the first error or the end, each once
and in order, and what it read last tells which of them it was.  Everything else
that arrives is passed over and ends nothing.
-/

set_option autoImplicit false

namespace BookmarkHub.SocketStream

/-! ## What arrives -/

def text? : Except String SocketMessage → Option String
  | .ok (.text text) => some text
  | _ => none

/-- A farewell and an error are the last that is read. -/
def isLast : Except String SocketMessage → Bool
  | .ok (.close _) => true
  | .error _ => true
  | _ => false

def ending : SocketStream → Reading
  | .error message :: _ => some (.error (.transport ("WebSocket read error: " ++ message)))
  | _ => none

/-- What arrives before the first farewell, the first error or the end. -/
def upToLast (messages : SocketStream) : SocketStream := messages.takeWhile fun item => !isLast item

def fromLast (messages : SocketStream) : SocketStream := messages.dropWhile fun item => !isLast item

def texts (messages : SocketStream) : List String := messages.upToLast.filterMap text?

/-! ## One reading -/

section Reading
variable (rest : SocketStream)

theorem nextText_nil : nextText [] = (none, []) := by
  rw [nextText]
  rfl

theorem nextText_text (text : String) :
    nextText (.ok (.text text) :: rest) = (some (.ok text), rest) := by
  rw [nextText]
  rfl

theorem nextText_close (farewell : Option (UInt16 × String)) :
    nextText (.ok (.close farewell) :: rest) = (none, rest) := by
  rw [nextText]
  rfl

theorem nextText_error (message : String) : nextText (.error message :: rest) =
    (some (.error (.transport ("WebSocket read error: " ++ message))), rest) := by
  rw [nextText]
  rfl

theorem nextText_other {item : Except String SocketMessage} (plain : text? item = none)
    (goesOn : isLast item = false) : nextText (item :: rest) = nextText rest := by
  match item with
  | .ok (.text _) => cases plain
  | .ok (.close _) | .error _ => cases goesOn
  | .ok .raw =>
      rw [nextText]
      conv => rhs; rw [nextText]
      rfl
  | .ok (.binary _) | .ok (.ping _) | .ok (.pong _) =>
      rw [nextText]
      rfl

end Reading

theorem length_of_nextText {messages rest : SocketStream} {text : String}
    (read : nextText messages = (some (.ok text), rest)) : rest.length < messages.length := by
  induction messages with
  | nil =>
      rw [nextText_nil] at read
      cases read
  | cons item later ih =>
      cases plain : text? item with
      | some other =>
          match item with
          | .ok (.text other) =>
              rw [nextText_text] at read
              cases read
              exact Nat.lt_succ_self _
      | none =>
          cases goesOn : isLast item with
          | false =>
              rw [nextText_other later plain goesOn] at read
              exact Nat.lt_succ_of_lt (ih read)
          | true =>
              match item with
              | .ok (.close farewell) =>
                  rw [nextText_close] at read
                  cases read
              | .error message =>
                  rw [nextText_error] at read
                  cases read

/-! ## All readings -/

/-- What is read one after the other, up to the first reading that is no text. -/
def readings (messages : SocketStream) : List Reading :=
  match _ : nextText messages with
  | (some (.ok text), rest) => some (.ok text) :: readings rest
  | (last, _) => [last]
termination_by messages.length
decreasing_by exact length_of_nextText (by assumption)

theorem readings_eq (messages : SocketStream) : readings messages =
    match nextText messages with
    | (some (.ok text), rest) => some (.ok text) :: readings rest
    | (last, _) => [last] := by
  rw [readings]
  split <;> simp_all

/-- The texts that come before the last that is read, and then what that was. -/
theorem readings_split (messages : SocketStream) :
    readings messages =
      messages.texts.map (fun text => some (.ok text)) ++ [ending messages.fromLast] := by
  induction messages with
  | nil =>
      rw [readings_eq, nextText_nil]
      rfl
  | cons item rest ih =>
      cases plain : text? item with
      | some text =>
          match item with
          | .ok (.text text) =>
              rw [readings_eq, nextText_text]
              exact congrArg (some (.ok text) :: ·) ih
      | none =>
          cases goesOn : isLast item with
          | false =>
              have same : readings (item :: rest) = readings rest := by
                rw [readings_eq, nextText_other rest plain goesOn, ← readings_eq]
              rw [same, ih]
              simp [texts, upToLast, fromLast, goesOn, plain]
          | true =>
              match item with
              | .ok (.close farewell) =>
                  rw [readings_eq, nextText_close]
                  rfl
              | .error message =>
                  rw [readings_eq, nextText_error]
                  rfl

/-! ## Nothing is lost -/

section Lossless
variable {messages before rest : SocketStream} {item : Except String SocketMessage}

theorem texts_other (plain : text? item = none) (goesOn : isLast item = false) :
    texts (before ++ item :: rest) = texts (before ++ rest) := by
  induction before with
  | nil => simp [texts, upToLast, goesOn, plain]
  | cons first before ih =>
      simp only [texts, upToLast, List.cons_append, List.takeWhile_cons] at ih ⊢
      cases isLast first with
      | true => rfl
      | false =>
          simp only [Bool.not_false, if_true, List.filterMap_cons, ih]

theorem ending_cons (last : Except String SocketMessage) (more others : SocketStream) :
    ending (last :: more) = ending (last :: others) := by
  cases last <;> rfl

theorem ending_other (goesOn : isLast item = false) :
    ending (fromLast (before ++ item :: rest)) = ending (fromLast (before ++ rest)) := by
  induction before with
  | nil => simp [fromLast, goesOn]
  | cons first before ih =>
      simp only [fromLast, List.cons_append, List.dropWhile_cons] at ih ⊢
      cases isLast first with
      | true => exact ending_cons first _ _
      | false => exact ih

end Lossless

/-- A connection is given the texts of a socket and nothing else, as long as there are any.
Whatever is no text and not the last may arrive anywhere. -/
structure Lossless (messages : SocketStream) : Prop where
  readings : messages.readings =
    messages.texts.map (fun text => some (.ok text)) ++ [ending messages.fromLast]
  told : messages.readings.map ConnectionEvent.ofReading =
    messages.texts.map .frame ++ [.ended]
  passed : ∀ before item rest, messages = before ++ item :: rest → text? item = none →
    isLast item = false → messages.readings = SocketStream.readings (before ++ rest)

theorem readings_lossless (messages : SocketStream) : Lossless messages where
  readings := messages.readings_split
  told := by
    have last : ConnectionEvent.ofReading (ending messages.fromLast) = .ended := by
      unfold ending
      split <;> rfl
    rw [readings_split, List.map_append, List.map_map, List.map_singleton, last]
    rfl
  passed := by
    rintro before item rest rfl plain goesOn
    rw [readings_split, readings_split, texts_other plain goesOn, ending_other goesOn]

end BookmarkHub.SocketStream
