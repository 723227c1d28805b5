import BookmarkHub.Proofs.Json.Records
import BookmarkHub.Wire.HubCommand
import BookmarkHub.Wire.SurfaceCommand

/-!
# Commands that are read back

Every command is read back from its frame; only arguments of null are lost from
a login.  Whatever frame a command was read from, the frame that it is written
as stands for the same command.  A frame of another type is never a command.
-/

set_option autoImplicit false

namespace BookmarkHub

open Json

/-! ## Parts of commands -/

theorem Tab.read_back : ReadsBack read toJson := by
  intro origin tab roomy
  have draft : shape.read {} origin (Document.ofJson tab.toJson) =
      .ok ⟨some tab.url, some tab.title⟩ := by
    refine readRecord_back roomy ?_
    rw [Document.ofMembers, readNamed_field rfl rfl rfl, Document.ofMembers,
      readNamed_field rfl rfl rfl]
    rfl
  rw [read, draft]
  rfl

theorem readTab_back (tab : Option Tab) :
    readOption Tab.read .frame (Document.ofJson (SurfaceCommand.tabJson tab)) = .ok tab :=
  readOption_back Tab.read_back nofun .frame tab rfl

theorem readBackFunc_back (func : Option String) :
    readOption readText .frame (Document.ofJson (.ofOption .text func)) = .ok func :=
  readOption_back readText_back nofun .frame func rfl

theorem readBackArgs_back {args : Option Json}
    (ordered : ∀ value, args = some value → value.IsOrdered) :
    readOption readJson .frame (Document.ofJson (.ofOption id args)) =
      .ok (args.bind present?) := by
  have roomy : Origin.frame.IsRoomy := rfl
  cases args with
  | none => rfl
  | some value => exact readOption_present? (readJson_ofJson roomy value (ordered value rfl))

/-! ## Frames -/

namespace Frame

variable {Command : Type} {known : List (String × Reader Command)} {command : Command}

theorem read_record {members fields : List (String × Json)} {name : String}
    {reader : Reader Command} (typed : Table.findEntry "type" members = some (.text "cmd"))
    (named : Table.findEntry "cmd" (Table.eraseEntry "type" members) = some (.text name))
    (others : Table.eraseEntry "cmd" (Table.eraseEntry "type" members) = fields)
    (selected : chooseVariant known name = .ok reader)
    (reads : reader .frame (Document.ofJson (.record fields)) = .ok command) :
    read known (.record members) = .ok command := by
  have found : Frame.members (.record members) = .ok (Table.eraseEntry "type" members) := by
    simp only [Frame.members, typed]
  have taken : Frame.command (Table.eraseEntry "type" members) =
      .ok (name, Document.ofJson (.record fields)) := by
    rw [Frame.command, named, ← others]
    rfl
  simp only [read, found, taken, selected, bind, Except.bind, reads]
  rfl

theorem read_of_other_type {frame : Json} (other : frame.member? "type" ≠ some (.text "cmd")) :
    read known frame = .error (.unsupportedType (frame.member? "type")) := by
  have refused : members frame = .error (.unsupportedType (frame.member? "type")) := by
    unfold members
    split
    · split
      · rename_i typed
        exact absurd typed other
      · rfl
    · rename_i shape
      cases frame with
      | record members => exact absurd rfl (shape members)
      | _ => rfl
  rw [read, refused]
  rfl

theorem typed_of_read {frame : Json} (reads : read known frame = .ok command) :
    ∃ members, frame = .record members ∧
      Table.findEntry "type" members = some (.text "cmd") := by
  have typed : frame.member? "type" = some (.text "cmd") := by
    refine Classical.byContradiction fun other => ?_
    rw [read_of_other_type other] at reads
    cases reads
  cases frame with
  | record members => exact ⟨members, rfl, typed⟩
  | _ => cases typed

/-- Whatever is read from a frame was read by one of the known readers. -/
theorem known_of_read {frame : Json} (reads : read known frame = .ok command) :
    ∃ entry ∈ known, ∃ document, entry.2 .frame document = .ok command := by
  obtain ⟨others, _, attempt⟩ := ok_of_bind reads
  obtain ⟨⟨name, fields⟩, _, attempt⟩ := ok_of_bind (ok_of_mapError attempt)
  obtain ⟨reader, selected, reads⟩ := ok_of_bind attempt
  unfold chooseVariant at selected
  split at selected
  · rename_i listed
    cases selected
    obtain ⟨before, later, split, _⟩ := List.lookup_eq_some_iff.1 listed
    exact ⟨(name, reader), by simp [split], fields, reads⟩
  · cases selected

end Frame

/-! ## Commands to a surface -/

namespace HubCommand

/-- What the command carries as JSON is in order. -/
def IsOrdered : HubCommand → Prop
  | .answer _ _ body => body.IsOrdered
  | _ => True

theorem readTab_back (tab : Tab) :
    readTab .frame (Document.ofJson (.record [("curTab", tab.toJson)])) = .ok (.setTab tab) := by
  have draft : tabShape.read {} .frame (Document.ofJson (.record [("curTab", tab.toJson)])) =
      .ok { tab := some tab } := by
    refine readRecord_back rfl ?_
    rw [Document.ofMembers, readNamed_field rfl rfl (Tab.read_back .frame tab rfl)]
    rfl
  rw [readTab, draft]
  rfl

theorem readAnswer_back (id : UInt64) (status : UInt16) {body : Json} (ordered : body.IsOrdered) :
    readAnswer .frame (Document.ofJson (.record [("body", body), ("id", .ofWord id),
      ("status", .ofNat status.toNat)])) = .ok (.answer id status body) := by
  have roomy : Origin.frame.IsRoomy := rfl
  have draft : answerShape.read {} .frame (Document.ofJson (.record [("body", body),
      ("id", .ofWord id), ("status", .ofNat status.toNat)])) =
      .ok { id := some id, status := some status, body := some body } := by
    refine readRecord_back roomy ?_
    rw [Document.ofMembers, readNamed_field rfl rfl (readJson_ofJson roomy body ordered),
      Document.ofMembers, readNamed_field rfl rfl (readWord64_ofWord _ id),
      Document.ofMembers, readNamed_field rfl rfl (readWord16_ofNat _ status)]
    rfl
  rw [readAnswer, draft]
  rfl

theorem ofWire_toWire (command : HubCommand) (ordered : command.IsOrdered) :
    ofWire command.toWire = .ok command := by
  cases command with
  | focus =>
      have selected : chooseVariant known "focus" = .ok fun _ _ => .ok .focus := rfl
      refine Frame.read_record ?_ ?_ rfl selected rfl <;> simp [Table.findEntry, Table.eraseEntry]
  | close =>
      have selected : chooseVariant known "close" = .ok fun _ _ => .ok .close := rfl
      refine Frame.read_record ?_ ?_ rfl selected rfl <;> simp [Table.findEntry, Table.eraseEntry]
  | setTab tab =>
      have selected : chooseVariant known "setCurTab" = .ok readTab := rfl
      refine Frame.read_record ?_ ?_ ?_ selected (readTab_back tab) <;>
        simp [Table.findEntry, Table.eraseEntry]
  | answer id status body =>
      have selected : chooseVariant known "rpcResp" = .ok readAnswer := rfl
      refine Frame.read_record ?_ ?_ ?_ selected (readAnswer_back id status ordered) <;>
        simp [Table.findEntry, Table.eraseEntry]

def Draft.IsOrdered (draft : Draft) : Prop := ∀ body, draft.body = some body → body.IsOrdered

theorem ordered_of_readAnswer {origin : Origin} {document : Document} {command : HubCommand}
    (reads : readAnswer origin document = .ok command) : command.IsOrdered := by
  obtain ⟨draft, filled, reads⟩ := ok_of_bind reads
  obtain ⟨_, _, reads⟩ := ok_of_bind reads
  obtain ⟨_, _, reads⟩ := ok_of_bind reads
  obtain ⟨body, required, done⟩ := ok_of_bind reads
  cases done
  have keeps : ∀ inner, origin.enter = .ok inner → ∀ field ∈ answerShape.fields,
      field.Keeps inner document.parts Draft.IsOrdered := by
    intro inner _
    simp only [answerShape, List.forall_mem_cons]
    refine ⟨?_, ?_, ?_, nofun⟩
    · exact field_keeps fun _ _ _ _ _ before => before
    · exact field_keeps fun _ _ _ _ _ before => before
    · refine field_keeps fun _ item value _ read _ body there => ?_
      cases there
      exact (readJson_readable item read).ordered
  have holds : draft.IsOrdered := read_keeps keeps filled nofun
  exact holds body (eq_of_require required)

theorem ordered_of_known : ∀ entry ∈ known, ∀ document command,
    entry.2 .frame document = .ok command → command.IsOrdered := by
  simp only [known, List.forall_mem_cons]
  refine ⟨?focus, ?close, ?setTab, ?answer, nofun⟩
  all_goals intro document command reads
  case focus | close =>
    cases reads
    trivial
  case setTab =>
    obtain ⟨_, _, reads⟩ := ok_of_bind reads
    obtain ⟨_, _, done⟩ := ok_of_bind reads
    cases done
    trivial
  case answer =>
    exact ordered_of_readAnswer reads

end HubCommand

/-! ## Commands from a surface -/

namespace SurfaceCommand

def IsOrdered : SurfaceCommand → Prop
  | .openLogin _ backArgs _ => ∀ value, backArgs = some value → value.IsOrdered
  | .relay _ _ args => AreOrdered args
  | _ => True

/-- The command as the hub has it: arguments of null are no arguments. -/
def received : SurfaceCommand → SurfaceCommand
  | .openLogin backFunc backArgs tab => .openLogin backFunc (backArgs.bind present?) tab
  | command => command

theorem readOpen_back (build : Option Tab → SurfaceCommand) (tab : Option Tab) :
    readOpen build .frame (Document.ofJson (.record [("curTab", tabJson tab)])) =
      .ok (build tab) := by
  have draft : openShape.read {} .frame (Document.ofJson (.record [("curTab", tabJson tab)])) =
      .ok { tab := some tab } := by
    refine readRecord_back rfl ?_
    rw [Document.ofMembers, readNamed_field rfl rfl (readTab_back tab)]
    rfl
  rw [readOpen, draft]
  rfl

theorem readOpenLogin_back (backFunc : Option String) {backArgs : Option Json} (tab : Option Tab)
    (ordered : ∀ value, backArgs = some value → value.IsOrdered) :
    readOpenLogin .frame (Document.ofJson (.record [("backArgs", .ofOption id backArgs),
      ("backFunc", .ofOption .text backFunc), ("curTab", tabJson tab)])) =
      .ok (.openLogin backFunc (backArgs.bind present?) tab) := by
  have draft : openLoginShape.read {} .frame (Document.ofJson (.record
      [("backArgs", .ofOption id backArgs), ("backFunc", .ofOption .text backFunc),
        ("curTab", tabJson tab)])) =
      .ok { tab := some tab, backFunc := some backFunc,
            backArgs := some (backArgs.bind present?) } := by
    refine readRecord_back rfl ?_
    rw [Document.ofMembers, readNamed_field rfl rfl (readBackArgs_back ordered),
      Document.ofMembers, readNamed_field rfl rfl (readBackFunc_back backFunc),
      Document.ofMembers, readNamed_field rfl rfl (readTab_back tab)]
    rfl
  rw [readOpenLogin, draft]
  rfl

theorem readRelay_back (id : UInt64) (func : String) {args : List Json}
    (ordered : AreOrdered args) :
    readRelay .frame (Document.ofJson (.record [("args", .list args), ("funcName", .text func),
      ("id", .ofWord id)])) = .ok (.relay id func args) := by
  have roomy : Origin.frame.IsRoomy := rfl
  have draft : relayShape.read {} .frame (Document.ofJson (.record [("args", .list args),
      ("funcName", .text func), ("id", .ofWord id)])) =
      .ok { id := some id, func := some func, args := some args } := by
    refine readRecord_back roomy ?_
    rw [Document.ofMembers, readNamed_field rfl rfl (readJsons_back roomy ordered),
      Document.ofMembers, readNamed_field rfl rfl rfl,
      Document.ofMembers, readNamed_field rfl rfl (readWord64_ofWord _ id)]
    rfl
  rw [readRelay, draft]
  rfl

theorem readOpenNumbered_back {name : String} (build : UInt64 → Option Tab → SurfaceCommand)
    {id : UInt64} {tab : Option Tab} {fields : List (String × Json)}
    (filled : (openNumberedShape name).readNamed .frame {} (Document.ofMembers fields) =
      .ok { id := some id, tab := some tab }) :
    readOpenNumbered name build .frame (Document.ofJson (.record fields)) =
      .ok (build id tab) := by
  have draft : (openNumberedShape name).read {} .frame (Document.ofJson (.record fields)) =
    .ok { id := some id, tab := some tab } := readRecord_back rfl filled
  rw [readOpenNumbered, draft]
  rfl

theorem ofWire_toWire (command : SurfaceCommand) (ordered : command.IsOrdered) :
    ofWire command.toWire = .ok command.received := by
  cases command with
  | clearTab =>
      have selected : chooseVariant known "clearCurTab" = .ok fun _ _ => .ok .clearTab := rfl
      refine Frame.read_record ?_ ?_ rfl selected rfl <;> simp [Table.findEntry, Table.eraseEntry]
  | openLookup tab =>
      have selected : chooseVariant known "openPageGetBookmark" = .ok (readOpen .openLookup) := rfl
      refine Frame.read_record ?_ ?_ ?_ selected (readOpen_back .openLookup tab) <;>
        simp [Table.findEntry, Table.eraseEntry]
  | openTags tab =>
      have selected : chooseVariant known "openPageTagsTree" = .ok (readOpen .openTags) := rfl
      refine Frame.read_record ?_ ?_ ?_ selected (readOpen_back .openTags tab) <;>
        simp [Table.findEntry, Table.eraseEntry]
  | openBookmark id tab =>
      have selected : chooseVariant known "openPageEditBookmarks" =
        .ok (readOpenNumbered "bkmId" .openBookmark) := rfl
      have filled : (openNumberedShape "bkmId").readNamed .frame {} (Document.ofMembers
          [("bkmId", .ofWord id), ("curTab", tabJson tab)]) =
          .ok { id := some id, tab := some tab } := by
        rw [Document.ofMembers, readNamed_field rfl rfl (readWord64_ofWord _ id),
          Document.ofMembers, readNamed_field rfl rfl (readTab_back tab)]
        rfl
      refine Frame.read_record ?_ ?_ ?_ selected (readOpenNumbered_back .openBookmark filled) <;>
        simp [Table.findEntry, Table.eraseEntry]
  | openTag id tab =>
      have selected : chooseVariant known "openPageEditTag" =
        .ok (readOpenNumbered "tagId" .openTag) := rfl
      have filled : (openNumberedShape "tagId").readNamed .frame {} (Document.ofMembers
          [("curTab", tabJson tab), ("tagId", .ofWord id)]) =
          .ok { id := some id, tab := some tab } := by
        rw [Document.ofMembers, readNamed_field rfl rfl (readTab_back tab),
          Document.ofMembers, readNamed_field rfl rfl (readWord64_ofWord _ id)]
        rfl
      refine Frame.read_record ?_ ?_ ?_ selected (readOpenNumbered_back .openTag filled) <;>
        simp [Table.findEntry, Table.eraseEntry]
  | openLogin backFunc backArgs tab =>
      have selected : chooseVariant known "openPageLogin" = .ok readOpenLogin := rfl
      refine Frame.read_record ?_ ?_ ?_ selected (readOpenLogin_back backFunc tab ordered) <;>
        simp [Table.findEntry, Table.eraseEntry]
  | relay id func args =>
      have selected : chooseVariant known "sendViaRPC" = .ok readRelay := rfl
      refine Frame.read_record ?_ ?_ ?_ selected (readRelay_back id func ordered) <;>
        simp [Table.findEntry, Table.eraseEntry]

/-- What is read into a draft is in order, and no null is taken for arguments. -/
structure Draft.IsOrdered (draft : Draft) : Prop where
  backArgs : ∀ value, draft.backArgs = some (some value) → value.IsOrdered ∧ value ≠ .null
  args : ∀ items, draft.args = some items → AreOrdered items

section Keeps
variable {origin : Origin} {documents : List Document}

theorem idField_keeps (name : String) :
    (idField name).Keeps origin documents Draft.IsOrdered :=
  field_keeps fun _ _ _ _ _ before => ⟨before.backArgs, before.args⟩

theorem tabField_keeps : tabField.Keeps origin documents Draft.IsOrdered :=
  field_keeps fun _ _ _ _ _ before => ⟨before.backArgs, before.args⟩

theorem openLoginShape_keeps : ∀ field ∈ openLoginShape.fields,
    field.Keeps origin documents Draft.IsOrdered := by
  simp only [openLoginShape, List.forall_mem_cons]
  refine ⟨?_, ?_, tabField_keeps, nofun⟩
  · exact field_keeps fun _ _ _ _ _ before => ⟨before.backArgs, before.args⟩
  · refine field_keeps fun _ item value _ read before => ⟨fun _ there => ?_, before.args⟩
    cases there
    obtain ⟨read, present⟩ := readJson_of_option read
    exact ⟨(readJson_readable item read).ordered, present⟩

theorem relayShape_keeps : ∀ field ∈ relayShape.fields,
    field.Keeps origin documents Draft.IsOrdered := by
  simp only [relayShape, List.forall_mem_cons]
  refine ⟨idField_keeps "id", ?_, ?_, nofun⟩
  · exact field_keeps fun _ _ _ _ _ before => ⟨before.backArgs, before.args⟩
  · refine field_keeps fun _ item values _ read before => ⟨before.backArgs, fun _ there => ?_⟩
    cases there
    exact areOrdered_iff.2 (readList_all (fun _ item _ read =>
      (readJson_readable item read).ordered) read)

end Keeps

/-- A command as it is read: in order, and without arguments of null. -/
def IsReceived (command : SurfaceCommand) : Prop :=
  command.IsOrdered ∧ command.received = command

section Read
variable {origin : Origin} {document : Document} {command : SurfaceCommand}

theorem received_of_readOpenLogin (reads : readOpenLogin origin document = .ok command) :
    command.IsReceived := by
  obtain ⟨draft, filled, done⟩ := ok_of_bind reads
  cases done
  have holds : draft.IsOrdered :=
    read_keeps (fun _ _ => openLoginShape_keeps) filled ⟨nofun, nofun⟩
  cases found : draft.backArgs.getD none with
  | none => exact ⟨nofun, rfl⟩
  | some value =>
      have there : draft.backArgs = some (some value) := by
        cases given : draft.backArgs with
        | none =>
            rw [given] at found
            cases found
        | some other =>
            rw [given] at found
            exact congrArg some found
      obtain ⟨ordered, present⟩ := holds.backArgs value there
      refine ⟨fun other same => ?_, ?_⟩
      · cases same
        exact ordered
      · simp only [received, Option.bind_some, present?_of_ne present]

theorem received_of_readRelay (reads : readRelay origin document = .ok command) :
    command.IsReceived := by
  obtain ⟨draft, filled, reads⟩ := ok_of_bind reads
  obtain ⟨_, _, reads⟩ := ok_of_bind reads
  obtain ⟨_, _, done⟩ := ok_of_bind reads
  cases done
  have holds : draft.IsOrdered :=
    read_keeps (fun _ _ => relayShape_keeps) filled ⟨nofun, nofun⟩
  refine ⟨?_, rfl⟩
  cases found : draft.args with
  | none => trivial
  | some items => exact holds.args items found

theorem received_of_known : ∀ entry ∈ known, ∀ document command,
    entry.2 .frame document = .ok command → command.IsReceived := by
  simp only [known, List.forall_mem_cons]
  refine ⟨?clear, ?lookup, ?tags, ?bookmark, ?tag, ?login, ?relay, nofun⟩
  all_goals intro document command reads
  case clear =>
    cases reads
    exact ⟨trivial, rfl⟩
  case lookup | tags =>
    obtain ⟨_, _, done⟩ := ok_of_bind reads
    cases done
    exact ⟨trivial, rfl⟩
  case bookmark | tag =>
    obtain ⟨_, _, reads⟩ := ok_of_bind reads
    obtain ⟨_, _, done⟩ := ok_of_bind reads
    cases done
    exact ⟨trivial, rfl⟩
  case login => exact received_of_readOpenLogin reads
  case relay => exact received_of_readRelay reads

end Read

end SurfaceCommand

/-! ## Both directions -/

/-- Commands go over a channel unchanged, save that arguments of null are lost, and nothing is
taken for one but an object whose type is the text `cmd`. -/
structure CommandsReadBack : Prop where
  hub : ∀ command : HubCommand, command.IsOrdered →
    HubCommand.ofWire command.toWire = .ok command
  surface : ∀ command : SurfaceCommand, command.IsOrdered →
    SurfaceCommand.ofWire command.toWire = .ok command.received
  hubAgain : ∀ frame command, HubCommand.ofWire frame = .ok command →
    HubCommand.ofWire command.toWire = .ok command
  surfaceAgain : ∀ frame command, SurfaceCommand.ofWire frame = .ok command →
    SurfaceCommand.ofWire command.toWire = .ok command
  hubTyped : ∀ frame command, HubCommand.ofWire frame = .ok command →
    ∃ members, frame = .record members ∧ Table.findEntry "type" members = some (.text "cmd")
  surfaceTyped : ∀ frame command, SurfaceCommand.ofWire frame = .ok command →
    ∃ members, frame = .record members ∧ Table.findEntry "type" members = some (.text "cmd")
  refused : ∀ frame : Json, frame.member? "type" ≠ some (.text "cmd") →
    HubCommand.ofWire frame = .error (.unsupportedType (frame.member? "type")) ∧
    SurfaceCommand.ofWire frame = .error (.unsupportedType (frame.member? "type"))

theorem commands_read_back : CommandsReadBack where
  hub command ordered := command.ofWire_toWire ordered
  surface command ordered := command.ofWire_toWire ordered
  hubAgain frame command accepted := by
    obtain ⟨entry, listed, document, reads⟩ := Frame.known_of_read accepted
    exact command.ofWire_toWire (HubCommand.ordered_of_known entry listed document command reads)
  surfaceAgain frame command accepted := by
    obtain ⟨entry, listed, document, reads⟩ := Frame.known_of_read accepted
    obtain ⟨ordered, same⟩ :=
      SurfaceCommand.received_of_known entry listed document command reads
    have again := command.ofWire_toWire ordered
    rwa [same] at again
  hubTyped _ _ accepted := Frame.typed_of_read accepted
  surfaceTyped _ _ accepted := Frame.typed_of_read accepted
  refused _ other := ⟨Frame.read_of_other_type other, Frame.read_of_other_type other⟩

end BookmarkHub
