import BookmarkHub.Proofs.Json.Indented
import BookmarkHub.Proofs.Json.Records
import BookmarkHub.Settings.File

/-!
# Saved settings

Settings that were saved are read back as they were, whatever environment they
are read in: every field is written, except a pacing delay that is absent, and
that one is absent by default everywhere.  Invalid settings do not touch the
file.
-/

set_option autoImplicit false

namespace BookmarkHub

open Json

/-! ## Parts of settings -/

section Parts
variable {origin inner : Origin} (entered : origin.enter = .ok inner)
include entered

theorem WindowSize.read_back (otherwise size : WindowSize) :
    read otherwise origin (Document.ofJson size.toJson) = .ok size := by
  have width := readWord32_ofNat inner size.width
  have height := readWord32_ofNat inner size.height
  have draft : shape.read {} origin (Document.ofJson size.toJson) =
      .ok ⟨some size.width, some size.height⟩ := by
    refine readRecord_back entered ?_
    rw [Document.ofMembers, readNamed_field rfl rfl width, Document.ofMembers,
      readNamed_field rfl rfl height]
    rfl
  rw [read, draft]
  rfl

theorem ReconnectPolicy.read_back (otherwise policy : ReconnectPolicy) :
    read otherwise origin (Document.ofJson policy.toJson) = .ok policy := by
  have initial := readWord64_ofWord inner policy.initialBackoff
  have maximal := readWord64_ofWord inner policy.maximalBackoff
  have draft : shape.read {} origin (Document.ofJson policy.toJson) =
      .ok ⟨some policy.automatic, some policy.initialBackoff, some policy.maximalBackoff⟩ := by
    refine readRecord_back entered ?_
    rw [Document.ofMembers, readNamed_field rfl rfl rfl, Document.ofMembers,
      readNamed_field rfl rfl initial, Document.ofMembers, readNamed_field rfl rfl maximal]
    rfl
  rw [read, draft]
  rfl

end Parts

theorem WindowSize.toJson_writable (size : WindowSize) : size.toJson.IsWritable := by
  have small (word : UInt32) : word.toNat < UInt64.size :=
    Nat.lt_trans word.toNat_lt_size (by decide)
  refine writable_record.2 ?_
  simp only [List.forall_mem_cons]
  exact ⟨ofNat_writable (small size.width), ofNat_writable (small size.height), nofun⟩

theorem ReconnectPolicy.toJson_writable (policy : ReconnectPolicy) :
    policy.toJson.IsWritable := by
  refine writable_record.2 ?_
  simp only [List.forall_mem_cons]
  exact ⟨nofun, ofWord_writable policy.initialBackoff, ofWord_writable policy.maximalBackoff,
    nofun⟩

/-! ## Settings -/

namespace Settings

def pacingMembers (settings : Settings) : List (String × Json) :=
  match settings.pacing with
  | none => []
  | some delay => [("pacing_delay_ms", .ofWord delay)]

theorem toJson_eq (settings : Settings) :
    settings.toJson = .record ([("server", .text settings.server),
      ("server_ssl", .bool settings.secure)] ++ settings.pacingMembers ++
      [("reconnect", settings.reconnect.toJson), ("window", settings.window.toJson)]) := rfl

theorem toJson_writable (settings : Settings) : settings.toJson.IsWritable := by
  rw [toJson_eq]
  refine writable_record.2 (List.forall_mem_append.2 ⟨List.forall_mem_append.2 ⟨?_, ?_⟩, ?_⟩)
  · simp only [List.forall_mem_cons]
    exact ⟨nofun, nofun, nofun⟩
  · unfold pacingMembers
    split
    · exact nofun
    · rename_i delay there
      exact List.forall_mem_singleton.2 (ofWord_writable delay)
  · simp only [List.forall_mem_cons]
    exact ⟨settings.reconnect.toJson_writable, settings.window.toJson_writable, nofun⟩

theorem readNamed_pacing {inner : Origin} {draft : Draft} (settings : Settings)
    (missing : draft.pacing = none) :
    shape.readNamed inner draft (Document.ofMembers settings.pacingMembers) =
      .ok { draft with pacing := settings.pacing.map some } := by
  unfold pacingMembers
  cases there : settings.pacing with
  | none =>
      cases draft
      cases missing
      rfl
  | some delay =>
      have reads : readOption readWord64 inner (Document.ofJson (ofWord delay)) =
          .ok (some delay) := by
        have word := readWord64_ofWord inner delay
        rw [readOption, word]
        · rfl
        · intro null
          cases null
      rw [Document.ofMembers, readNamed_field rfl missing reads]
      rfl

theorem read_back (environment : Environment) (settings : Settings) :
    read environment .ofText (Document.ofJson settings.toJson) = .ok settings := by
  have entered : Origin.ofText.enter = .ok (.text 126) := rfl
  have further : (Origin.text 126).enter = .ok (.text 125) := rfl
  have headed : shape.readNamed (.text 126) {} (Document.ofMembers [
      ("server", .text settings.server), ("server_ssl", .bool settings.secure)]) =
      .ok { server := some settings.server, secure := some settings.secure } := by
    rw [Document.ofMembers, readNamed_field rfl rfl rfl, Document.ofMembers,
      readNamed_field rfl rfl rfl]
    rfl
  have reconnect := ReconnectPolicy.read_back further {} settings.reconnect
  have window := WindowSize.read_back further {} settings.window
  have draft : shape.read {} .ofText (Document.ofJson settings.toJson) =
      .ok ⟨some settings.server, some settings.secure, settings.pacing.map some,
        some settings.reconnect, some settings.window⟩ := by
    rw [toJson_eq]
    refine readRecord_back entered ?_
    rw [ofMembers_append, ofMembers_append, List.append_assoc, readNamed_append headed,
      readNamed_append (readNamed_pacing settings rfl), Document.ofMembers,
      readNamed_field rfl rfl reconnect, Document.ofMembers, readNamed_field rfl rfl window]
    rfl
  have pacing : (settings.pacing.map some).getD (defaults environment).pacing =
      settings.pacing := by
    cases settings.pacing with
    | some delay => rfl
    | none =>
        unfold defaults
        split <;> rfl
  rw [read, draft]
  show Except.ok _ = Except.ok _
  simp only [Option.getD_some, pacing]

theorem ofText_back (environment : Environment) (settings : Settings) :
    ofText (read environment) settings.toJson.toIndentedText = .ok settings := by
  rw [ofText_indented _ _ settings.toJson_writable, read_back]

/-! ## Files -/

/-- What is saved in a file is what `save` makes of the settings, whatever was there before. -/
theorem saveTo_eq (fresh : Nat) (settings : Settings) (file : Option StoredFile) :
    settings.saveTo fresh file =
      match settings.save with
      | .error error => (.error error, file)
      | .ok saved => (.ok (), some saved) := by
  unfold saveTo save
  cases settings.validate <;> rfl

/-- Saving keeps either the settings or the file.  Invalid settings are refused; valid ones are in
a file of its owner, and whoever reads it gets them all. -/
structure SavesAll (settings : Settings) (fresh : Nat) (file : Option StoredFile) : Prop where
  refused : ∀ error, settings.validate = .error error →
    settings.saveTo fresh file = (.error error, file)
  saved : settings.validate = .ok () →
    ∃ saved, settings.saveTo fresh file = (.ok (), some saved) ∧ saved.mode = 0o600 ∧
      ∀ environment path, ofFile environment path (some saved) = .ok settings

theorem saving_keeps_all (settings : Settings) (fresh : Nat) (file : Option StoredFile) :
    SavesAll settings fresh file where
  refused error invalid := by
    rw [saveTo, invalid]
  saved valid := by
    refine ⟨.confidential settings.toJson.toIndentedText, ?_, rfl, ?_⟩
    · rw [saveTo, valid]
      rfl
    · intro environment path
      show (ofText (read environment) settings.toJson.toIndentedText).mapError _ = .ok settings
      rw [ofText_back]
      rfl

end Settings

end BookmarkHub
