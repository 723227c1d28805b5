import BookmarkHub.CommandLine.Run
import BookmarkHub.Proofs.Settings.Saving

/-!
# Loaded settings

Each field of loaded settings is what the variables say of it, or else what the
file says, or else the default.  Only valid settings are loaded, a file need not
be valid by itself, and settings that are saved and loaded again under the same
variables are the same.  When nothing can be loaded, nothing is done.
-/

set_option autoImplicit false

namespace BookmarkHub

namespace Settings

variable {bindings : Variables} {path : String} {file : Option StoredFile} {settings : Settings}

/-! ## Layers -/

/-- What the variables say of the server. -/
def serverOf (bindings : Variables) : Option String := bindings.lookup "GEEKMARKS_SERVER"

def secureOf (bindings : Variables) : Option Bool :=
  (bindings.lookup "GEEKMARKS_SERVER_SSL").map ["1", "true", "yes"].contains

/-- What the variables say of the pacing delay, unless it is no word.  A delay of zero is none. -/
def pacingOf (bindings : Variables) : Option (Option UInt64) :=
  ((bindings.lookup "GEEKMARKS_PACING_DELAY_MS").bind Decimal.readWord?).map fun delay =>
    if delay > 0 then some delay else none

def draftOf (path : String) : Option StoredFile → Except FileError Draft
  | none => .ok {}
  | some file => StoredFile.readJson (shape.read {}) "config" path (some file)

/-- The settings of which the variables say the most, a file the rest, and the defaults what is
still missing. -/
def layered (bindings : Variables) (given : Draft) : Settings where
  server := ((serverOf bindings).or given.server).getD (defaults (.ofVariables bindings)).server
  secure := ((secureOf bindings).or given.secure).getD (defaults (.ofVariables bindings)).secure
  pacing := ((pacingOf bindings).or given.pacing).getD none
  reconnect := given.reconnect.getD {}
  window := given.window.getD {}

def Draft.settle (given : Draft) (environment : Environment) : Settings where
  server := given.server.getD (defaults environment).server
  secure := given.secure.getD (defaults environment).secure
  pacing := given.pacing.getD (defaults environment).pacing
  reconnect := given.reconnect.getD (defaults environment).reconnect
  window := given.window.getD (defaults environment).window

theorem override_eq (bindings : Variables) (settings : Settings) :
    override bindings settings =
      { settings with
        server := (serverOf bindings).getD settings.server
        secure := (secureOf bindings).getD settings.secure
        pacing := (pacingOf bindings).getD settings.pacing } := by
  have chosen : ["1", "true", "yes"].contains =
      fun choice : String => choice == "1" || choice == "true" || choice == "yes" := by
    funext choice
    simp only [List.contains_cons, List.contains_nil, Bool.or_false, Bool.or_assoc]
  unfold override serverOf secureOf pacingOf
  rw [chosen]
  cases bindings.lookup "GEEKMARKS_SERVER_SSL" <;>
    cases (bindings.lookup "GEEKMARKS_PACING_DELAY_MS").bind Decimal.readWord? <;> rfl

theorem override_idem (bindings : Variables) (settings : Settings) :
    override bindings (override bindings settings) = override bindings settings := by
  simp only [override_eq]
  cases serverOf bindings <;> cases secureOf bindings <;> cases pacingOf bindings <;> rfl

theorem layered_eq (bindings : Variables) (given : Draft) :
    layered bindings given = override bindings (given.settle (.ofVariables bindings)) := by
  have usual : (defaults (.ofVariables bindings)).pacing = none ∧
      (defaults (.ofVariables bindings)).reconnect = {} ∧
      (defaults (.ofVariables bindings)).window = {} := by
    unfold defaults
    split <;> exact ⟨rfl, rfl, rfl⟩
  obtain ⟨pacing, reconnect, window⟩ := usual
  rw [override_eq, layered, Draft.settle, pacing, reconnect, window]
  cases serverOf bindings <;> cases secureOf bindings <;> cases pacingOf bindings <;> rfl

/-! ## Loading -/

theorem ofText_settle (environment : Environment) (text : String) :
    Json.ofText (read environment) text =
      (Json.ofText (shape.read {}) text).map (Draft.settle · environment) := by
  have reads (document : Json.Document) : read environment .ofText document =
      (shape.read {} .ofText document).map (Draft.settle · environment) := by
    unfold read
    cases shape.read {} .ofText document <;> rfl
  simp only [Json.ofText, reads]
  cases shape.read {} .ofText (Json.Document.ofText text).1 with
  | error error => rfl
  | ok given =>
      show (if _ then _ else _) = Except.map _ (if _ then _ else _)
      split <;> rfl

theorem ofFile_settle (environment : Environment) (path : String) (file : StoredFile) :
    ofFile environment path (some file) =
      (draftOf path (some file)).map (Draft.settle · environment) := by
  obtain ⟨content, mode⟩ := file
  cases content with
  | bytes bytes => rfl
  | text text =>
      show (Json.ofText (read environment) text).mapError _ =
        ((Json.ofText (shape.read {}) text).mapError _).map _
      rw [ofText_settle]
      cases Json.ofText (shape.read {}) text <;> rfl

/-- What a file says, overridden by the variables, is loaded if it is valid. -/
theorem load_eq (bindings : Variables) (path : String) (file : Option StoredFile) :
    load bindings path file =
      match draftOf path file with
      | .error error => .error (.file error)
      | .ok given => ((layered bindings given).validate.mapError .invalid).map
          fun _ => layered bindings given := by
  cases file with
  | none =>
      show _ = ((layered bindings {}).validate.mapError LoadError.invalid).map _
      rw [layered_eq]
      rfl
  | some file =>
      unfold load
      simp only [ofFile_settle]
      cases draftOf path (some file) with
      | error error => rfl
      | ok given =>
          simp only [layered_eq]
          rfl

theorem load_eq_ok : load bindings path file = .ok settings ↔
    ∃ given, draftOf path file = .ok given ∧ settings = layered bindings given ∧
      settings.validate = .ok () := by
  rw [load_eq]
  cases draftOf path file with
  | error error => exact ⟨nofun, nofun⟩
  | ok given =>
      dsimp only
      constructor
      · intro loaded
        cases valid : (layered bindings given).validate with
        | error error =>
            rw [valid] at loaded
            cases loaded
        | ok =>
            rw [valid] at loaded
            cases loaded
            exact ⟨given, rfl, rfl, valid⟩
      · rintro ⟨other, same, rfl, valid⟩
        cases same
        rw [valid]
        rfl

theorem load_of_ofFile {file : StoredFile} {stored : Settings}
    (reads : ofFile (.ofVariables bindings) path (some file) = .ok stored) :
    load bindings path (some file) =
      ((override bindings stored).validate.mapError .invalid).map
        fun _ => override bindings stored := by
  unfold load
  simp only [reads]
  rfl

theorem ofFile_back (environment : Environment) (path : String) (settings : Settings) :
    ofFile environment path (some (.confidential settings.toJson.toIndentedText)) =
      .ok settings := by
  rw [ofFile, StoredFile.readJson_eq_ok]
  exact ⟨_, _, rfl, ofText_back environment settings⟩

theorem validate_congr {other : Settings} (server : settings.server = other.server)
    (reconnect : settings.reconnect = other.reconnect) : settings.validate = other.validate := by
  rw [validate, validate, server, reconnect]

/-! ## Variables that say nothing -/

def unset (name : String) (bindings : Variables) : Variables := bindings.filter (·.1 != name)

theorem lookup_binding (other name value : String) (rest : Variables) :
    List.lookup other ((name, value) :: rest) =
      if other = name then some value else rest.lookup other := by
  by_cases same : other = name
  · rw [if_pos same, same, List.lookup_cons_self]
  · rw [if_neg same, List.lookup_cons, beq_false_of_ne same]

theorem lookup_unset (name other : String) (bindings : Variables) :
    (unset name bindings).lookup other = if other = name then none else bindings.lookup other := by
  induction bindings with
  | nil => simp [unset]
  | cons binding rest ih =>
      obtain ⟨bound, value⟩ := binding
      unfold unset at ih ⊢
      by_cases gone : bound = name
      · rw [List.filter_cons_of_neg (by simp [gone]), ih, lookup_binding, gone]
        by_cases same : other = name <;> simp only [same, if_true, if_false]
      · rw [List.filter_cons_of_pos (by simp [gone]), lookup_binding, lookup_binding, ih]
        by_cases same : other = bound
        · rw [if_pos same, if_pos same, if_neg (same ▸ gone)]
        · rw [if_neg same, if_neg same]

theorem layered_unset (unread : pacingOf bindings = none) (given : Draft) :
    layered (unset "GEEKMARKS_PACING_DELAY_MS" bindings) given = layered bindings given := by
  have environment : Environment.ofVariables (unset "GEEKMARKS_PACING_DELAY_MS" bindings) =
      Environment.ofVariables bindings := by
    rw [Environment.ofVariables, Environment.ofVariables, lookup_unset, if_neg (by decide)]
  have server : serverOf (unset "GEEKMARKS_PACING_DELAY_MS" bindings) = serverOf bindings := by
    rw [serverOf, serverOf, lookup_unset, if_neg (by decide)]
  have secure : secureOf (unset "GEEKMARKS_PACING_DELAY_MS" bindings) = secureOf bindings := by
    rw [secureOf, secureOf, lookup_unset, if_neg (by decide)]
  have pacing : pacingOf (unset "GEEKMARKS_PACING_DELAY_MS" bindings) = none := by
    rw [pacingOf, lookup_unset, if_pos rfl]
    rfl
  rw [layered, layered, environment, server, secure, pacing, unread]

/-! ## All that is loaded -/

/-- What can be said of a load, whatever the variables and the file are.  Each field is what the
variables say, or else what the file says, or else the default; a delay that is no word is passed
over.  Without settings the command line does nothing but complain. -/
structure LoadsSafely (bindings : Variables) (path : String) (file : Option StoredFile) : Prop where
  loaded : ∀ settings, load bindings path file = .ok settings ↔
    ∃ given, draftOf path file = .ok given ∧ settings = layered bindings given ∧
      settings.validate = .ok ()
  unread : ∀ delay, bindings.lookup "GEEKMARKS_PACING_DELAY_MS" = some delay →
    Decimal.readWord? delay = none →
      load (unset "GEEKMARKS_PACING_DELAY_MS" bindings) path file = load bindings path file
  stable : ∀ settings, load bindings path file = .ok settings →
    ∀ fresh, ∃ saved, settings.saveTo fresh file = (.ok (), some saved) ∧
      load bindings path (some saved) = .ok settings
  rescued : ∀ stored server, ofFile (.ofVariables bindings) path file = .ok stored →
    bindings.lookup "GEEKMARKS_SERVER" = some server →
    validate { stored with server } = .ok () →
      ∃ settings, load bindings path file = .ok settings ∧ settings.server = server
  failed : ∀ error, load bindings path file = .error error →
    ∀ directory, path = directory ++ "/config.json" → ∀ credentials task moments,
      CommandLine.run task ⟨bindings, directory, file, credentials⟩ moments =
        { exit := { complaint := some (.settings error) }
          world := ⟨bindings, directory, file, credentials⟩ }

theorem loads_safely (bindings : Variables) (path : String) (file : Option StoredFile) :
    LoadsSafely bindings path file where
  loaded settings := load_eq_ok
  unread delay bound noWord := by
    have silent : pacingOf bindings = none := by
      rw [pacingOf, bound, Option.bind_some, noWord]
      rfl
    simp only [load_eq, layered_unset silent]
  stable settings loaded fresh := by
    obtain ⟨given, _, layers, valid⟩ := load_eq_ok.1 loaded
    have saves : settings.save = .ok (.confidential settings.toJson.toIndentedText) := by
      rw [save, valid]
      rfl
    have again : override bindings settings = settings := by
      rw [layers, layered_eq, override_idem]
    refine ⟨.confidential settings.toJson.toIndentedText, by rw [saveTo_eq, saves], ?_⟩
    rw [load_of_ofFile (ofFile_back _ path settings), again, valid]
    rfl
  rescued stored server reads bound valid := by
    obtain ⟨text, mode, rfl, _⟩ := StoredFile.readJson_eq_ok.1 reads
    have named : (override bindings stored).server = server := by
      rw [override_eq, serverOf, bound, Option.getD_some]
    have fine : (override bindings stored).validate = .ok () := by
      rw [← valid]
      exact validate_congr named rfl
    refine ⟨override bindings stored, ?_, named⟩
    rw [load_of_ofFile reads, fine]
    rfl
  failed error fails directory same credentials task moments := by
    subst same
    rw [CommandLine.run, CommandLine.plan, fails]
    rfl

end Settings

end BookmarkHub
