import BookmarkHub.CommandLine.Run
import BookmarkHub.Proofs.CommandLine.Delivery
import BookmarkHub.Proofs.SignIn.Logins
import BookmarkHub.Proofs.SignIn.Stores

/-!
# Commands that ask the server

Four commands ask the server something.  Without settings and a token they only
complain; with both they send one request, and how they end tells truthfully
whether it was answered.  They leave the files of the user as they are.
-/

set_option autoImplicit false

namespace BookmarkHub.CommandLine

inductive Asks (given : Given) : CommandName → Operation → Prop where
  | tags (pattern : String) (words : given.words = [pattern]) :
      Asks given .tags (.tagsByPattern pattern given.allowNew)
  | tree : Asks given .tree .tagTree
  | bookmarksByUrl (url : String) (named : given.url = some url) (untagged : given.tags = []) :
      Asks given .bookmarks (.bookmarksByUrl url)
  | bookmarksByTags (unnamed : given.url = none) (tagged : given.tags ≠ []) :
      Asks given .bookmarks (.taggedBookmarks given.tags)
  | bookmark (word : String) (id : UInt64) (words : given.words = [word])
      (number : Decimal.readWord? word = some id) : Asks given .bookmark (.oneBookmark id)

def CommandName.asks : CommandName → Bool
  | .tags | .tree | .bookmarks | .bookmark => true
  | .setToken | .logout | .config => false

theorem asks_of_task {command : CommandName} {given : Given} {timeout : Option UInt64}
    {task : Task} (asking : command.asks = true) (reads : given.task? command timeout = some task) :
    ∃ operation seconds, task = .ask operation seconds ∧ Asks given command operation := by
  unfold Given.task? at reads
  split at reads
  · rename_i pattern words
    cases reads
    exact ⟨_, _, rfl, .tags pattern words⟩
  · cases reads
    exact ⟨_, _, rfl, .tree⟩
  · split at reads
    · rename_i url named untagged
      cases reads
      exact ⟨_, _, rfl, .bookmarksByUrl url named untagged⟩
    · rename_i tag tags unnamed tagged
      cases reads
      exact ⟨_, _, rfl, tagged ▸ .bookmarksByTags unnamed (by simp [tagged])⟩
    · cases reads
  · rename_i word words
    obtain ⟨id, number, rfl⟩ := Option.map_eq_some_iff.1 reads
    exact ⟨_, _, rfl, .bookmark word id words number⟩
  all_goals first | cases asking | cases reads

/-! ## What is needed -/

/-- The token that is kept in the file of the user. -/
def World.Keeps (world : World) (token : String) : Prop :=
  token ≠ "" ∧ ∃ text mode, world.credentials = some ⟨.text text, mode⟩ ∧
    Json.ofText Credentials.read text = .ok ⟨some token⟩

def World.IsReady (world : World) (settings : Settings) (token : String) : Prop :=
  Settings.load world.bindings (world.directory ++ "/config.json") world.settings = .ok settings ∧
    world.Keeps token

section Plan
variable {world : World} {settings : Settings} {token : String}

theorem token_kept :
    SignIn.loggedInToken world.store { store := world.credentials } = .ok (some token) ↔
      world.Keeps token := by
  constructor
  · intro logged
    unfold SignIn.loggedInToken at logged
    split at logged
    · cases logged
    · rename_i stored got
      obtain ⟨credentials, rfl, holds⟩ := Option.bind_eq_some_iff.1 (Except.ok.inj logged)
      obtain ⟨holds, nonempty⟩ := Credentials.token_eq_some.1 holds
      cases there : world.credentials with
      | none =>
          rw [there] at got
          cases got
      | some file =>
          rw [there] at got
          obtain ⟨other, read, same⟩ := CredentialStore.file_get_eq_ok.1 got
          obtain ⟨text, mode, content, decoded⟩ := StoredFile.readJson_eq_ok.1 read
          cases same
          cases content
          have whole : credentials = ⟨some token⟩ := by rw [← holds]
          exact ⟨nonempty, text, mode, there, whole ▸ decoded⟩
  · rintro ⟨nonempty, text, mode, there, decoded⟩
    have got : world.store.get world.credentials = .ok (some ⟨some token⟩) := by
      rw [there]
      refine CredentialStore.file_get_eq_ok.2 ⟨_, ?_, rfl⟩
      exact StoredFile.readJson_eq_ok.2 ⟨text, mode, rfl, decoded⟩
    have holds : Credentials.token ⟨some token⟩ = some token :=
      Credentials.token_eq_some.2 ⟨rfl, nonempty⟩
    simp only [SignIn.loggedInToken, got, Option.bind_some, holds]

theorem plan_of_ready (operation : Operation) (seconds : Nat)
    (ready : world.IsReady settings token) :
    plan (.ask operation seconds) world = (.ask operation seconds settings token, world) := by
  simp only [plan, ready.1, planWith, token_kept.2 ready.2]

theorem plan_of_unready (operation : Operation) (seconds : Nat)
    (unready : ∀ settings token, ¬ world.IsReady settings token) :
    ∃ complaint, plan (.ask operation seconds) world =
      (.exit { complaint := some complaint }, world) := by
  cases loaded :
      Settings.load world.bindings (world.directory ++ "/config.json") world.settings with
  | error error => exact ⟨.settings error, by simp only [plan, loaded, complain]⟩
  | ok settings =>
      cases logged : SignIn.loggedInToken world.store { store := world.credentials } with
      | error error =>
          exact ⟨.signIn error, by simp only [plan, loaded, planWith, logged, complain]⟩
      | ok found =>
          cases found with
          | none => exact ⟨.notLoggedIn, by simp only [plan, loaded, planWith, logged, complain]⟩
          | some token => exact absurd ⟨loaded, token_kept.1 logged⟩ (unready settings token)

end Plan

/-! ## How it ends -/

structure Told (settings : Settings) (operation : Operation) (moments : List QueryMoment)
    (query : QueryRun) (exit : Exit) : Prop
    extends Query.Reliable (.ofSettings settings) operation moments query where
  succeeds : exit.status = 0 ↔ ∃ response : Response, response.status = 200 ∧
    Query.Delivers (Query.begun (.ofSettings settings) operation) moments response
  printed : ∀ response,
    Query.Delivers (Query.begun (.ofSettings settings) operation) moments response →
      exit.output = [response.body.toIndentedText]
  silent : (∀ response,
    ¬ Query.Delivers (Query.begun (.ofSettings settings) operation) moments response) →
      exit.output = []

/-- What can be said of a command that asks, whatever the user's files and the server are. -/
structure Truthful (operation : Operation) (world : World) (moments : List QueryMoment)
    (finished : Finished) : Prop where
  unasked : (∀ settings token, ¬ world.IsReady settings token) →
    finished.query = none ∧ finished.address = none ∧ finished.exit.status = 1 ∧
      finished.exit.output = []
  asked : ∀ settings token, world.IsReady settings token →
    ∃ query, finished.query = some query ∧
      finished.address = some (settings.socketUrl token) ∧
      Told settings operation moments query finished.exit
  untouched : finished.world = world

theorem conclude_status (operation : Operation) (response : Response) :
    (conclude operation (.ok response)).status = 0 ↔ response.status = 200 := by
  by_cases success : response.status = 200 <;>
    simp [conclude, Exit.status, Exit.isSuccess, Response.isSuccess, success]

theorem conclude_told {settings : Settings} {operation : Operation}
    {moments : List QueryMoment} {query : QueryRun}
    (reliable : Query.Reliable (.ofSettings settings) operation moments query) :
    Told settings operation moments query (conclude operation query.outcome) := by
  have answered := reliable.answered
  refine { reliable with succeeds := ?_, printed := ?_, silent := ?_ }
  · constructor
    · intro success
      cases outcome : query.outcome with
      | error failure =>
          rw [outcome] at success
          cases success
      | ok response =>
          rw [outcome] at success
          refine ⟨response, ?_, (answered response).1 outcome⟩
          exact (conclude_status operation response).1 success
    · rintro ⟨response, success, delivers⟩
      rw [(answered response).2 delivers]
      exact (conclude_status operation response).2 success
  · intro response delivers
    rw [(answered response).2 delivers]
    rfl
  · intro undelivered
    cases outcome : query.outcome with
    | error failure => rfl
    | ok response => exact absurd ((answered response).1 outcome) (undelivered response)

theorem run_truthful (operation : Operation) (seconds : Nat) (world : World)
    (moments : List QueryMoment) :
    Truthful operation world moments (run (.ask operation seconds) world moments) := by
  by_cases ready : ∃ settings token, world.IsReady settings token
  · obtain ⟨settings, token, ready⟩ := ready
    have ran : run (.ask operation seconds) world moments =
        let query := Query.run (.ofSettings settings) operation (seconds * 1000) moments
        { exit := conclude operation query.outcome
          world
          query := some query
          address := some (settings.socketUrl token) } := by
      rw [run, plan_of_ready operation seconds ready]
      rfl
    rw [ran]
    refine ⟨fun unready => absurd ready (unready settings token), ?_, rfl⟩
    intro others another alsoReady
    have same := (plan_of_ready operation seconds ready).symm.trans
      (plan_of_ready operation seconds alsoReady)
    cases same
    have reliable := Query.run_reliable (.ofSettings settings) operation (seconds * 1000) moments
    exact ⟨_, rfl, rfl, conclude_told reliable⟩
  · have unready : ∀ settings token, ¬ world.IsReady settings token :=
      fun settings token holds => ready ⟨settings, token, holds⟩
    obtain ⟨complaint, planned⟩ := plan_of_unready operation seconds unready
    have ran : run (.ask operation seconds) world moments =
        { exit := { complaint := some complaint }, world } := by
      rw [run, planned]
    rw [ran]
    refine ⟨fun _ => ⟨rfl, rfl, rfl, rfl⟩, ?_, rfl⟩
    intro settings token holds
    exact absurd holds (unready settings token)

/-- Of the commands that ask the server, each sends at most the request of its operation, and tells
the truth about what came of it. -/
theorem queries_truthful (command : CommandName) (asking : command.asks = true) (given : Given)
    (timeout : Option UInt64) (task : Task) (reads : given.task? command timeout = some task)
    (world : World) (moments : List QueryMoment) :
    ∃ operation seconds, task = .ask operation seconds ∧ Asks given command operation ∧
      Truthful operation world moments (run task world moments) := by
  obtain ⟨operation, seconds, rfl, asks⟩ := asks_of_task asking reads
  exact ⟨operation, seconds, rfl, asks, run_truthful operation seconds world moments⟩

def loggedInWorld : World :=
  ⟨[("GEEKMARKS_ENV", "test")], "cfg", none, some (.confidential "\x7b\"token\":\"t1\"\x7d")⟩

def answeredMoments : List QueryMoment :=
  let around := Surroundings.timely 0 0 fun _ => true
  [.command around, .command around, .event around .opened,
    .event around (.frame "\x7b\"id\":1,\"status\":200,\"body\":[]\x7d")]

theorem loggedInWorld_ready :
    loggedInWorld.IsReady (Settings.defaults .test) "t1" :=
  ⟨rfl, by decide, _, _, rfl, by decide +kernel⟩

theorem answered_outcome :
    (Query.run (.ofSettings (Settings.defaults .test)) .tagTree (30 * 1000)
      answeredMoments).outcome = .ok { id := 1, status := 200, body := .list [] } := by
  with_unfolding_all rfl

theorem tree_truthful :
    (run (.ask .tagTree 30) loggedInWorld answeredMoments).exit = { output := ["[]"] } ∧
      ∃ operation seconds, Task.ask .tagTree 30 = .ask operation seconds ∧
        Asks {} .tree operation ∧
        Truthful operation loggedInWorld answeredMoments
          (run (.ask .tagTree 30) loggedInWorld answeredMoments) := by
  constructor
  · rw [run, plan_of_ready .tagTree 30 loggedInWorld_ready]
    exact congrArg (conclude .tagTree) answered_outcome
  · exact queries_truthful .tree rfl {} none _ rfl loggedInWorld answeredMoments

end BookmarkHub.CommandLine
