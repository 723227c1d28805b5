import BookmarkHub.Proofs.Json.Reading
import BookmarkHub.SignIn.Client

/-!
# Logins and the store

A login writes the store once, when everything before has succeeded, and else
leaves it alone.  A store that is true to what is written holds what was written
last, and a client is opened exactly for a token in it that is not empty.
-/

set_option autoImplicit false

namespace BookmarkHub

theorem Credentials.token_eq_some {credentials : Credentials} {token : String} :
    credentials.token = some token ↔ credentials.stored = some token ∧ token ≠ "" := by
  simp [Credentials.token, Option.filter_eq_some_iff]

namespace CredentialStore

variable {State : Type}

/-- What is read is what is kept, and what is written is kept.  Both may fail. -/
structure IsFaithful (store : CredentialStore State) (kept : State → Option Credentials) :
    Prop where
  get : ∀ state stored, store.get state = .ok stored → stored = kept state
  set : ∀ state credentials next, store.set state credentials = .ok next →
    kept next = some credentials

theorem memory_faithful : memory.IsFaithful id where
  get _ _ read := (Except.ok.inj read).symm
  set _ _ _ written := (Except.ok.inj written).symm

/-- The state after an attempt to write: a write that fails changes nothing. -/
def after (store : CredentialStore State) (state : State) (credentials : Credentials) : State :=
  match store.set state credentials with
  | .ok next => next
  | .error _ => state

/-- The store with a list of what was written to it. -/
def recorded (store : CredentialStore State) : CredentialStore (State × List Credentials) where
  get kept := store.get kept.1
  set kept credentials :=
    (store.set kept.1 credentials).map fun next => (next, kept.2 ++ [credentials])

end CredentialStore

namespace SignIn

variable {State : Type} {settings : Settings} {store : CredentialStore State}
  {world : SignInWorld} {name token : String} {log : List SignInStep} {run : SignIn State}
  {action : Action} {credentials : Credentials}

/-! ## Tokens -/

/-- All the steps that give a token: the provider is known, there is a launcher, the server tells
its number with the provider, the user consents, and the server trades the code for the token. -/
inductive Obtains (world : SignInWorld) (name : String) (log : List SignInStep) (token : String) :
    Prop where
  | steps {provider : Provider} {launch : List SignInStep → Provider → String → Except String Grant}
      {client : String} {grant : Grant} (known : Provider.ofName? name = some provider)
      (launcher : world.launcher = some launch)
      (numbered : Exchange.clientId (world.web log (Exchange.clientIdRequest provider)) =
        .ok client)
      (consented : launch (log ++ [.exchange (Exchange.clientIdRequest provider)]) provider client =
        .ok grant)
      (traded : Exchange.token (world.web
        (log ++ [.exchange (Exchange.clientIdRequest provider), .launch provider client])
        (Exchange.tokenRequest provider grant.redirectUri grant.code)) = .ok token)

theorem obtainToken_of_obtains (obtains : Obtains world name log token) :
    (obtainToken world name log).1 = .ok token := by
  obtain ⟨known, launcher, numbered, consented, traded⟩ := obtains
  simp [obtainToken, clientId, authenticate, ask, known, launcher, numbered, consented, traded]

theorem obtains_of_obtainToken (obtained : (obtainToken world name log).1 = .ok token) :
    Obtains world name log token := by
  unfold obtainToken at obtained
  split at obtained
  · cases obtained
  · cases obtained
  · rename_i provider launch known launcher
    simp only [clientId, ask] at obtained
    cases numbered : Exchange.clientId (world.web log (Exchange.clientIdRequest provider)) with
    | error error =>
        rw [numbered] at obtained
        cases obtained
    | ok client =>
        simp only [numbered, mapError_ok] at obtained
        split at obtained
        · cases obtained
        · rename_i grant consented
          have traded := ok_of_mapError obtained
          rw [List.append_assoc] at traded
          exact .steps known launcher numbered consented traded

/-! ## Writes -/

inductive Wants (log : List SignInStep) : Action → Credentials → Prop where
  | login {world : SignInWorld} {name token : String} (obtains : Obtains world name log token) :
      Wants log (.login world name) (.ofToken token)
  | authenticated (token : String) : Wants log (.authenticated token) (.ofToken token)
  | logout : Wants log .logout {}

theorem keep_store {Value : Type} (next : SignIn State → Except SignInError Value) :
    (keep store run credentials next).2.store = store.after run.store credentials := by
  simp only [keep, CredentialStore.after]
  cases store.set run.store credentials <;> rfl

theorem login_of_obtains (obtains : Obtains world name run.log token) :
    login world store run name =
      authenticated store { run with log := (obtainToken world name run.log).2 } token := by
  have obtained := obtainToken_of_obtains obtains
  unfold login
  split
  · rename_i failed
    rw [failed] at obtained
    cases obtained
  · rename_i found
    rw [found] at obtained
    cases obtained
    rw [found]

/-- What an action means to keep is written once, and nothing else is. -/
theorem act_of_wants (wants : Wants run.log action credentials) :
    (act settings store action run).2.store = store.after run.store credentials := by
  cases wants with
  | login obtains =>
      simp only [act, login_of_obtains obtains]
      exact keep_store _
  | authenticated token => exact keep_store _
  | logout =>
      show (logout store run).2.store = _
      exact keep_store _

theorem login_fails (unobtained : ∀ token, ¬ Obtains world name run.log token) :
    (∃ error, (act settings store (.login world name) run).1 = .error error) ∧
      (act settings store (.login world name) run).2.store = run.store := by
  simp only [act, login]
  split
  · rename_i error _ _
    exact ⟨⟨error, rfl⟩, rfl⟩
  · rename_i token _ found
    exact absurd (obtains_of_obtainToken (congrArg Prod.fst found)) (unobtained token)

theorem act_of_unwanted (unwanted : ∀ credentials, ¬ Wants run.log action credentials) :
    (act settings store action run).2.store = run.store := by
  cases action with
  | login world name => exact (login_fails fun token obtains => unwanted _ (.login obtains)).2
  | authenticated token => exact absurd (.authenticated token) (unwanted _)
  | logout => exact absurd .logout (unwanted _)
  | create => rfl

/-! ## Runs -/

structure Moment (State : Type) where
  store : CredentialStore State
  action : Action

def next (settings : Settings) (run : SignIn State) (moment : Moment State) : SignIn State :=
  (act settings moment.store moment.action run).2

def written (settings : Settings) (run : SignIn State) (moment : Moment State) :
    List Credentials :=
  (act settings moment.store.recorded moment.action ⟨(run.store, []), run.log⟩).2.store.2

def history (settings : Settings) (run : SignIn State) (moments : List (Moment State)) :
    SignIn State :=
  moments.foldl (next settings) run

def writes (settings : Settings) : SignIn State → List (Moment State) → List Credentials
  | _, [] => []
  | run, moment :: later =>
      written settings run moment ++ writes settings (next settings run moment) later

/-- At every moment nothing is written, or once what the action means to keep. -/
theorem written_cases (run : SignIn State) (moment : Moment State) :
    (written settings run moment = [] ∧ (next settings run moment).store = run.store) ∨
      ∃ credentials, Wants run.log moment.action credentials ∧
        written settings run moment = [credentials] ∧
        moment.store.set run.store credentials = .ok (next settings run moment).store := by
  obtain ⟨store, action⟩ := moment
  by_cases unwanted : ∀ credentials, ¬ Wants run.log action credentials
  · exact .inl ⟨congrArg Prod.snd (act_of_unwanted unwanted), act_of_unwanted unwanted⟩
  · obtain ⟨credentials, wants⟩ := Classical.not_forall_not.1 unwanted
    have stored : (next settings run ⟨store, action⟩).store = store.after run.store credentials :=
      act_of_wants wants
    have recorded : written settings run ⟨store, action⟩ =
        (store.recorded.after (run.store, []) credentials).2 :=
      congrArg Prod.snd (act_of_wants wants)
    cases attempt : store.set run.store credentials with
    | error error =>
        refine .inl ⟨?_, ?_⟩
        · simp [recorded, CredentialStore.after, CredentialStore.recorded, attempt, Except.map]
        · simp [stored, CredentialStore.after, attempt]
    | ok state =>
        refine .inr ⟨credentials, wants, ?_, ?_⟩
        · simp [recorded, CredentialStore.after, CredentialStore.recorded, attempt, Except.map]
        · simp [stored, CredentialStore.after, attempt]

section Kept
variable {kept : State → Option Credentials}

theorem kept_next {moment : Moment State} (faithful : moment.store.IsFaithful kept)
    (run : SignIn State) :
    kept (next settings run moment).store =
      (written settings run moment).getLast?.or (kept run.store) := by
  obtain ⟨nothing, same⟩ | ⟨credentials, _, once, set⟩ := written_cases run moment
  · rw [nothing, same]
    rfl
  · rw [once, faithful.set _ _ _ set]
    rfl

theorem kept_history {moments : List (Moment State)}
    (faithful : ∀ moment ∈ moments, moment.store.IsFaithful kept) (run : SignIn State) :
    kept (history settings run moments).store =
      (writes settings run moments).getLast?.or (kept run.store) := by
  induction moments generalizing run with
  | nil => rfl
  | cons moment later ih =>
      obtain ⟨first, others⟩ := List.forall_mem_cons.1 faithful
      have rest : kept (history settings run (moment :: later)).store =
          (writes settings (next settings run moment) later).getLast?.or
            (kept (next settings run moment).store) := ih others _
      rw [rest, kept_next first, writes, List.getLast?_append, Option.or_assoc]

theorem create_of_get {stored : Option Credentials} (got : store.get run.store = .ok stored) :
    create settings store run =
      .ok ((stored.bind Credentials.token).map (OpenedClient.ofToken settings)) := by
  rw [create, loggedInToken, got]
  rfl

/-- A client is opened exactly for a token that is not empty, at the address with that token. -/
theorem create_iff (faithful : store.IsFaithful kept) {client : OpenedClient} :
    create settings store run = .ok (some client) ↔
      (∃ stored, store.get run.store = .ok stored) ∧
        ∃ token, (kept run.store).bind Credentials.stored = some token ∧ token ≠ "" ∧
          client = .ofToken settings token ∧ client.address = settings.socketUrl token := by
  cases got : store.get run.store with
  | error error => simp [create, loggedInToken, got, openWith, Except.map]
  | ok stored =>
      rw [← faithful.get _ _ got, create_of_get got, Except.ok.injEq, Option.map_eq_some_iff]
      simp only [Option.bind_eq_some_iff, Credentials.token_eq_some]
      constructor
      · rintro ⟨token, ⟨credentials, there, holds, nonempty⟩, rfl⟩
        exact ⟨⟨stored, rfl⟩, token, ⟨credentials, there, holds⟩, nonempty, rfl, rfl⟩
      · rintro ⟨_, token, ⟨credentials, there, holds⟩, nonempty, rfl, _⟩
        exact ⟨token, ⟨credentials, there, holds, nonempty⟩, rfl⟩

theorem next_of_logout (done : (act settings store .logout run).1 = .ok none) :
    store.set run.store {} = .ok (next settings run ⟨store, .logout⟩).store := by
  simp only [next, act, logout, keep] at done ⊢
  cases attempt : store.set run.store {} with
  | error error =>
      rw [attempt] at done
      cases done
  | ok state => rfl

theorem loggedOut_of_writes {moments : List (Moment State)}
    (faithful : ∀ moment ∈ moments, moment.store.IsFaithful kept) {reader : CredentialStore State}
    (reads : reader.IsFaithful kept) (out : (kept run.store).bind Credentials.token = none)
    (tokenless : ∀ credentials ∈ writes settings run moments, credentials.token = none)
    {opened : Option OpenedClient}
    (creates : create settings reader (history settings run moments) = .ok opened) :
    opened = none := by
  have still : (kept (history settings run moments).store).bind Credentials.token = none := by
    rw [kept_history faithful run]
    cases last : (writes settings run moments).getLast? with
    | none => exact out
    | some credentials => exact tokenless credentials (List.mem_of_getLast? last)
  cases got : reader.get (history settings run moments).store with
  | error error =>
      rw [create, loggedInToken, got] at creates
      cases creates
  | ok stored =>
      rw [create_of_get got, reads.get _ _ got, still] at creates
      exact (Except.ok.inj creates).symm

end Kept

/-! ## The sign-in as a whole -/

/-- What a sign-in does to the store that it writes to, where `kept` tells what is in the store.
A login writes at most once, after all the steps before, and just the token it obtained; a logout
writes that there is no token.  If the store refuses, that is the failure, and it is as it was.  A
client is opened exactly for a token in the store that is not empty. -/
structure IsAtomic (settings : Settings) {State : Type} (kept : State → Option Credentials) :
    Prop where
  once : ∀ (store : CredentialStore State) world name run,
    written settings run ⟨store, .login world name⟩ = [] ∨
      ∃ token, Obtains world name run.log token ∧
        written settings run ⟨store, .login world name⟩ = [.ofToken token]
  obtained : ∀ store world name token (run : SignIn State), Obtains world name run.log token →
    ∀ state, store.set run.store (.ofToken token) = .ok state →
      (act settings store (.login world name) run).2.store = state ∧
        (act settings store (.login world name) run).1 =
          create settings store (act settings store (.login world name) run).2
  unkept : ∀ store world name token (run : SignIn State), Obtains world name run.log token →
    ∀ error, store.set run.store (.ofToken token) = .error error →
      (act settings store (.login world name) run).1 = .error (.store error) ∧
        (act settings store (.login world name) run).2.store = run.store
  failed : ∀ store world name (run : SignIn State),
    (∀ token, ¬ Obtains world name run.log token) →
      (∃ error, (act settings store (.login world name) run).1 = .error error) ∧
        (act settings store (.login world name) run).2.store = run.store
  held : ∀ run moments, (∀ moment ∈ moments, moment.store.IsFaithful kept) →
    kept (history settings run moments).store =
      (writes settings run moments).getLast?.or (kept run.store)
  created : ∀ (store : CredentialStore State) run client, store.IsFaithful kept →
    (create settings store run = .ok (some client) ↔
      (∃ stored, store.get run.store = .ok stored) ∧
        ∃ token, (kept run.store).bind Credentials.stored = some token ∧ token ≠ "" ∧
          client = .ofToken settings token ∧ client.address = settings.socketUrl token)
  emptied : ∀ store (run : SignIn State) state, store.set run.store {} = .ok state →
    (act settings store .logout run).1 = .ok none ∧
      (act settings store .logout run).2.store = state ∧
      written settings run ⟨store, .logout⟩ = [{}]
  unemptied : ∀ store (run : SignIn State) error, store.set run.store {} = .error error →
    (act settings store .logout run).1 = .error (.store error) ∧
      (act settings store .logout run).2.store = run.store ∧
      written settings run ⟨store, .logout⟩ = []
  loggedOut : ∀ store (run : SignIn State) moments reader,
    (∀ moment ∈ ⟨store, .logout⟩ :: moments, moment.store.IsFaithful kept) →
    reader.IsFaithful kept →
    (act settings store .logout run).1 = .ok none →
    (∀ credentials ∈ writes settings (next settings run ⟨store, .logout⟩) moments,
      credentials.token = none) →
    ∀ opened, create settings reader (history settings run (⟨store, .logout⟩ :: moments)) =
      .ok opened → opened = none

/-- The server answers whatever it is asked, and the user consents at once. -/
def consentingUser : SignInWorld where
  web _ request := .answer 200 <|
    if request.method = "GET" then "\x7b\"clientID\":\"c1\"\x7d" else "\x7b\"token\":\"t1\"\x7d"
  launcher := some fun _ _ _ => .ok ⟨"code", "http://127.0.0.1:8888/"⟩

def ownServer : Settings := { server := "localhost:4000", secure := false }

def memoryLogin : Moment (Option Credentials) := ⟨.memory, .login consentingUser "google"⟩

end SignIn

end BookmarkHub
