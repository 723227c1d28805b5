import BookmarkHub.Proofs.Json.Indented
import BookmarkHub.Proofs.Json.Records
import BookmarkHub.Proofs.SignIn.Logins
import Mathlib.Data.List.Induction

/-!
# Stores that answer alike

A store in a file answers as a store in memory does, as long as nobody else
writes the file: credentials that were set are got back as they were, and no
token, an empty token and no file stay three different things.  What others
wrote into the file is read or refused, and is forgotten at the next write.
-/

set_option autoImplicit false

namespace BookmarkHub

open Json

/-! ## Credentials in a file -/

namespace Credentials

def inFile (credentials : Credentials) : StoredFile :=
  .confidential credentials.toJson.toIndentedText

theorem toJson_writable (credentials : Credentials) : credentials.toJson.IsWritable := by
  unfold toJson
  refine writable_record.2 ?_
  split
  · exact List.forall_mem_nil _
  · exact List.forall_mem_singleton.2 (List.forall_mem_nil _)

theorem read_back (credentials : Credentials) :
    read .ofText (Document.ofJson credentials.toJson) = .ok credentials := by
  have entered : Origin.ofText.enter = .ok (.text 126) := rfl
  obtain ⟨stored⟩ := credentials
  cases stored with
  | none => rfl
  | some token =>
      have draft : shape.read {} .ofText (Document.ofJson (toJson ⟨some token⟩)) =
          .ok ⟨some (some token)⟩ := by
        refine readRecord_back entered ?_
        rw [Document.ofMembers, readNamed_field rfl rfl rfl]
        rfl
      rw [read, draft]
      rfl

theorem ofText_back (credentials : Credentials) :
    ofText read credentials.toJson.toIndentedText = .ok credentials := by
  rw [ofText_indented _ _ credentials.toJson_writable, read_back]

end Credentials

/-! ## Requests and answers -/

inductive StoreRequest where
  | get
  | set (credentials : Credentials)

def StoreRequest.credentials? : StoreRequest → Option Credentials
  | .get => none
  | .set credentials => some credentials

inductive StoreAnswer where
  | got (found : Except StoreError (Option Credentials))
  | set (done : Except StoreError Unit)

def lastSet (requests : List StoreRequest) : Option Credentials :=
  (requests.filterMap StoreRequest.credentials?).getLast?

theorem lastSet_concat (requests : List StoreRequest) (request : StoreRequest) :
    lastSet (requests ++ [request]) = request.credentials?.or (lastSet requests) := by
  cases request with
  | get => simp [lastSet, StoreRequest.credentials?]
  | set credentials => simp [lastSet, StoreRequest.credentials?]

theorem lastSet_of_gets {requests : List StoreRequest}
    (gets : ∀ request ∈ requests, request = .get) :
    lastSet requests = none := by
  have none : requests.filterMap StoreRequest.credentials? = [] := by
    refine List.filterMap_eq_nil_iff.2 fun request member => ?_
    rw [gets request member]
    rfl
  rw [lastSet, none, List.getLast?_nil]

namespace CredentialStore

variable {State Other : Type}

/-- What a store answers to a request, and its state then. -/
def serve (store : CredentialStore State) (request : StoreRequest) (state : State) :
    StoreAnswer × State :=
  match request with
  | .get => (.got (store.get state), state)
  | .set credentials =>
      (.set ((store.set state credentials).map fun _ => ()), store.after state credentials)

def answers (store : CredentialStore State) : List StoreRequest → State → List StoreAnswer
  | [], _ => []
  | request :: rest, state =>
      (store.serve request state).1 :: store.answers rest (store.serve request state).2

def leaves (store : CredentialStore State) (requests : List StoreRequest) (start : State) : State :=
  requests.foldl (fun state request => (store.serve request state).2) start

theorem leaves_concat (store : CredentialStore State) (requests : List StoreRequest)
    (request : StoreRequest) (start : State) :
    store.leaves (requests ++ [request]) start =
      (store.serve request (store.leaves requests start)).2 := List.foldl_append ..

/-- Two stores that can be told apart by nobody: as long as their states are alike they give the
same, and every write succeeds in both and makes their states alike. -/
structure Mirrors (store : CredentialStore State) (other : CredentialStore Other)
    (alike : State → Other → Prop) : Prop where
  get : ∀ state held, alike state held → store.get state = other.get held
  set : ∀ state held credentials, ∃ next kept, store.set state credentials = .ok next ∧
    other.set held credentials = .ok kept ∧ alike next kept

section Mirrors
variable {store : CredentialStore State} {other : CredentialStore Other}
  {alike : State → Other → Prop} (mirrors : Mirrors store other alike)
include mirrors

theorem Mirrors.serve_set (credentials : Credentials) (state : State) (held : Other) :
    (store.serve (.set credentials) state).1 = (other.serve (.set credentials) held).1 ∧
      alike (store.serve (.set credentials) state).2 (other.serve (.set credentials) held).2 := by
  obtain ⟨next, kept, wrote, noted, same⟩ := mirrors.set state held credentials
  simp only [serve, after, wrote, noted]
  exact ⟨rfl, same⟩

theorem Mirrors.serve {state : State} {held : Other} (same : alike state held)
    (request : StoreRequest) :
    (store.serve request state).1 = (other.serve request held).1 ∧
      alike (store.serve request state).2 (other.serve request held).2 := by
  cases request with
  | get => exact ⟨congrArg StoreAnswer.got (mirrors.get state held same), same⟩
  | set credentials => exact mirrors.serve_set credentials state held

theorem Mirrors.answers (requests : List StoreRequest) {state : State} {held : Other}
    (same : alike state held) : store.answers requests state = other.answers requests held := by
  induction requests generalizing state held with
  | nil => rfl
  | cons request rest ih =>
      obtain ⟨answer, next⟩ := mirrors.serve same request
      rw [CredentialStore.answers, CredentialStore.answers, answer, ih next]

theorem Mirrors.answers_set (credentials : Credentials) (requests : List StoreRequest)
    (state : State) (held : Other) :
    store.answers (.set credentials :: requests) state =
      other.answers (.set credentials :: requests) held := by
  obtain ⟨answer, next⟩ := mirrors.serve_set credentials state held
  rw [CredentialStore.answers, CredentialStore.answers, answer, mirrors.answers requests next]

end Mirrors

/-- A store whose writes do not depend on what it held holds what was set last. -/
theorem leaves_of_set {store : CredentialStore State} (put : Credentials → State)
    (sets : ∀ state credentials, store.set state credentials = .ok (put credentials))
    (requests : List StoreRequest) (start : State) :
    store.leaves requests start = ((lastSet requests).map put).getD start := by
  induction requests using List.reverseRecOn with
  | nil => rfl
  | append_singleton earlier request ih =>
      rw [leaves_concat, lastSet_concat]
      cases request with
      | get => exact ih
      | set credentials =>
          simp only [serve, after, sets]
          rfl

/-! ## The store in a file -/

theorem file_get_eq_ok {path : String} {stored : StoredFile} {found : Option Credentials} :
    (file path true).get (some stored) = .ok found ↔
      ∃ credentials, StoredFile.readJson Credentials.read "credentials file" path (some stored) =
        .ok credentials ∧ found = some credentials := by
  show ((StoredFile.readJson _ _ _ _).map some).mapError StoreError.file = _ ↔ _
  cases StoredFile.readJson Credentials.read "credentials file" path (some stored) with
  | error error => exact ⟨nofun, nofun⟩
  | ok credentials =>
      constructor
      · intro same
        exact ⟨credentials, rfl, (Except.ok.inj same).symm⟩
      · rintro ⟨other, same, rfl⟩
        cases same
        rfl

theorem file_mirrors (path : String) :
    Mirrors (file path true) memory fun stored held => stored = held.map Credentials.inFile where
  get stored held same := by
    subst same
    cases held with
    | none => rfl
    | some credentials =>
        show (((ofText Credentials.read _).mapError _).map some).mapError StoreError.file = _
        rw [Credentials.ofText_back]
        rfl
  set _ _ credentials := ⟨some credentials.inFile, some credentials, rfl, rfl, rfl⟩

theorem file_leaves (path : String) (requests : List StoreRequest) (start : Option StoredFile) :
    (file path true).leaves requests start =
      ((lastSet requests).map Credentials.inFile).or start := by
  rw [leaves_of_set (fun credentials => some credentials.inFile) fun _ _ => rfl]
  cases lastSet requests <;> rfl

/-- A file in the place of memory.  Without a file at the start nobody can tell the two stores
apart, and from the next write on nobody can, whatever the file was.  A file that is there says in
its text which credentials are got, or is an error; only a write changes it. -/
structure FileLikeMemory (path : String) : Prop where
  alike : ∀ requests, (file path true).answers requests none = memory.answers requests none
  recalls : ∀ requests,
    (file path true).get ((file path true).leaves requests none) = .ok (lastSet requests)
  ownerOnly : ∀ start requests credentials, ∃ stored,
    (file path true).leaves (requests ++ [.set credentials]) start = some stored ∧
      stored.mode = 0o600
  decodes : ∀ stored found, (file path true).get (some stored) = .ok found ↔
    ∃ text mode credentials, stored = ⟨.text text, mode⟩ ∧
      ofText Credentials.read text = .ok credentials ∧ found = some credentials
  untouched : ∀ start requests, (∀ request ∈ requests, request = .get) →
    (file path true).leaves requests start = start
  agrees : ∀ start held requests credentials later,
    (file path true).answers (.set credentials :: later)
        ((file path true).leaves requests start) =
      memory.answers (.set credentials :: later) held

theorem file_like_memory (path : String) : FileLikeMemory path where
  alike requests := (file_mirrors path).answers requests rfl
  recalls requests := by
    rw [file_leaves, Option.or_none]
    exact (file_mirrors path).get _ (lastSet requests) rfl
  ownerOnly start requests credentials := by
    refine ⟨credentials.inFile, ?_, rfl⟩
    rw [file_leaves, lastSet_concat]
    rfl
  decodes stored found := by
    rw [file_get_eq_ok]
    constructor
    · rintro ⟨credentials, read, rfl⟩
      obtain ⟨text, mode, same, decoded⟩ := StoredFile.readJson_eq_ok.1 read
      exact ⟨text, mode, credentials, Option.some.inj same, decoded, rfl⟩
    · rintro ⟨text, mode, credentials, rfl, decoded, rfl⟩
      exact ⟨credentials, StoredFile.readJson_eq_ok.2 ⟨text, mode, rfl, decoded⟩, rfl⟩
  untouched start requests gets := by
    rw [file_leaves, lastSet_of_gets gets]
    rfl
  agrees start held requests credentials later :=
    (file_mirrors path).answers_set credentials later _ held

end CredentialStore

end BookmarkHub
