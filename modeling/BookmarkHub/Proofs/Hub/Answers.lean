import BookmarkHub.Proofs.Hub.Fates
import Mathlib.Data.List.Induction

/-!
# Every relayed call is answered once

Taking a call gives it a fate, and waking its task settles that fate.  Nothing
else that happens to the hub, to its links or to the clients takes an answer
away or adds one, in whatever order it happens.
-/

set_option autoImplicit false

namespace BookmarkHub

namespace Switchboard

/-! ## Taking a call -/

section Taking
variable {options : ClientId → ConnectionOptions} {board after : Switchboard} {call : Call}

theorem Sound.unknown (sound : Sound options board) {number : Nat}
    (later : board.calls.length ≤ number) :
    board.answersTo number = [] ∧ board.tasksFor number = [] := by
  constructor
  · refine List.filterMap_eq_nil_iff.2 fun posted member => ?_
    unfold Posted.answerTo?
    split
    · rename_i answers
      obtain ⟨caused, taken, cause⟩ := sound.posted posted member answers.2
      rw [answers.1] at cause
      cases cause
      exact absurd taken (Nat.not_lt.2 later)
    · rfl
  · refine List.filter_eq_nil_iff.2 fun task member isCause => ?_
    obtain ⟨⟨caused, taken, cause⟩, _⟩ := sound.tasks task member
    rw [of_decide_eq_true isCause] at cause
    cases cause
    exact absurd taken (Nat.not_lt.2 later)

theorem Sound.addCall (sound : Sound options board) {posted : List Posted}
    {tasks : List RelayTask} (filed : after.loop.Filed)
    (calls : after.calls = board.calls ++ [call]) (posts : after.posted = board.posted ++ posted)
    (asks : after.tasks = board.tasks ++ tasks)
    (clients : ∀ client, (board.clients client).Reaches (after.clients client))
    (posted_cause : ∀ entry ∈ posted, entry.cause = some board.calls.length)
    (tasks_cause : ∀ task ∈ tasks, task.cause = some board.calls.length ∧
      task.ticket < (after.clients task.client).requests.length)
    (distinct : (after.tasks.map fun task => (task.client, task.ticket)).Nodup)
    (fate : Fate after board.calls.length call) : Sound options after := by
  have count : after.calls.length = board.calls.length + 1 := by simp [calls]
  refine ⟨filed, fun client => (clients client).run (sound.clients client), ?_, ?_, distinct, ?_⟩
  · intro entry member answer
    rw [posts] at member
    rcases List.mem_append.1 member with earlier | now
    · obtain ⟨number, taken, cause⟩ := sound.posted entry earlier answer
      exact ⟨number, by omega, cause⟩
    · exact ⟨board.calls.length, by omega, posted_cause entry now⟩
  · intro task member
    rw [asks] at member
    rcases List.mem_append.1 member with earlier | now
    · obtain ⟨⟨number, taken, cause⟩, handedIn⟩ := sound.tasks task earlier
      exact ⟨⟨number, by omega, cause⟩,
        Nat.lt_of_lt_of_le handedIn (clients task.client).length_le⟩
    · obtain ⟨cause, handedIn⟩ := tasks_cause task now
      exact ⟨⟨board.calls.length, by omega, cause⟩, handedIn⟩
  · intro number other taken
    rw [calls] at taken
    -- an old call keeps its fate, for nothing new was caused by it
    by_cases old : number < board.calls.length
    · rw [List.getElem?_append_left old] at taken
      refine (sound.fates number other taken).carry ?_ ?_ clients
      · have apart : posted.filterMap (·.answerTo? number) = [] := by
          refine List.filterMap_eq_nil_iff.2 fun entry member => ?_
          have later : board.calls.length ≠ number := by omega
          simp [Posted.answerTo?, posted_cause entry member, later]
        rw [answersTo, posts, List.filterMap_append, apart, List.append_nil]
        rfl
      · have apart : tasks.filter (·.cause = some number) = [] := by
          refine List.filter_eq_nil_iff.2 fun task member => ?_
          have later : board.calls.length ≠ number := by omega
          simp [(tasks_cause task member).1, later]
        rw [tasksFor, asks, List.filter_append, apart, List.append_nil]
        rfl
    · have inRange := (List.getElem?_eq_some_iff.1 taken).1
      have newest : number = board.calls.length := by
        simp only [List.length_append, List.length_singleton] at inRange
        omega
      subst newest
      rw [List.getElem?_append_right (Nat.le_refl _)] at taken
      simp only [Nat.sub_self, List.getElem?_cons_zero] at taken
      cases taken
      exact fate

theorem Sound.refuse (sound : Sound options board) {loop : HubLoop} (filed : loop.Filed)
    (status : UInt16) (body : Json)
    (fate : ∀ after : Switchboard, after.tasksFor board.calls.length = [] →
      after.answersTo board.calls.length =
        [(Link.numbered call.link, .answer call.id status body)] →
      Fate after board.calls.length call) :
    Sound options { board with
      loop
      calls := board.calls ++ [call]
      posted := board.posted ++
        [⟨some board.calls.length, Link.numbered call.link, .answer call.id status body⟩] } := by
  obtain ⟨noAnswers, noTasks⟩ := sound.unknown (Nat.le_refl _)
  refine sound.addCall filed rfl rfl (List.append_nil _).symm (fun _ => .refl) ?_ (by simp)
    sound.distinct (fate _ noTasks ?_)
  · intro entry member
    cases List.mem_singleton.1 member
    rfl
  · simp only [answersTo, List.filterMap_append] at noAnswers ⊢
    rw [noAnswers]
    simp [Posted.answerTo?, HubCommand.isAnswer]

theorem Sound.submit (sound : Sound options board) {loop : HubLoop} (filed : loop.Filed)
    {client : ClientId} {operation : Operation} (loggedIn : call.client = some client)
    (accepted : Operation.ofCall call.func call.args = .ok operation) :
    Sound options (apply (some board.calls.length)
      { board with loop, calls := board.calls ++ [call] }
      (.act (.submit client ⟨Link.numbered call.link, call.id⟩ operation))) := by
  obtain ⟨noAnswers, noTasks⟩ := sound.unknown (Nat.le_refl _)
  have handedIn : (Function.update board.clients client ((board.clients client).extend
      ⟨.timely 0 0 fun _ => true, .send operation.toRequest⟩) client).requests =
      (board.clients client).requests ++ [operation.toRequest] := by
    rw [Function.update_self]
    rfl
  refine sound.addCall filed rfl (List.append_nil _).symm rfl
    (board.tellClient_reaches client _) (by simp) ?_ ?_ ?_
  · intro task member
    cases List.mem_singleton.1 member
    refine ⟨rfl, ?_⟩
    simp only [apply, hand, tellClient, handedIn, List.length_append, List.length_singleton]
    exact Nat.lt_succ_self _
  · simp only [apply, hand, tellClient, List.map_append]
    refine List.nodup_append.2 ⟨sound.distinct, by simp, ?_⟩
    intro earlier among newest last same
    obtain ⟨task, member, rfl⟩ := List.mem_map.1 among
    cases List.mem_singleton.1 last
    obtain ⟨sameClient, sameTicket⟩ := Prod.mk.inj same
    have given := (sound.tasks task member).2
    rw [sameClient, sameTicket] at given
    exact absurd given (Nat.lt_irrefl _)
  · refine .waiting client (board.clients client).requests.length ⟨loggedIn, ?_, ?_⟩ noAnswers
    · refine ⟨operation, accepted, ?_⟩
      simp only [apply, hand, tellClient, handedIn]
      simp
    · simp only [tasksFor, apply, hand, tellClient, List.filter_append] at noTasks ⊢
      rw [noTasks]
      simp

theorem take_sound (sound : Sound options board) (windowOpens : Bool) :
    Sound options (board.step (.take windowOpens)) := by
  cases heard : board.loop.call? with
  | none =>
      have quiet := HubLoop.take_quiet windowOpens sound.filed heard
      have taken := perform_sound sound none quiet
      simpa [step, heard] using taken
  | some call =>
      obtain ⟨rest, next, client, taken⟩ := HubLoop.take_of_call windowOpens sound.filed heard
      have later := HubLoop.filed_rest sound.filed next
      rcases Hub.relayCall_cases board.loop.hub ⟨Link.numbered call.link, call.id⟩ call.func
          call.args with
        ⟨nobody, refused⟩ | ⟨owner, error, loggedIn, rejected, refused⟩ |
          ⟨owner, operation, loggedIn, accepted, submitted⟩
      · rw [refused] at taken
        simp only [step, heard, taken]
        exact sound.refuse later 401 _ fun after unasked answered =>
          .unauthenticated (client.trans nobody) unasked answered
      · rw [refused] at taken
        simp only [step, heard, taken]
        exact sound.refuse later 400 _ fun after unasked answered =>
          .malformed owner error (client.trans loggedIn) rejected unasked answered
      · rw [submitted] at taken
        simp only [step, heard, taken]
        exact sound.submit later (client.trans loggedIn) accepted

end Taking

/-! ## Waking a task -/

section Waking
variable {options : ClientId → ConnectionOptions} {board : Switchboard}

def finish (task : RelayTask) (outcome : Outcome) (before later : List RelayTask)
    (board : Switchboard) : Switchboard :=
  { board with
    tasks := before ++ { task with isDone := true } :: later
    posted := board.posted ++ [⟨task.cause, task.relay.link, task.relay.answer outcome⟩] }

theorem wake_cases (board : Switchboard) (number : Nat) :
    board.wake number = board ∨
    ∃ task outcome before later, board.tasks = before ++ task :: later ∧ task.isDone = false ∧
      (board.clients task.client).outcome? task.ticket = some outcome ∧
      board.wake number = board.finish task outcome before later := by
  unfold wake
  cases found : board.tasks[number]? with
  | none => exact Or.inl rfl
  | some task =>
      simp only
      split
      · rename_i outcome waits told
        right
        obtain ⟨inRange, same⟩ := List.getElem?_eq_some_iff.1 found
        obtain ⟨before, later, split, _, set⟩ : ∃ before later,
            board.tasks = before ++ board.tasks[number] :: later ∧ before.length = number ∧
              board.tasks.set number { task with isDone := true } =
                before ++ { task with isDone := true } :: later :=
          List.exists_of_set inRange
        rw [same] at split
        refine ⟨task, outcome, before, later, split, waits, told, ?_⟩
        rw [set]
        rfl
      · exact Or.inl rfl

theorem answersTo_wake {place number : Nat} {task : RelayTask} {outcome : Outcome}
    (found : board.tasks[place]? = some task) (waits : task.isDone = false)
    (told : (board.clients task.client).outcome? task.ticket = some outcome)
    (cause : task.cause = some number) :
    (board.wake place).answersTo number =
      board.answersTo number ++ [(task.relay.link, task.relay.answer outcome)] := by
  have answers : (task.relay.answer outcome).isAnswer = true := by cases outcome <;> rfl
  simp [wake, found, waits, told, answersTo, Posted.answerTo?, cause, answers]

theorem isAnswer_answer (relay : Relay) (outcome : Outcome) :
    (relay.answer outcome).isAnswer = true := by
  cases outcome <;> rfl

section Finish
variable {task : RelayTask} (outcome : Outcome) {before later : List RelayTask} {number : Nat}

variable (board before later) in
theorem answersTo_finish (cause : task.cause = some number) :
    (board.finish task outcome before later).answersTo number =
      board.answersTo number ++ [(task.relay.link, task.relay.answer outcome)] := by
  simp [answersTo, finish, Posted.answerTo?, cause, isAnswer_answer]

theorem answersTo_finish_other (other : task.cause ≠ some number) :
    (board.finish task outcome before later).answersTo number = board.answersTo number := by
  simp [answersTo, finish, Posted.answerTo?, other]

theorem tasksFor_finish (split : board.tasks = before ++ task :: later)
    (cause : task.cause = some number) (only : board.tasksFor number = [task]) :
    (board.finish task outcome before later).tasksFor number = [{ task with isDone := true }] := by
  simp only [tasksFor, split, List.filter_append, List.filter_cons, cause, decide_true, if_true,
    List.append_eq_singleton_iff] at only
  obtain ⟨noneBefore, rest⟩ | ⟨_, rest⟩ := only
  · have noneLater := (List.cons.inj rest).2
    simp [tasksFor, finish, noneBefore, noneLater, cause]
  · cases rest

theorem tasksFor_finish_other (split : board.tasks = before ++ task :: later)
    (other : task.cause ≠ some number) :
    (board.finish task outcome before later).tasksFor number = board.tasksFor number := by
  simp [tasksFor, finish, split, other]

end Finish

/-- The task of a call that waits is its only one, and it posts the only answer. -/
theorem finish_fate {task : RelayTask} {outcome : Outcome} {before later : List RelayTask}
    {number : Nat} {call : Call} (fate : Fate board number call)
    (split : board.tasks = before ++ task :: later) (waits : task.isDone = false)
    (told : (board.clients task.client).outcome? task.ticket = some outcome)
    (cause : task.cause = some number) :
    Fate (board.finish task outcome before later) number call := by
  have among : task ∈ board.tasksFor number := by
    simp [tasksFor, split, cause]
  cases fate with
  | unauthenticated nobody unasked answered => simp [unasked] at among
  | malformed client error loggedIn rejected unasked answered => simp [unasked] at among
  | served client ticket response asked _ answered =>
      rw [asked.only, List.mem_singleton] at among
      simp [among] at waits
  | failed client ticket failure asked _ answered =>
      rw [asked.only, List.mem_singleton] at among
      simp [among] at waits
  | waiting client ticket asked unanswered =>
      rw [asked.only, List.mem_singleton] at among
      have tasks := tasksFor_finish outcome split cause (by rw [asked.only, among])
      have answers := answersTo_finish board outcome before later cause
      rw [unanswered, List.nil_append] at answers
      subst among
      have done : Asked (board.finish _ outcome before later) number call client ticket true :=
        ⟨asked.loggedIn, asked.request, tasks⟩
      cases outcome with
      | ok response => exact .served client ticket response done told answers
      | error failure => exact .failed client ticket failure done told answers

theorem wake_sound (sound : Sound options board) (number : Nat) :
    Sound options (board.wake number) := by
  rcases board.wake_cases number with
    same | ⟨task, outcome, before, later, split, waits, told, woken⟩
  · rw [same]
    exact sound
  · rw [woken]
    have among : task ∈ board.tasks := by simp [split]
    obtain ⟨⟨caused, taken, cause⟩, handedIn⟩ := sound.tasks task among
    refine ⟨sound.filed, sound.clients, ?_, ?_, ?_, ?_⟩
    · intro entry member answer
      rcases List.mem_append.1 member with earlier | now
      · exact sound.posted entry earlier answer
      · cases List.mem_singleton.1 now
        exact ⟨caused, taken, cause⟩
    · intro other member
      rcases List.mem_append.1 member with earlier | now
      · exact sound.tasks other (by simp [split, earlier])
      · rcases List.mem_cons.1 now with rfl | after
        · exact ⟨⟨caused, taken, cause⟩, handedIn⟩
        · exact sound.tasks other (by simp [split, after])
    · have distinct := sound.distinct
      simpa [split, finish] using distinct
    · intro other call known
      by_cases same : task.cause = some other
      · exact finish_fate (sound.fates other call known) split waits told same
      · exact (sound.fates other call known).carry (answersTo_finish_other outcome same)
          (tasksFor_finish_other outcome split same) fun _ => .refl

end Waking

/-! ## Over a run -/

section Run
variable {options : ClientId → ConnectionOptions} {board : Switchboard}

theorem start_sound (options : ClientId → ConnectionOptions) : Sound options (start options) where
  filed := HubLoop.filed_initial
  clients := fun client => ⟨[], rfl⟩
  posted := fun _ member => by cases member
  tasks := fun _ member => by cases member
  distinct := List.nodup_nil
  fates := fun _ _ taken => by cases taken

theorem step_sound (sound : Sound options board) (move : HubMove) :
    Sound options (board.step move) := by
  have filed := sound.filed
  cases move with
  | take windowOpens => exact take_sound sound windowOpens
  | ask request =>
      refine perform_sound sound none (HubLoop.post_quiet filed request.event ?_)
      cases request <;> trivial
  | connectPage key => exact perform_sound sound none (HubLoop.connectPage_quiet filed key)
  | abandonConnect link => exact loop_sound sound ⟨filed.hub, filed.mailbox⟩
  | connectBridge => exact loop_sound sound (HubLoop.connectBridge_filed filed)
  | sendMessage link command =>
      exact loop_sound sound (HubLoop.sendMessage_filed filed link command)
  | dropSurface link => exact loop_sound sound (HubLoop.dropSurface_filed filed link)
  | tabFound page tab => exact loop_sound sound (HubLoop.tabFound_filed filed page tab)
  | holdHandle | dropHandle => exact loop_sound sound ⟨filed.hub, filed.mailbox⟩
  | client client moment => exact (board.tellClient_onward client moment).sound sound filed
  | wake task => exact wake_sound sound task

theorem run_sound (options : ClientId → ConnectionOptions) (moves : List HubMove) :
    Sound options (run options moves) := by
  induction moves using List.reverseRecOn with
  | nil => exact start_sound options
  | append_singleton earlier move ih =>
      rw [run_snoc]
      exact step_sound ih move

end Run

/-- Whether nothing more can happen on which the answer to a call depends. -/
def Decided (board : Switchboard) (number : Nat) (call : Call) : Prop :=
  call.client = none ∨ (∃ error, Operation.ofCall call.func call.args = .error error) ∨
    ∃ task ∈ board.tasksFor number, ∃ outcome,
      (board.clients task.client).outcome? task.ticket = some outcome

/-- Calls are answered, each once, by what became of them.  Every call that a bridge or the
surface of a page made is taken with the client that there is then.  A call that is decided has
its answer, or a task of its is ready to post it; no two calls share a request. -/
structure Faithful (board : Switchboard) : Prop where
  taken : ∀ windowOpens call, board.loop.call? = some call →
    (board.step (.take windowOpens)).calls = board.calls ++ [call]
  fates : ∀ number call, board.calls[number]? = some call → Fate board number call
  once : ∀ number, (board.answersTo number).length ≤ 1
  decided : ∀ number call, board.calls[number]? = some call → Decided board number call →
    (board.answersTo number).length = 1 ∨
      ∃ task, ((board.step (.wake task)).answersTo number).length = 1
  unasked : ∀ posted ∈ board.posted, posted.command.isAnswer = true →
    ∃ number call, posted.cause = some number ∧ board.calls[number]? = some call
  distinct : (board.tasks.map fun task => (task.client, task.ticket)).Nodup
  outcomes : ∀ client ticket outcome, (board.clients client).outcome? ticket = some outcome →
    ∃ before after, (board.clients client).trace = before ++ .resolve ticket outcome :: after ∧
      Fair before ticket outcome
  bridges : ∀ number link, board.loop.hub.bridges.find? number = some link →
    link = Link.numbered number
  pages : ∀ key context link, board.loop.hub.registry.find? key = some context →
    context.link = some link → link = Link.numbered link.id

section Faithful
variable {options : ClientId → ConnectionOptions} {board : Switchboard}

theorem Fate.once {number : Nat} {call : Call} (fate : Fate board number call) :
    (board.answersTo number).length ≤ 1 := by
  cases fate with
  | waiting _ _ _ unanswered => simp [unanswered]
  | unauthenticated _ _ answered | malformed _ _ _ _ _ answered | served _ _ _ _ _ answered
  | failed _ _ _ _ _ answered => simp [answered]

theorem Sound.once (sound : Sound options board) (number : Nat) :
    (board.answersTo number).length ≤ 1 := by
  cases taken : board.calls[number]? with
  | some call => exact (sound.fates number call taken).once
  | none =>
      have unknown := (sound.unknown (List.getElem?_eq_none_iff.1 taken)).1
      simp [unknown]

theorem Fate.decided {number : Nat} {call : Call} (fate : Fate board number call)
    (decided : Decided board number call) : (board.answersTo number).length = 1 ∨
      ∃ task, ((board.step (.wake task)).answersTo number).length = 1 := by
  cases fate with
  | unauthenticated _ _ answered | malformed _ _ _ _ _ answered | served _ _ _ _ _ answered
  | failed _ _ _ _ _ answered => simp [answered]
  | waiting client ticket asked unanswered =>
      obtain ⟨operation, accepted, _⟩ := asked.request
      rcases decided with nobody | ⟨error, rejected⟩ | ⟨task, among, outcome, told⟩
      · rw [asked.loggedIn] at nobody
        cases nobody
      · rw [accepted] at rejected
        cases rejected
      · right
        have member : task ∈ board.tasks := (List.mem_filter.1 among).1
        obtain ⟨place, found⟩ := List.getElem?_of_mem member
        rw [asked.only, List.mem_singleton] at among
        refine ⟨place, ?_⟩
        have answers := answersTo_wake found (by rw [among]) told (by rw [among])
        simp only [step, answers, unanswered, List.nil_append, List.length_singleton]

theorem Sound.faithful (sound : Sound options board) : Faithful board where
  taken := by
    intro windowOpens call heard
    simp only [step, heard]
    exact (applyAll_keeps _ _ _).2
  fates := sound.fates
  once := sound.once
  decided := fun number call taken => (sound.fates number call taken).decided
  unasked := by
    intro entry member answer
    obtain ⟨number, taken, cause⟩ := sound.posted entry member answer
    exact ⟨number, board.calls[number], cause, List.getElem?_eq_getElem taken⟩
  distinct := sound.distinct
  outcomes := by
    intro client ticket outcome told
    obtain ⟨before, after, split⟩ := History.resolve_of_outcome? told
    obtain ⟨moments, ran⟩ := sound.clients client
    refine ⟨before, after, split, ?_⟩
    rw [ran] at split
    exact Trace.always_split (run_kept _ moments).archive.lawful split
  bridges := sound.filed.hub.bridges
  pages := sound.filed.hub.registry.links

end Faithful

end Switchboard

end BookmarkHub
