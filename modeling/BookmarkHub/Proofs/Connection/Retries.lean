import BookmarkHub.Proofs.Connection.Backoff
import BookmarkHub.Proofs.Connection.Orderly

/-!
# When the next attempt is made

Whatever happens to a connection that reconnects, the wait for its next attempt
is read off what it has done: the outages since a socket was last open give the
backoff, and the wait is the backoff with at most a tenth of it.  A caller can
cut the wait short, but only a socket that opens starts the backoff over.  The
same is so of the machine words in which the wait is computed.
-/

set_option autoImplicit false

namespace BookmarkHub

open Connection

/-- How long a timer waits that is armed for an outage, by what was done before the outage and by
the number that was drawn.  In machine words nothing overflows, and the wait is the same. -/
structure ReconnectPolicy.Waits (policy : ReconnectPolicy) (past : Trace) (jitter wait : Nat) :
    Prop where
  least : policy.backoffAt past.outages ≤ wait
  most : wait ≤ min (policy.backoffAt past.outages + policy.backoffAt past.outages / 10)
    longestWait
  drawn : wait = retryWait (policy.backoffAt past.outages) jitter
  machine : ∀ random : UInt64, random.toNat = jitter →
    ∃ backoff span, Span.backoff? policy past.entered = some backoff ∧
      backoff.wait? random = some span ∧ span.total = wait * 1000000

theorem retryWait_waits {policy : ReconnectPolicy} (ordered : policy.IsOrdered) (past : Trace)
    (jitter : Nat) :
    policy.Waits past jitter (retryWait (policy.backoffAt past.outages) jitter) where
  least := le_retryWait _ jitter (Nat.le_of_lt_succ (ReconnectPolicy.backoffAt_lt _))
  most := retryWait_le _ jitter
  drawn := rfl
  machine := by
    rintro random rfl
    refine ⟨_, _, Span.backoff?_eq ordered past.entered, Span.wait?_ofMillis _ random, ?_⟩
    have short : retryWait (policy.backoffAt past.outages) random.toNat < UInt64.size :=
      Nat.lt_succ_of_le (Nat.min_le_right ..)
    rw [← Trace.outages, Word.toNat_ofNat (ReconnectPolicy.backoffAt_lt past.outages),
      Span.total_ofMillis, Word.toNat_ofNat short]

/-- How the attempts of a connection are timed at a moment, after whatever has happened to it.  A
failed attempt and a lost socket arm the timer, and nothing else does.  A caller that cuts a wait
short changes neither the outages nor the backoff; a socket that opens starts both over, even if
it is lost over the queue.  A timer that rings begins an attempt, and a runtime that keeps time
lets it ring once its wait is over. -/
structure BacksOff (policy : ReconnectPolicy) (history : History) (moment : Moment) : Prop where
  arms : (history.extend moment).connection.stopped = false →
    ∀ before after, history.deeds moment = before ++ .enter .disconnected :: after →
      ∃ wait, (history.extend moment).connection.retryTimer = some ⟨moment.around.now, wait⟩ ∧
        policy.Waits (history.trace ++ before) moment.around.jitter wait
  armed : ∀ timer, (history.extend moment).connection.retryTimer = some timer →
    history.connection.retryTimer = some timer ∨ .enter .disconnected ∈ history.deeds moment
  held : ∀ timer, (history.extend moment).connection.retryTimer = some timer →
    ∃ past after jitter, (history.extend moment).trace = past ++ .enter .disconnected :: after ∧
      Trace.entered after = [] ∧ policy.Waits past jitter timer.wait
  hurries : ∀ event, moment.happening.event? history.endpoint = some event →
    (event = .connect ∨ ∃ ticket request, event = .submit ticket request) →
    history.connection.retryTimer.isSome = true →
      (history.extend moment).connection.phase = .connecting ∧
      (history.extend moment).connection.retryTimer = none ∧
      (history.extend moment).connection.backoff = history.connection.backoff ∧
      (history.extend moment).trace.outages = history.trace.outages
  resets : moment.happening = .meet .opened → history.connection.phase = .connecting →
    ((history.extend moment).connection.phase = .connected ∧
      (history.extend moment).connection.backoff = policy.initialBackoff.toNat ∧
      (history.extend moment).trace.outages = 0) ∨
    ((history.extend moment).connection.phase = .disconnected ∧
      (history.extend moment).trace.outages = 1 ∧
      ∃ wait, (history.extend moment).connection.retryTimer = some ⟨moment.around.now, wait⟩ ∧
        policy.Waits (history.trace ++ [.enter .connected]) moment.around.jitter wait)
  fires : moment.happening = .meet .retryDue → ∀ timer, history.connection.retryTimer = some timer →
    (.dial ∈ history.deeds moment ↔ moment.around.rings timer = true)
  waits : moment.around.KeepsTime → moment.happening = .meet .retryDue →
    ∀ timer, history.connection.retryTimer = some timer →
    (.dial ∈ history.deeds moment ↔ timer.armed + timer.wait ≤ moment.around.now)
  lasts : ∀ timer, history.connection.retryTimer = some timer →
    (∀ event, moment.happening.event? history.endpoint = some event → ¬ event.EndsWait) →
    (history.extend moment).connection.retryTimer = some timer ∧ .dial ∉ history.deeds moment
  counts : (history.extend moment).connection.stopped = false →
    (history.extend moment).connection.backoff =
        policy.backoffAt (history.extend moment).trace.outages ∧
      ∃ backoff, Span.backoff? policy (history.extend moment).trace.entered = some backoff ∧
        backoff.total = (history.extend moment).connection.backoff * 1000000

namespace History

/-! ## Every moment of a run -/

theorem unarmed_of_stopped (options : ConnectionOptions) (moments : List Moment)
    (stopped : (run options moments).connection.stopped = true) :
    (run options moments).connection.retryTimer = none := by
  induction moments using List.reverseRecOn with
  | nil => cases stopped
  | append_singleton earlier moment ih =>
      rw [run_concat] at stopped ⊢
      obtain ⟨_, _, ⟨same, _⟩ | ⟨event, stepped, _⟩⟩ := (run options earlier).extend_cases moment
      · rw [same] at stopped ⊢
        exact ih stopped
      · rw [stepped] at stopped ⊢
        cases before : (run options earlier).connection.stopped with
        | true =>
            rw [(step_of_stopped moment.around _ event before).1]
            exact ih before
        | false =>
            rw [step_of_running _ _ _ before] at stopped ⊢
            by_cases closes : event = .close
            · rw [closes]
              rfl
            · have coherent := coherent_run before
              rw [(handle_coherent moment.around coherent event closes).running] at stopped
              cases stopped

section Run
variable {options : ConnectionOptions} {moments : List Moment} {moment : Moment}
  (automatic : options.reconnect.automatic = true)
  (running : ((run options moments).extend moment).connection.stopped = false)

include automatic running in
theorem deeds_turn :
    Turn options.reconnect moment.around (run options moments).connection.retry
      (Trace.entered ((run options moments).deeds moment))
      ((run options moments).extend moment).connection.retry := by
  cases told : moment.happening.event? (run options moments).endpoint with
  | none =>
      obtain ⟨same, plain⟩ := (run options moments).deeds_of_none moment told
      rw [same, Trace.entered_aside plain]
      exact .rest
  | some event =>
      obtain ⟨goesOn, before, stepped, outside, plain, done⟩ := deeds_of_running running told
      have policies := congrArg ConnectionOptions.reconnect (options_run options moments before)
      have coherent := coherent_run before
      rw [stepped, done, Trace.entered_append, Trace.entered_aside plain, List.append_nil]
      exact (handle_deed moment.around coherent event goesOn).turn moment.around automatic
        coherent policies

include automatic running in
theorem extend_armed {timer : RetryTimer}
    (timed : ((run options moments).extend moment).connection.retryTimer = some timer) :
    ((run options moments).connection.retryTimer = some timer ∧
        Trace.entered ((run options moments).deeds moment) = []) ∨
      .enter .disconnected ∈ (run options moments).deeds moment := by
  refine ((deeds_turn automatic running).armed timed).imp_right fun entered => ?_
  obtain ⟨effect, member, seen⟩ := List.mem_filterMap.1 entered
  cases effect <;> cases seen
  exact member

theorem running_of_armed {timer : RetryTimer}
    (timed : (run options moments).connection.retryTimer = some timer) :
    (run options moments).connection.stopped = false := by
  refine Bool.eq_false_iff.2 fun stopped => ?_
  rw [unarmed_of_stopped options moments stopped] at timed
  cases timed

variable (ordered : options.reconnect.IsOrdered)
include automatic ordered

/-- The backoff of a run is read off its outages. -/
theorem backoff_run (running : (run options moments).connection.stopped = false) :
    (run options moments).connection.backoff =
      options.reconnect.backoffAt (run options moments).trace.outages := by
  induction moments using List.reverseRecOn with
  | nil => exact (ReconnectPolicy.backoffAt_zero ordered).symm
  | append_singleton earlier moment ih =>
      rw [run_concat] at running ⊢
      have turn := deeds_turn automatic running
      rw [trace_deeds, Trace.outages_append]
      exact turn.backoff ordered (ih (running_of_extend running))

include running in
theorem extend_arms {before after : Trace}
    (split : (run options moments).deeds moment = before ++ .enter .disconnected :: after) :
    after.entered = [] ∧ ∃ wait, ((run options moments).extend moment).connection.retryTimer =
        some ⟨moment.around.now, wait⟩ ∧
      options.reconnect.Waits ((run options moments).trace ++ before) moment.around.jitter
        wait := by
  have known := backoff_run automatic ordered (running_of_extend running)
  have turn := deeds_turn automatic running
  have phases : Trace.entered ((run options moments).deeds moment) =
      before.entered ++ .disconnected :: after.entered := by
    rw [split, Trace.entered_append, Trace.entered_cons]
    rfl
  obtain ⟨nothing, timed⟩ := turn.arms ordered known phases
  refine ⟨nothing, _, timed, ?_⟩
  rw [← Trace.outages_append]
  exact retryWait_waits ordered _ _

/-- Until its next phase a connection waits as it does since its last outage. -/
theorem held_run {timer : RetryTimer}
    (timed : (run options moments).connection.retryTimer = some timer) :
    ∃ past after jitter, (run options moments).trace = past ++ .enter .disconnected :: after ∧
      Trace.entered after = [] ∧ options.reconnect.Waits past jitter timer.wait := by
  induction moments using List.reverseRecOn with
  | nil => cases timed
  | append_singleton earlier moment ih =>
      have running := running_of_armed timed
      rw [run_concat] at timed running ⊢
      rw [trace_deeds]
      rcases extend_armed automatic running timed with ⟨same, nothing⟩ | outage
      · obtain ⟨past, after, jitter, split, entered, waits⟩ := ih same
        refine ⟨past, after ++ (run options earlier).deeds moment, jitter, ?_, ?_, waits⟩
        · rw [split, List.append_assoc, List.cons_append]
        · rw [Trace.entered_append, entered, nothing]
          rfl
      · obtain ⟨before, after, split⟩ := List.append_of_mem outage
        obtain ⟨nothing, wait, armed, waits⟩ := extend_arms automatic running ordered split
        obtain rfl := Option.some.inj (timed.symm.trans armed)
        refine ⟨(run options earlier).trace ++ before, after, moment.around.jitter, ?_, nothing,
          waits⟩
        rw [split, List.append_assoc]

end Run

/-! ## Waits that end -/

section Ends
variable {options : ConnectionOptions} {moments : List Moment} {moment : Moment}

theorem undialed_of_aside {effects : Trace} (aside : ∀ effect ∈ effects, effect.IsAside) :
    .dial ∉ effects :=
  fun dials => (Trace.plain_of_aside aside _ dials).elim

theorem told_armed {timer : RetryTimer}
    (timed : (run options moments).connection.retryTimer = some timer) {event : ConnectionEvent}
    (told : moment.happening.event? (run options moments).endpoint = some event) :
    Coherent (run options moments).connection ∧
      ((run options moments).extend moment).connection =
        (handle moment.around event (run options moments).connection).1 ∧
      ∃ aside : Trace, (∀ effect ∈ aside, effect.IsAside) ∧
        (run options moments).deeds moment =
          (handle moment.around event (run options moments).connection).2 ++ aside := by
  have running := running_of_armed timed
  obtain ⟨stepped, aside, plain, done⟩ := (run options moments).deeds_of_some moment told
  rw [step_of_running _ _ _ running] at stepped done
  exact ⟨coherent_run running, stepped, aside, plain, done⟩

theorem extend_hurries {timer : RetryTimer}
    (timed : (run options moments).connection.retryTimer = some timer) {event : ConnectionEvent}
    (told : moment.happening.event? (run options moments).endpoint = some event)
    (eager : event = .connect ∨ ∃ ticket request, event = .submit ticket request) :
    ((run options moments).extend moment).connection.phase = .connecting ∧
      ((run options moments).extend moment).connection.retry =
        ⟨(run options moments).connection.backoff, none⟩ ∧
      ((run options moments).extend moment).trace.outages =
        (run options moments).trace.outages := by
  obtain ⟨coherent, stepped, aside, plain, done⟩ := told_armed timed told
  have idle := coherent.idle_of_armed timed
  obtain ⟨phase, kept, entered⟩ := handle_hurries moment.around eager idle
  rw [stepped, trace_deeds, done, Trace.outages_append, Trace.entered_append, entered,
    Trace.entered_aside plain]
  exact ⟨phase, kept, rfl⟩

theorem extend_fires {timer : RetryTimer}
    (timed : (run options moments).connection.retryTimer = some timer)
    (rings : moment.happening = .meet .retryDue) :
    .dial ∈ (run options moments).deeds moment ↔ moment.around.rings timer = true := by
  have told : moment.happening.event? (run options moments).endpoint = some .retryDue := by
    rw [rings]
    rfl
  obtain ⟨coherent, _, aside, plain, done⟩ := told_armed timed told
  rw [done, List.mem_append, or_iff_left (undialed_of_aside plain)]
  exact handle_fires moment.around coherent timed

theorem extend_lasts {timer : RetryTimer}
    (timed : (run options moments).connection.retryTimer = some timer)
    (lasts : ∀ event, moment.happening.event? (run options moments).endpoint = some event →
      ¬ event.EndsWait) :
    ((run options moments).extend moment).connection.retryTimer = some timer ∧
      .dial ∉ (run options moments).deeds moment := by
  cases told : moment.happening.event? (run options moments).endpoint with
  | none =>
      obtain ⟨same, plain⟩ := (run options moments).deeds_of_none moment told
      rw [same]
      exact ⟨timed, undialed_of_aside plain⟩
  | some event =>
      obtain ⟨coherent, stepped, aside, plain, done⟩ := told_armed timed told
      obtain ⟨kept, undialed⟩ := handle_lasts moment.around coherent timed (lasts event told)
      rw [stepped, done, List.mem_append, not_or]
      exact ⟨kept, undialed, undialed_of_aside plain⟩

theorem extend_resets (automatic : options.reconnect.automatic = true)
    (ordered : options.reconnect.IsOrdered)
    (connecting : (run options moments).connection.phase = .connecting)
    (opens : moment.happening = .meet .opened) :
    (((run options moments).extend moment).connection.phase = .connected ∧
      ((run options moments).extend moment).connection.backoff =
        options.reconnect.initialBackoff.toNat ∧
      ((run options moments).extend moment).trace.outages = 0) ∨
    (((run options moments).extend moment).connection.phase = .disconnected ∧
      ((run options moments).extend moment).trace.outages = 1 ∧
      ∃ wait, ((run options moments).extend moment).connection.retryTimer =
          some ⟨moment.around.now, wait⟩ ∧
        options.reconnect.Waits ((run options moments).trace ++ [.enter .connected])
          moment.around.jitter wait) := by
  have running : (run options moments).connection.stopped = false := by
    refine Bool.eq_false_iff.2 fun stopped => ?_
    have shut := ((orderly_run options moments).ending stopped).1
    rw [connecting] at shut
    cases shut
  have coherent := coherent_run running
  have dialing := coherent.dialing.2 connecting
  have policies := congrArg ConnectionOptions.reconnect (options_run options moments running)
  have told : moment.happening.event? (run options moments).endpoint = some .opened := by
    rw [opens]
    rfl
  obtain ⟨stepped, aside, plain, done⟩ := (run options moments).deeds_of_some moment told
  rw [step_of_running _ _ _ running] at stepped done
  simp only [handle, dialing, if_true] at stepped done
  rw [stepped, trace_deeds, done, Trace.outages_append, Trace.entered_append,
    Trace.entered_aside plain, List.append_nil]
  rcases takeSocket_cases moment.around automatic policies coherent connecting rfl with
    ⟨entered, phase, kept⟩ | ⟨entered, phase, rearmed⟩
  · rw [entered]
    exact .inl ⟨phase, congrArg Retry.backoff kept, rfl⟩
  · rw [entered]
    refine .inr ⟨phase, rfl, _, congrArg Retry.timer rearmed, ?_⟩
    have none : ((run options moments).trace ++ [ConnectionEffect.enter .connected]).outages = 0 :=
      Trace.outages_append ..
    have waits := retryWait_waits ordered ((run options moments).trace ++ [.enter .connected])
      moment.around.jitter
    rw [none, ReconnectPolicy.backoffAt_zero ordered] at waits
    exact waits

end Ends

end History

open History (run)

/-- With valid settings that reconnect, every attempt of every run is timed by the law of the
backoff. -/
theorem retries_back_off (settings : Settings) (valid : settings.validate = .ok ())
    (automatic : settings.reconnect.automatic = true) (earlier : List Moment) (moment : Moment) :
    BacksOff settings.reconnect (run (.ofSettings settings) earlier) moment where
  arms := by
    intro running before after split
    exact (History.extend_arms automatic running (settings.ordered_of_valid valid) split).2
  armed := by
    intro timer timed
    have next := History.run_concat (.ofSettings settings) earlier moment
    have running := History.running_of_armed (next ▸ timed)
    exact (History.extend_armed automatic (next ▸ running) timed).imp_left And.left
  held := by
    intro timer timed
    have next := History.run_concat (.ofSettings settings) earlier moment
    rw [← next] at timed ⊢
    exact History.held_run automatic (settings.ordered_of_valid valid) timed
  hurries := by
    intro event told eager armed
    obtain ⟨timer, timed⟩ := Option.isSome_iff_exists.1 armed
    obtain ⟨phase, kept, outages⟩ := History.extend_hurries timed told eager
    exact ⟨phase, congrArg Retry.timer kept, congrArg Retry.backoff kept, outages⟩
  resets := fun opens connecting =>
    History.extend_resets automatic (settings.ordered_of_valid valid) connecting opens
  fires := fun rings _ timed => History.extend_fires timed rings
  waits := fun keeps rings timer timed => (History.extend_fires timed rings).trans (keeps timer)
  lasts := fun _ timed => History.extend_lasts timed
  counts := by
    intro running
    have ordered := settings.ordered_of_valid valid
    have next := History.run_concat (.ofSettings settings) earlier moment
    rw [← next] at running ⊢
    have backoff := History.backoff_run automatic ordered running
    refine ⟨backoff, _, Span.backoff?_eq ordered _, ?_⟩
    rw [Span.total_ofMillis, Word.toNat_ofNat (ReconnectPolicy.backoffAt_lt _), backoff]
    rfl

def localServer : Settings := { server := "localhost:4000", secure := false }

/-- An attempt fails, and so does the one that follows when its timer rings.  A request cuts the
second wait short, and the socket that opens then is lost over it. -/
def flakyServer : List Moment :=
  [(0, 7, .connect), (0, 7, .take), (5, 7, .meet .refused), (1012, 0, .meet .retryDue),
    (1020, 50, .meet .refused), (1030, 0, .send (.get "/tags")), (1030, 0, .take)].map
    fun (now, jitter, happening) => ⟨.timely now jitter fun _ => false, happening⟩

theorem flakyServer_backs_off :
    localServer.validate = .ok () ∧ localServer.reconnect.automatic = true ∧
      (run (.ofSettings localServer) (flakyServer.take 3)).connection.retryTimer =
        some ⟨5, 1007⟩ ∧
      (run (.ofSettings localServer) (flakyServer.take 4)).connection.phase = .connecting ∧
      (run (.ofSettings localServer) (flakyServer.take 5)).connection.retryTimer =
        some ⟨1020, 2050⟩ ∧
      ((run (.ofSettings localServer) flakyServer).extend
        ⟨.timely 1040 100 fun _ => false, .meet .opened⟩).connection.retryTimer =
          some ⟨1040, 1100⟩ ∧
      (Surroundings.timely 1040 100 fun _ => false).KeepsTime ∧
      BacksOff localServer.reconnect (run (.ofSettings localServer) flakyServer)
        ⟨.timely 1040 100 fun _ => false, .meet .opened⟩ :=
  ⟨by decide +kernel, rfl, by decide +kernel, by decide +kernel, by decide +kernel,
    by decide +kernel, Surroundings.timely_keepsTime _ _ _,
    retries_back_off localServer (by decide +kernel) rfl flakyServer _⟩

end BookmarkHub
