import BookmarkHub.Proofs.Connection.Moments
import BookmarkHub.Proofs.Connection.Spans
import Mathlib.Algebra.Group.Nat.Defs

/-!
# The backoff

Each time that an attempt fails or a socket is lost, the next attempt waits twice
as long, from the first wait up to the longest, and a socket that opens starts
this over.  The waits are read off the phases that a connection has entered.
-/

set_option autoImplicit false

namespace BookmarkHub

open Connection

/-! ## The law -/

namespace Trace

def outagesAfter (outages : Nat) : Phase → Nat
  | .connecting => outages
  | .connected => 0
  | .disconnected => outages + 1

/-- How many attempts failed and sockets were lost since a socket was last opened, or since the
start. -/
def outages (trace : Trace) : Nat := trace.entered.foldl outagesAfter 0

theorem outages_append (past trace : Trace) :
    outages (past ++ trace) = trace.entered.foldl outagesAfter past.outages := by
  rw [outages, entered_append, List.foldl_append]
  rfl

end Trace

namespace ReconnectPolicy
variable (policy : ReconnectPolicy)

/-- The backoff after outages in a row: the first wait, doubled each time up to the longest. -/
def backoffAt (outages : Nat) : Nat :=
  min (policy.initialBackoff.toNat * 2 ^ outages) policy.maximalBackoff.toNat

def IsOrdered : Prop := policy.initialBackoff ≤ policy.maximalBackoff

variable {policy}

theorem backoffAt_zero (ordered : policy.IsOrdered) :
    policy.backoffAt 0 = policy.initialBackoff.toNat := by
  rw [backoffAt, Nat.pow_zero, Nat.mul_one]
  exact Nat.min_eq_left (UInt64.le_iff_toNat_le.1 ordered)

theorem backoffAt_succ (outages : Nat) :
    policy.backoffAt (outages + 1) =
      min (2 * policy.backoffAt outages) policy.maximalBackoff.toNat := by
  simp only [backoffAt, Nat.pow_succ, ← Nat.mul_assoc]
  omega

theorem backoffAt_lt (outages : Nat) : policy.backoffAt outages < UInt64.size :=
  Nat.lt_of_le_of_lt (Nat.min_le_right ..) policy.maximalBackoff.toNat_lt_size

end ReconnectPolicy

theorem Settings.ordered_of_valid {settings : Settings} (valid : settings.validate = .ok ()) :
    settings.reconnect.IsOrdered := by
  unfold validate at valid
  split at valid
  · cases valid
  · split at valid
    · cases valid
    · split at valid
      · cases valid
      · rename_i ordered
        exact UInt64.not_lt.1 ordered

/-- What a runtime promises: a timer rings once its wait is over, and not before. -/
def Surroundings.KeepsTime (around : Surroundings) : Prop :=
  ∀ timer, around.rings timer = true ↔ timer.armed + timer.wait ≤ around.now

theorem Surroundings.timely_keepsTime (now jitter : Nat) (accepts : Nat → Bool) :
    (timely now jitter accepts).KeepsTime :=
  fun _ => decide_eq_true_iff

/-- What can end the wait for the next attempt. -/
def ConnectionEvent.EndsWait : ConnectionEvent → Prop
  | .connect | .submit _ _ | .close | .retryDue => True
  | _ => False

namespace Connection

theorem le_retryWait (backoff jitter : Nat) (small : backoff ≤ longestWait) :
    backoff ≤ retryWait backoff jitter :=
  Nat.le_min.2 ⟨Nat.le_add_right .., small⟩

theorem retryWait_le (backoff jitter : Nat) :
    retryWait backoff jitter ≤ min (backoff + backoff / 10) longestWait := by
  have drawn : jitter % (backoff / 10 + 1) ≤ backoff / 10 :=
    Nat.le_of_lt_succ (Nat.mod_lt jitter (Nat.succ_pos _))
  have most := Nat.add_le_add_left drawn backoff
  exact Nat.le_min.2 ⟨Nat.le_trans (Nat.min_le_left ..) most, Nat.min_le_right ..⟩

/-! ## What one step does to the retry timer -/

structure Retry where
  backoff : Nat
  timer : Option RetryTimer

def retry (connection : Connection) : Retry := ⟨connection.backoff, connection.retryTimer⟩

/-- The timer is armed for the backoff, and the backoff is doubled. -/
def Retry.rearm (policy : ReconnectPolicy) (around : Surroundings) (retry : Retry) : Retry where
  backoff := min (2 * retry.backoff) policy.maximalBackoff.toNat
  timer := some ⟨around.now, retryWait retry.backoff around.jitter⟩

def Retry.restart (policy : ReconnectPolicy) : Retry := ⟨policy.initialBackoff.toNat, none⟩

/-- What a handler does to an open socket: it keeps it, or it loses it and arms the timer. -/
inductive Loss (policy : ReconnectPolicy) (around : Surroundings) (before : Connection)
    (handled : Handled) : Prop where
  | kept (entered : Trace.entered handled.2 = []) (phase : handled.1.phase = before.phase)
      (same : handled.1.retry = before.retry)
  | lost (entered : Trace.entered handled.2 = [.disconnected])
      (phase : handled.1.phase = .disconnected)
      (rearmed : handled.1.retry = before.retry.rearm policy around)

theorem Loss.after {policy : ReconnectPolicy} {around : Surroundings} {before between : Connection}
    {handled : Handled} (loss : Loss policy around between handled) (effects : Trace)
    (entered : effects.entered = []) (phase : between.phase = before.phase)
    (same : between.retry = before.retry) :
    Loss policy around before (handled.1, effects ++ handled.2) := by
  cases loss with
  | kept none stays unchanged =>
      exact .kept (by rw [Trace.entered_append, entered, none, List.append_nil])
        (stays.trans phase) (unchanged.trans same)
  | lost one shut rearmed =>
      refine .lost (by rw [Trace.entered_append, entered, one, List.nil_append]) shut ?_
      rw [rearmed, same]

/-- What a step does to the timer and the backoff, with the phases that it enters. -/
inductive Turn (policy : ReconnectPolicy) (around : Surroundings) (before : Retry) :
    List Phase → Retry → Prop where
  | rest : Turn policy around before [] before
  | dial : Turn policy around before [.connecting] { before with timer := none }
  | lose : Turn policy around before [.disconnected] (before.rearm policy around)
  | open : Turn policy around before [.connected] (.restart policy)
  | miss : Turn policy around before [.connected, .disconnected]
      ((Retry.restart policy).rearm policy around)

theorem Loss.turn {policy : ReconnectPolicy} {around : Surroundings} {before : Connection}
    {handled : Handled} (loss : Loss policy around before handled) :
    Turn policy around before.retry (Trace.entered handled.2) handled.1.retry := by
  cases loss with
  | kept entered phase same =>
      rw [entered, same]
      exact .rest
  | lost entered phase rearmed =>
      rw [entered, rearmed]
      exact .lose

theorem Coherent.idle_of_armed {connection : Connection} (coherent : Coherent connection)
    {timer : RetryTimer} (timed : connection.retryTimer = some timer) :
    connection.phase = .disconnected :=
  coherent.retry (by rw [timed]; rfl)

section Step
variable {policy : ReconnectPolicy} (around : Surroundings) {connection : Connection}
  (automatic : policy.automatic = true)

theorem scheduleRetry_retry (connection : Connection)
    (automatic : connection.options.reconnect.automatic = true) :
    (scheduleRetry around connection).retry =
      connection.retry.rearm connection.options.reconnect around := by
  rw [scheduleRetry, if_pos automatic]
  rfl

include automatic

theorem loseSocket_loss (same : connection.options.reconnect = policy) :
    Loss policy around connection (loseSocket around connection) := by
  refine .lost ?_ (loseSocket_phase around) ?_
  · obtain ⟨timer, backoff, lost⟩ := loseSocket_eq around connection
    rw [lost]
    simp
  · subst same
    exact scheduleRetry_retry around _ automatic

theorem failConnect_loss (same : connection.options.reconnect = policy) :
    Loss policy around connection (failConnect around connection) := by
  refine .lost rfl ?_ ?_
  · obtain ⟨timer, backoff, failed⟩ := failConnect_eq around connection
    rw [failed]
  · subst same
    exact scheduleRetry_retry around _ automatic

theorem transmit_loss (queued : Queued) {socket : Nat}
    (held : connection.writer = some socket) (same : connection.options.reconnect = policy) :
    Loss policy around connection (transmit around queued connection) := by
  rcases transmit_cases around connection queued held with
    ⟨delay, _, waits⟩ | ⟨_, written⟩ | ⟨_, lost⟩
  · rw [waits]
    exact .kept rfl rfl rfl
  · rw [written]
    exact .kept rfl rfl rfl
  · have numbered : (numbered queued connection).options.reconnect = policy := same
    rw [lost]
    exact (loseSocket_loss around automatic numbered).after [.number _] rfl rfl rfl

/-- A flush that does not lose the socket leaves the timer and the backoff alone, however many
requests it writes. -/
theorem flush_loss (same : connection.options.reconnect = policy) (queue : List Queued)
    (standing : Standing connection) (isOpen : connection.phase = .connected) :
    Loss policy around connection (flush around queue connection) := by
  induction queue generalizing connection with
  | nil =>
      refine .kept ?_ rfl rfl
      have told := Trace.aside_notifications (connection.listeners.map Listener.label)
      rw [List.map_map] at told
      exact Trace.entered_aside told
  | cons first rest ih =>
      have stands := standing.withQueue rest
      obtain ⟨socket, held, _⟩ := stands.socket isOpen
      have options := congrArg ConnectionOptions.reconnect (transmit_options around first held)
      have sent := transmit_loss around automatic first held same
      have stillStands := transmit_standing around stands first isOpen
      simp only [flush, andThen]
      cases sent with
      | kept entered phase unchanged =>
          -- the socket took the request, so the rest of the queue follows
          have stillOpen := phase.trans isOpen
          simp only [stillOpen]
          have standing := (stillStands.resolve_right (by simp [stillOpen])).1
          exact (ih (options.trans same) standing stillOpen).after _ entered phase unchanged
      | lost entered phase rearmed =>
          simp only [phase, List.append_nil]
          exact .lost entered phase rearmed

/-- A socket that opens starts the backoff over, and is kept or lost over the queue. -/
theorem takeSocket_cases (same : connection.options.reconnect = policy)
    (coherent : Coherent connection) (connecting : connection.phase = .connecting) {taken : Handled}
    (takes : takeSocket around { connection with dialing := false } = taken) :
    (Trace.entered taken.2 = [.connected] ∧ taken.1.phase = .connected ∧
      taken.1.retry = .restart policy) ∨
    (Trace.entered taken.2 = [.connected, .disconnected] ∧ taken.1.phase = .disconnected ∧
      taken.1.retry = (Retry.restart policy).rearm policy around) := by
  have standing := adopted_standing coherent connecting
  have policies : (adopted connection).options.reconnect = policy := same
  have unarmed : connection.retryTimer = none := by
    refine Option.eq_none_iff_forall_ne_some.2 fun timer timed => ?_
    have idle := coherent.idle_of_armed timed
    rw [connecting] at idle
    cases idle
  have restarted : (adopted connection).retry = .restart policy := by
    subst same
    exact congrArg (Retry.mk _) unarmed
  subst takes
  rw [takeSocket_eq]
  simp only [andThen, Trace.entered_append]
  cases flush_loss around automatic policies connection.queue standing rfl with
  | kept entered phase unchanged =>
      rw [entered]
      exact .inl ⟨rfl, phase, unchanged.trans restarted⟩
  | lost entered phase rearmed =>
      rw [entered]
      rw [restarted] at rearmed
      exact .inr ⟨rfl, phase, rearmed⟩

/-- Whatever a connection is told, it does one of a few things to the timer and the backoff. -/
theorem Deed.turn {event : ConnectionEvent} {handled : Handled} (coherent : Coherent connection)
    (same : connection.options.reconnect = policy)
    (deed : Deed around connection event handled) :
    Turn policy around connection.retry (Trace.entered handled.2) handled.1.retry := by
  cases deed with
  | nothing | listen | count | ignore | answer | release | skip | enqueue => exact .rest
  | dial | enqueueAndDial => exact .dial
  | transmit ticket request isOpen =>
      obtain ⟨socket, held, _⟩ := coherent.socket isOpen
      exact (transmit_loss around automatic ⟨ticket, request⟩ held same).turn
  | takeSocket connecting =>
      rcases takeSocket_cases around automatic same coherent connecting
        (takeSocket_eq around connection) with ⟨entered, _, kept⟩ | ⟨entered, _, rearmed⟩
      · rw [entered, kept]
        exact .open
      · rw [entered, rearmed]
        exact .miss
  | fail =>
      have policies : ({ connection with dialing := false } : Connection).options.reconnect =
          policy := same
      exact (failConnect_loss around automatic policies).turn
  | lose => exact (loseSocket_loss around automatic same).turn

end Step

/-! ### Waits that end -/

section Waits
variable (around : Surroundings) {connection : Connection}

theorem handle_hurries {event : ConnectionEvent}
    (eager : event = .connect ∨ ∃ ticket request, event = .submit ticket request)
    (idle : connection.phase = .disconnected) :
    (handle around event connection).1.phase = .connecting ∧
      (handle around event connection).1.retry = ⟨connection.backoff, none⟩ ∧
      Trace.entered (handle around event connection).2 = [.connecting] := by
  rcases eager with rfl | ⟨ticket, request, rfl⟩
  · rw [handle, startConnect_of_disconnected connection idle]
    exact ⟨rfl, rfl, rfl⟩
  · simp only [handle, andThen, idle]
    exact ⟨rfl, rfl, rfl⟩

theorem handle_fires (coherent : Coherent connection) {timer : RetryTimer}
    (timed : connection.retryTimer = some timer) :
    .dial ∈ (handle around .retryDue connection).2 ↔ around.rings timer = true := by
  have idle := coherent.idle_of_armed timed
  have begun := startConnect_of_disconnected { connection with retryTimer := none } idle
  simp only [handle, timed, Option.any_some]
  split
  · rename_i rung
    simp [begun, rung]
  · rename_i silent
    simp [silent]

theorem handle_lasts (coherent : Coherent connection) {timer : RetryTimer}
    (timed : connection.retryTimer = some timer) {event : ConnectionEvent}
    (lasts : ¬ event.EndsWait) :
    (handle around event connection).1.retryTimer = some timer ∧
      .dial ∉ (handle around event connection).2 := by
  have idle := coherent.idle_of_armed timed
  have shut : connection.phase ≠ .connected := by simp [idle]
  have undialed : connection.dialing = false := by simpa [idle] using coherent.dialing
  have unread := (coherent.unheld shut).2
  have unpaced : connection.paceTimer = none := by
    rw [coherent.timer, coherent.paced shut]
    rfl
  cases event with
  | connect | submit | close | retryDue => exact (lasts trivial).elim
  | listen | count => simp [handle, timed]
  | opened | refused => simp [handle, undialed, timed]
  | frame | ended => simp [handle, unread, timed]
  | paceDue => simp [handle, unpaced, isDue, timed]

end Waits

/-! ## What the phases say -/

section Phases
variable {policy : ReconnectPolicy} (ordered : policy.IsOrdered) {around : Surroundings}
  {before after : Retry} {phases : List Phase} (turn : Turn policy around before phases after)
include turn

include ordered in
theorem Turn.backoff {outages : Nat} (known : before.backoff = policy.backoffAt outages) :
    after.backoff = policy.backoffAt (phases.foldl Trace.outagesAfter outages) := by
  have doubled (row : Nat) : min (2 * policy.backoffAt row) policy.maximalBackoff.toNat =
      policy.backoffAt (row + 1) := (ReconnectPolicy.backoffAt_succ row).symm
  have first := ReconnectPolicy.backoffAt_zero ordered
  cases turn with
  | rest | dial => exact known
  | lose => exact (congrArg (fun backoff => min (2 * backoff) _) known).trans (doubled outages)
  | «open» => exact first.symm
  | miss => exact (congrArg (fun backoff => min (2 * backoff) _) first.symm).trans (doubled 0)

include ordered in
/-- Nothing comes after an outage in the same step, and the timer is armed for the backoff that
belongs to the outages before it. -/
theorem Turn.arms {outages : Nat} (known : before.backoff = policy.backoffAt outages)
    {earlier later : List Phase} (split : phases = earlier ++ .disconnected :: later) :
    later = [] ∧ after.timer = some ⟨around.now,
      retryWait (policy.backoffAt (earlier.foldl Trace.outagesAfter outages)) around.jitter⟩ := by
  have first := ReconnectPolicy.backoffAt_zero ordered
  cases turn with
  | rest => simp at split
  | dial | «open» => simp [List.cons_eq_append_iff] at split
  | lose =>
      cases earlier with
      | nil =>
          obtain ⟨_, rfl⟩ := List.cons.inj split
          exact ⟨rfl, by simp only [Retry.rearm, known, List.foldl_nil]⟩
      | cons phase rest => simp at split
  | miss =>
      -- the socket was open before it was lost, so that no outage is counted
      obtain ⟨rfl, rfl⟩ : earlier = [.connected] ∧ later = [] := by
        simpa [List.cons_eq_append_iff] using split
      refine ⟨rfl, ?_⟩
      simp only [Retry.rearm, Retry.restart, List.foldl_cons, List.foldl_nil, Trace.outagesAfter,
        first]

theorem Turn.armed {timer : RetryTimer} (armed : after.timer = some timer) :
    (before.timer = some timer ∧ phases = []) ∨ .disconnected ∈ phases := by
  cases turn with
  | rest => exact .inl ⟨armed, rfl⟩
  | dial | «open» => cases armed
  | lose | miss => exact .inr (by simp)

end Phases

end Connection

/-! ## The backoff in machine words -/

namespace Span
variable (policy : ReconnectPolicy)

/-- The backoff once a phase is entered. -/
def carry (backoff : Span) : Phase → Option Span
  | .connecting => some backoff
  | .connected => some (ofMillis policy.initialBackoff)
  | .disconnected => next? backoff (ofMillis policy.maximalBackoff)

def backoff? (phases : List Phase) : Option Span :=
  phases.foldlM (carry policy) (ofMillis policy.initialBackoff)

variable {policy}

theorem carry_eq (ordered : policy.IsOrdered) (outages : Nat) (phase : Phase) :
    carry policy (ofMillis (UInt64.ofNat (policy.backoffAt outages))) phase =
      some (ofMillis (UInt64.ofNat (policy.backoffAt (Trace.outagesAfter outages phase)))) := by
  cases phase with
  | connecting => rfl
  | connected =>
      rw [carry, Trace.outagesAfter, ReconnectPolicy.backoffAt_zero ordered, UInt64.ofNat_toNat]
  | disconnected =>
      rw [carry, Trace.outagesAfter, next?_ofMillis,
        Word.toNat_ofNat (ReconnectPolicy.backoffAt_lt outages), ReconnectPolicy.backoffAt_succ]

/-- No word is too small for the backoff, whatever phases are entered. -/
theorem backoff?_eq (ordered : policy.IsOrdered) (phases : List Phase) :
    backoff? policy phases =
      some (ofMillis (UInt64.ofNat
        (policy.backoffAt (phases.foldl Trace.outagesAfter 0)))) := by
  induction phases using List.reverseRecOn with
  | nil =>
      rw [List.foldl_nil, ReconnectPolicy.backoffAt_zero ordered, UInt64.ofNat_toNat]
      rfl
  | append_singleton earlier phase ih =>
      rw [backoff?] at ih
      rw [backoff?, List.foldlM_append, ih, List.foldl_append]
      simpa using carry_eq ordered _ phase

end Span

end BookmarkHub
