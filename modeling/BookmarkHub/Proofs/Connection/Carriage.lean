import BookmarkHub.Proofs.Connection.Moments

/-!
# Where numbered requests are

As long as a connection runs, every request in its table waits out the pacing
delay, or was written to the socket that is open.  Nothing but a text that is
read resolves a request with a response.
-/

set_option autoImplicit false

namespace BookmarkHub

namespace Connection

/-- Every request in the table waits out the delay, or was written to the open socket. -/
def Carried (connection : Connection) (trace : Trace) : Prop :=
  ∀ id ticket, connection.pending.find? id = some ticket →
    (∃ entry ∈ connection.paced, entry.id = id) ∨
      ∃ socket request, connection.writer = some socket ∧ .write socket id request ∈ trace

/-- What is done keeps requests where they can be, and answers nobody. -/
structure Carries (before : Connection) (handled : Handled) : Prop where
  kept : ∀ trace, Carried before trace → Carried handled.1 (trace ++ handled.2)
  unanswered : ∀ ticket response, .resolve ticket (.ok response) ∉ handled.2

section Carries
variable (around : Surroundings) {connection : Connection}

theorem carried_of_empty {trace : Trace} (nobody : connection.pending = Table.empty) :
    Carried connection trace := by
  intro id ticket found
  rw [nobody] at found
  cases found

theorem carries_same {after : Connection} {effects : Trace}
    (pending : after.pending = connection.pending) (paced : after.paced = connection.paced)
    (writer : after.writer = connection.writer ∨ connection.pending = Table.empty)
    (unanswered : ∀ ticket response, .resolve ticket (.ok response) ∉ effects) :
    Carries connection (after, effects) := by
  refine ⟨fun trace carried => ?_, unanswered⟩
  rcases writer with writer | nobody
  · intro id ticket found
    rw [pending] at found
    rcases carried id ticket found with waits | ⟨socket, request, held, written⟩
    · exact Or.inl (paced ▸ waits)
    · exact Or.inr ⟨socket, request, writer.trans held, List.mem_append_left _ written⟩
  · exact carried_of_empty (pending.trans nobody)

theorem carries_andThen {first : Handled} {next : Connection → Handled}
    (before : Carries connection first) (after : Carries first.1 (next first.1)) :
    Carries connection (andThen first next) := by
  refine ⟨fun trace carried => ?_, fun ticket response told => ?_⟩
  · have kept := after.kept _ (before.kept trace carried)
    rw [List.append_assoc] at kept
    exact kept
  · rcases List.mem_append.1 told with earlier | later
    · exact before.unanswered ticket response earlier
    · exact after.unanswered ticket response later

variable (connection) in
theorem loseSocket_carries : Carries connection (loseSocket around connection) := by
  obtain ⟨timer, backoff, lost⟩ := loseSocket_eq around connection
  rw [lost]
  refine ⟨fun trace _ => carried_of_empty rfl, fun ticket response told => ?_⟩
  simp only [List.mem_append, List.mem_map, List.mem_cons, Trace.rejections] at told
  rcases told with ⟨socket, _, hungUp⟩ | entered | ⟨other, _, rejected⟩
  · cases hungUp
  · cases entered
  · cases rejected

theorem transmit_carries (queued : Queued) {socket : Nat}
    (held : connection.writer = some socket) :
    Carries connection (transmit around queued connection) := by
  -- the request that is numbered is the only new one in the table
  have old {id : Nat} {ticket : Ticket}
      (found : (numbered queued connection).pending.find? id = some ticket) :
      id = connection.lastId + 1 ∨ connection.pending.find? id = some ticket := by
    rw [numbered_pending, Table.find?_insert] at found
    split at found
    · rename_i same
      exact Or.inl (Nat.compare_eq_eq.1 same)
    · exact Or.inr found
  rcases transmit_cases around connection queued held with
    ⟨delay, _, waits⟩ | ⟨_, written⟩ | ⟨_, lost⟩
  · rw [waits]
    refine ⟨fun trace carried id ticket found => ?_, by simp⟩
    rcases old found with rfl | before
    · refine Or.inl ⟨_, List.mem_append_right _ (List.mem_singleton_self _), rfl⟩
    · rcases carried id ticket before with ⟨entry, member, same⟩ | ⟨other, request, isOpen, wrote⟩
      · exact Or.inl ⟨entry, List.mem_append_left _ member, same⟩
      · exact Or.inr ⟨other, request, isOpen, List.mem_append_left _ wrote⟩
  · rw [written]
    refine ⟨fun trace carried id ticket found => ?_, by simp⟩
    rcases old found with rfl | before
    · exact Or.inr ⟨socket, (nextNumbering queued connection).request, held, by simp⟩
    · rcases carried id ticket before with waits | ⟨other, request, isOpen, wrote⟩
      · exact Or.inl waits
      · exact Or.inr ⟨other, request, isOpen, List.mem_append_left _ wrote⟩
  · have losing := loseSocket_carries around (numbered queued connection)
    rw [lost]
    refine ⟨fun trace _ => ?_, fun ticket response told => ?_⟩
    · obtain ⟨timer, backoff, closed⟩ := loseSocket_eq around (numbered queued connection)
      rw [closed]
      exact carried_of_empty rfl
    · rcases List.mem_cons.1 told with numbering | later
      · cases numbering
      · exact losing.unanswered ticket response later

theorem flush_carries (queue : List Queued) (standing : Standing connection)
    (isOpen : connection.phase = .connected) :
    Carries connection (flush around queue connection) := by
  induction queue generalizing connection with
  | nil =>
      refine carries_same rfl rfl (Or.inl rfl) fun ticket response told => ?_
      obtain ⟨listener, _, notified⟩ := List.mem_map.1 told
      cases notified
  | cons first rest ih =>
      have stands := standing.withQueue rest
      obtain ⟨socket, held, _⟩ := stands.socket isOpen
      have sent := transmit_carries around first held
      refine carries_andThen ⟨sent.kept, sent.unanswered⟩ ?_
      rcases transmit_standing around stands first isOpen with
        ⟨stillStands, stillOpen, _⟩ | ⟨_, lost⟩
      · simp only [stillOpen]
        exact ih stillStands stillOpen
      · simp only [lost]
        exact carries_same rfl rfl (Or.inl rfl) (by simp)

theorem takeSocket_carries (coherent : Coherent connection)
    (connecting : connection.phase = .connecting) :
    Carries connection
      (andThen (adopted connection, [.enter .connected]) (flush around connection.queue)) := by
  have shut : connection.phase ≠ .connected := by simp [connecting]
  have nobody : connection.pending = Table.empty := coherent.pending shut
  refine carries_andThen (carries_same rfl rfl (Or.inr nobody) (by simp)) ?_
  exact flush_carries around connection.queue (adopted_standing coherent connecting) rfl

variable (connection) in
theorem failConnect_carries :
    Carries connection (failConnect around { connection with dialing := false }) := by
  obtain ⟨timer, backoff, failed⟩ := failConnect_eq around { connection with dialing := false }
  rw [failed]
  exact carries_same rfl rfl (Or.inl rfl) (by simp)

theorem released_carried {first : Paced} {rest : List Paced} {trace effects : Trace}
    (carried : Carried connection trace) (oldest : connection.paced = first :: rest)
    (gone : connection.pending.contains first.id = true →
      ∃ socket request, connection.writer = some socket ∧
        .write socket first.id request ∈ effects) :
    Carried (released rest connection) (trace ++ effects) := by
  intro id ticket found
  rcases carried id ticket found with ⟨entry, member, same⟩ | ⟨socket, request, held, written⟩
  · rw [oldest] at member
    rcases List.mem_cons.1 member with rfl | later
    · have tabled : connection.pending.contains entry.id = true := by
        rw [same, Table.contains]
        exact Option.isSome_iff_exists.2 ⟨ticket, found⟩
      obtain ⟨socket, request, held, written⟩ := gone tabled
      rw [same] at written
      exact Or.inr ⟨socket, request, held, List.mem_append_right _ written⟩
    · exact Or.inl ⟨entry, later, same⟩
  · exact Or.inr ⟨socket, request, held, List.mem_append_left _ written⟩

variable {around} in
/-- An answer comes from a text that is read while its caller is in the table; what is
done otherwise answers nobody. -/
theorem Deed.carries {event : ConnectionEvent} {handled : Handled} (coherent : Coherent connection)
    (deed : Deed around connection event handled) :
    Carries connection handled ∨ ∃ text socket response ticket,
      connection.reader = some socket ∧ Json.ofText Response.read text = .ok response ∧
      connection.pending.find? response.id.toNat = some ticket ∧
      handled = ({ connection with pending := connection.pending.erase response.id.toNat },
        [.receive socket text, .resolve ticket (.ok response)]) := by
  cases deed with
  | nothing | listen | count | dial | enqueue | enqueueAndDial | ignore =>
      exact Or.inl (carries_same rfl rfl (Or.inl rfl) (by simp))
  | transmit ticket request isOpen =>
      obtain ⟨socket, held, _⟩ := coherent.socket isOpen
      have taken : Carries connection (connection, [.accept ⟨ticket, request⟩]) :=
        carries_same rfl rfl (Or.inl rfl) (by simp)
      exact Or.inl (carries_andThen taken (transmit_carries _ ⟨ticket, request⟩ held))
  | takeSocket connecting => exact Or.inl (takeSocket_carries _ coherent connecting)
  | fail => exact Or.inl (failConnect_carries _ connection)
  | answer text socket response ticket held decoded found =>
      exact Or.inr ⟨text, socket, response, ticket, held, decoded, found, rfl⟩
  | lose => exact Or.inl (loseSocket_carries _ connection)
  | release first rest socket oldest held =>
      refine Or.inl ⟨fun trace carried => ?_, by simp⟩
      refine released_carried carried oldest fun _ => ⟨socket, first.request, held, by simp⟩
  | skip first rest oldest untabled =>
      refine Or.inl ⟨fun trace carried => ?_, by simp⟩
      refine released_carried carried oldest fun tabled => ?_
      rw [untabled] at tabled
      cases tabled

theorem handle_carried (coherent : Coherent connection) (event : ConnectionEvent)
    (goesOn : event ≠ .close) {trace : Trace} (carried : Carried connection trace) :
    Carried (handle around event connection).1
      (trace ++ (handle around event connection).2) := by
  rcases (handle_deed around coherent event goesOn).carries coherent with
    carries | ⟨text, socket, response, ticket, _, _, _, answered⟩
  · exact carries.kept trace carried
  · rw [answered]
    intro id other found
    rw [Table.find?_erase] at found
    split at found
    · cases found
    · rcases carried id other found with waits | ⟨held, request, isOpen, written⟩
      · exact Or.inl waits
      · exact Or.inr ⟨held, request, isOpen, List.mem_append_left _ written⟩

theorem Carried.append {connection : Connection} {trace : Trace}
    (carried : Carried connection trace) (effects : Trace) :
    Carried connection (trace ++ effects) := by
  intro id ticket found
  rcases carried id ticket found with waits | ⟨socket, request, held, written⟩
  · exact Or.inl waits
  · exact Or.inr ⟨socket, request, held, List.mem_append_left _ written⟩

theorem carried_run (options : ConnectionOptions) (moments : List Moment)
    (running : (History.run options moments).connection.stopped = false) :
    Carried (History.run options moments).connection (History.run options moments).trace := by
  refine History.running_induction options Carried (carried_of_empty rfl) ?_ ?_ moments running
  · intro connection trace effects _ carried
    exact carried.append effects
  · intro around connection event trace coherent goesOn carried
    exact handle_carried around coherent event goesOn carried

end Carries

end Connection

end BookmarkHub
