import BookmarkHub.Proofs.Connection.Coherence
import Mathlib.Data.List.Nodup

/-!
# The books of a connection

Every request that was taken from a caller waits in the queue, or waits in the
table under its number, or is resolved.  Numbers are given in the order of the
queue, and what is written follows the numbers.  `Ledger` says so of a
connection and of everything it has done; each thing that a handler does keeps
it.
-/

set_option autoImplicit false

namespace BookmarkHub

/-- What a caller may be told of its request: the response that was read just now from
the socket on which the request got its number, or that the connection was lost or closed. -/
def Fair (past : Trace) (ticket : Ticket) : Outcome → Prop
  | .ok response =>
      ∃ before socket text, past = before ++ [.receive socket text] ∧
        Json.ofText Response.read text = .ok response ∧
        ∃ numbering ∈ past.numberings, numbering.queued.ticket = ticket ∧
          numbering.id = response.id.toNat ∧ numbering.socket = some socket
  | .error failure => failure = .disconnected ∨ failure = .closed

/-- What must have come before something is done. -/
def Lawful (past : Trace) : ConnectionEffect → Prop
  | .write socket id request =>
      ∃ numbering ∈ past.numberings, numbering.line = (some socket, id, request) ∧
        numbering.queued.ticket ∉ past.resolved
  | .number numbering => numbering.displaced = none
  | .resolve ticket outcome => Fair past ticket outcome
  | .tellCounts _ (.ok counts) => counts.1 + counts.2 = past.unresolved.length
  | .tellCounts _ (.error failure) => failure = .closed
  | _ => True

namespace Connection

open Trace (Always Silent rejections)

/-- The books of a connection after everything it has done, `unsent` being the
lines of requests that were numbered and are about to be written. -/
structure Ledger (connection : Connection) (trace : Trace) (unsent : List WireLine) : Prop where
  ids : trace.numberings.map Numbering.id = List.range' 1 connection.lastId
  order : (trace.numberings.map Numbering.queued ++ connection.queue).Sublist trace.accepted
  tabled : ∀ id ticket, connection.pending.find? id = some ticket →
    ∃ numbering ∈ trace.numberings, numbering.id = id ∧ numbering.queued.ticket = ticket ∧
      numbering.socket = connection.writer
  wire : (trace.written ++ (connection.paced.map (Paced.line connection.writer) ++ unsent)).Sublist
    (trace.numberings.map Numbering.line)
  custody : (waiting connection ++ trace.resolved).Perm (trace.accepted.map Queued.ticket)
  distinct : (trace.accepted.map Queued.ticket).Nodup
  lawful : Always Lawful [] trace

theorem ledger_create (options : ConnectionOptions) : Ledger (create options) [] [] where
  ids := rfl
  order := by simp [create]
  tabled := by simp [create]
  wire := by simp [create]
  custody := by simp [create, waiting]
  distinct := by simp
  lawful := trivial

section Ledger
variable {connection : Connection} {trace : Trace} {unsent : List WireLine}

/-! ## What the books tell -/

theorem Ledger.fresh (ledger : Ledger connection trace unsent) :
    connection.pending.find? (connection.lastId + 1) = none := by
  cases found : connection.pending.find? (connection.lastId + 1) with
  | none => rfl
  | some ticket =>
      obtain ⟨numbering, given, same, _⟩ := ledger.tabled _ _ found
      have among : numbering.id ∈ List.range' 1 connection.lastId := by
        rw [← ledger.ids]
        exact List.mem_map_of_mem given
      rw [List.mem_range'_1] at among
      omega

theorem Ledger.unresolved_of_waiting (ledger : Ledger connection trace unsent) {ticket : Ticket}
    (waits : ticket ∈ waiting connection) : ticket ∉ trace.resolved := by
  have apart := (ledger.custody.nodup_iff.2 ledger.distinct)
  exact fun resolved => (List.nodup_append.1 apart).2.2 ticket waits ticket resolved rfl

theorem Ledger.waiting_perm (ledger : Ledger connection trace unsent) :
    (waiting connection).Perm trace.unresolved := by
  have kept := ledger.custody.filter fun ticket => ticket ∉ trace.resolved
  have unresolved : (waiting connection).filter (fun ticket => ticket ∉ trace.resolved) =
      waiting connection := by
    refine List.filter_eq_self.2 fun ticket waits => ?_
    simpa using ledger.unresolved_of_waiting waits
  have resolved : trace.resolved.filter (fun ticket => ticket ∉ trace.resolved) = [] := by
    refine List.filter_eq_nil_iff.2 fun ticket member => ?_
    simpa using member
  rw [List.filter_append, unresolved, resolved, List.append_nil] at kept
  exact kept

theorem Ledger.counts (ledger : Ledger connection trace unsent) :
    connection.counts.1 + connection.counts.2 = trace.unresolved.length := by
  rw [← ledger.waiting_perm.length_eq]
  simp [Connection.counts, waiting, Table.size_eq_length_values]

theorem numbering_unique {last : Nat} (ids : trace.numberings.map Numbering.id = List.range' 1 last)
    {first second : Numbering} (one : first ∈ trace.numberings) (other : second ∈ trace.numberings)
    (same : first.id = second.id) : first = second := by
  have distinct : (trace.numberings.map Numbering.id).Nodup := by
    rw [ids]
    exact List.nodup_range'
  exact List.inj_on_of_nodup_map distinct one other same

section Given
variable {numbering : Numbering}

/-- The number of a request stays in the table until its caller is told what became of it. -/
theorem Ledger.contains_iff (ledger : Ledger connection trace unsent)
    (given : numbering ∈ trace.numberings) :
    connection.pending.contains numbering.id = true ↔
      numbering.queued.ticket ∉ trace.resolved := by
  constructor
  · intro tabled
    obtain ⟨ticket, found⟩ := Option.isSome_iff_exists.1 tabled
    obtain ⟨other, alsoGiven, same, waits, _⟩ := ledger.tabled _ _ found
    obtain rfl := numbering_unique ledger.ids alsoGiven given same
    rw [waits]
    exact ledger.unresolved_of_waiting (List.mem_append_left _ (Table.mem_values_of_find? found))
  · intro unresolved
    have tickets := (ledger.order.map Queued.ticket).nodup ledger.distinct
    rw [List.map_append, List.map_map] at tickets
    obtain ⟨distinct, _, apart⟩ := List.nodup_append.1 tickets
    have numbered := List.mem_map_of_mem (f := Queued.ticket ∘ Numbering.queued) given
    have taken : numbering.queued.ticket ∈ trace.accepted.map Queued.ticket :=
      List.mem_map_of_mem (ledger.order.subset (List.mem_append_left _ (List.mem_map_of_mem given)))
    have waits : numbering.queued.ticket ∈ waiting connection :=
      (List.mem_append.1 (ledger.custody.mem_iff.2 taken)).resolve_right unresolved
    -- a request with a number has left the queue
    have value := (List.mem_append.1 waits).resolve_right fun queued =>
      apart _ numbered _ queued rfl
    obtain ⟨id, found⟩ := Table.find?_of_mem_values value
    obtain ⟨other, alsoGiven, same, caller, _⟩ := ledger.tabled _ _ found
    obtain rfl := List.inj_on_of_nodup_map distinct alsoGiven given caller
    rw [same]
    exact Option.isSome_iff_exists.2 ⟨_, found⟩

theorem Ledger.line_unique (ledger : Ledger connection trace unsent)
    (given : numbering ∈ trace.numberings) {line : WireLine}
    (known : line ∈ trace.numberings.map Numbering.line) (same : line.2.1 = numbering.id) :
    line = numbering.line := by
  obtain ⟨other, alsoGiven, rfl⟩ := List.mem_map.1 known
  rw [numbering_unique ledger.ids alsoGiven given same]

theorem Ledger.line_written (ledger : Ledger connection trace unsent)
    (given : numbering ∈ trace.numberings) {socket : Nat} {request : Request}
    (member : .write socket numbering.id request ∈ trace) : numbering.line ∈ trace.written := by
  have written := Trace.written_of_mem member
  have known := ledger.wire.subset (List.mem_append_left _ written)
  rw [← ledger.line_unique given known rfl]
  exact written

theorem Ledger.line_of_paced (ledger : Ledger connection trace unsent)
    (given : numbering ∈ trace.numberings) {entry : Paced} (member : entry ∈ connection.paced)
    (same : entry.id = numbering.id) : entry.line connection.writer = numbering.line := by
  have waits := List.mem_map_of_mem (f := Paced.line connection.writer) member
  have known := ledger.wire.subset (List.mem_append_right _ (List.mem_append_left _ waits))
  exact ledger.line_unique given known same

theorem Ledger.unwritten_of_paced (ledger : Ledger connection trace unsent)
    {entry : Paced} (member : entry ∈ connection.paced) (same : entry.id = numbering.id) :
    numbering.line ∉ trace.written := by
  intro written
  have ids : (trace.numberings.map Numbering.id).Nodup := by
    rw [ledger.ids]
    exact List.nodup_range'
  have distinct := (ledger.wire.map fun line : WireLine => line.2.1).nodup
    (by rw [List.map_map]; exact ids)
  rw [List.map_append, List.map_append] at distinct
  have sent : numbering.id ∈ trace.written.map fun line => line.2.1 :=
    List.mem_map.2 ⟨_, written, rfl⟩
  have waits : numbering.id ∈ (connection.paced.map (Paced.line connection.writer)).map
      fun line => line.2.1 := by
    rw [← same]
    exact List.mem_map.2 ⟨_, List.mem_map_of_mem member, rfl⟩
  exact (List.nodup_append.1 distinct).2.2 _ sent _ (List.mem_append_left _ waits) rfl

end Given

theorem Ledger.lawful_write (ledger : Ledger connection trace unsent) {first : Paced}
    {rest : List Paced} {socket : Nat} (oldest : connection.paced = first :: rest)
    (isOpen : connection.writer = some socket)
    (tabled : connection.pending.contains first.id = true) :
    Lawful trace (.write socket first.id first.request) := by
  have line : first.line (some socket) ∈ trace.numberings.map Numbering.line := by
    refine ledger.wire.subset ?_
    simp [oldest, isOpen]
  -- the number in the wire order is the one in the table
  obtain ⟨numbering, given, same⟩ := List.mem_map.1 line
  have number : numbering.id = first.id := congrArg (fun line => line.2.1) same
  exact ⟨numbering, given, same, (ledger.contains_iff given).1 (number ▸ tabled)⟩

/-! ## What keeps the books -/

structure SameBooks (before after : Connection) : Prop where
  lastId : after.lastId = before.lastId
  pending : after.pending = before.pending
  queue : after.queue = before.queue
  paced : after.paced = before.paced
  writer : after.writer = before.writer ∨ before.pending = Table.empty ∧ before.paced = []

theorem Ledger.same (ledger : Ledger connection trace unsent) {after : Connection}
    (same : SameBooks connection after) : Ledger after trace unsent := by
  obtain ⟨lastId, pending, queue, paced, writer⟩ := same
  have waits : waiting after = waiting connection := by rw [waiting, waiting, pending, queue]
  refine ⟨?_, ?_, ?_, ?_, ?_, ledger.distinct, ledger.lawful⟩
  · rw [lastId]
    exact ledger.ids
  · rw [queue]
    exact ledger.order
  · intro id ticket found
    rw [pending] at found
    rcases writer with writer | ⟨none, _⟩
    · rw [writer]
      exact ledger.tabled id ticket found
    · rw [none] at found
      cases found
  · rcases writer with writer | ⟨_, none⟩
    · rw [paced, writer]
      exact ledger.wire
    · simpa [paced, none] using ledger.wire
  · rw [waits]
    exact ledger.custody

theorem Ledger.tell (ledger : Ledger connection trace unsent) {effects : Trace}
    (accepted : effects.accepted = []) (numberings : effects.numberings = [])
    (written : effects.written = []) (resolved : effects.resolved = [])
    (lawful : Always Lawful trace effects) : Ledger connection (trace ++ effects) unsent where
  ids := by simpa [numberings] using ledger.ids
  order := by simpa [numberings, accepted] using ledger.order
  tabled := by simpa [numberings] using ledger.tabled
  wire := by simpa [numberings, written] using ledger.wire
  custody := by simpa [accepted, resolved] using ledger.custody
  distinct := by simpa [accepted] using ledger.distinct
  lawful := (Trace.always_append [] trace effects).2 ⟨ledger.lawful, lawful⟩

theorem lawful_of_silent {effects : Trace} (silent : effects.Silent) (past : Trace) :
    Always Lawful past effects :=
  Trace.always_of_forall past effects fun before effect member => by
    have quiet := silent effect member
    cases effect <;> trivial

theorem Ledger.quiet (ledger : Ledger connection trace unsent) {after : Connection}
    {effects : Trace} (same : SameBooks connection after) (silent : effects.Silent) :
    Ledger after (trace ++ effects) unsent :=
  (ledger.same same).tell (Trace.accepted_silent silent) (Trace.numberings_silent silent)
    (Trace.written_silent silent) (Trace.resolved_silent silent) (lawful_of_silent silent trace)

theorem Ledger.count (ledger : Ledger connection trace unsent) (caller : Nat) :
    Ledger connection (trace ++ [.tellCounts caller (.ok connection.counts)]) unsent :=
  ledger.tell rfl rfl rfl rfl ⟨ledger.counts, trivial⟩

theorem Ledger.forget (ledger : Ledger connection trace unsent) : Ledger connection trace [] := by
  refine { ledger with wire := ?_ }
  refine List.Sublist.trans ?_ ledger.wire
  refine (List.Sublist.refl _).append ((List.Sublist.refl _).append ?_)
  exact List.nil_sublist unsent

theorem Ledger.enqueue (ledger : Ledger connection trace unsent) (queued : Queued)
    (unknown : queued.ticket ∉ trace.accepted.map Queued.ticket) :
    Ledger { connection with queue := connection.queue ++ [queued] }
      (trace ++ [.accept queued]) unsent where
  ids := by simpa using ledger.ids
  order := by
    simpa using ledger.order.append (List.Sublist.refl [queued])
  tabled := by simpa using ledger.tabled
  wire := by simpa using ledger.wire
  custody := by
    have moved : (waiting { connection with queue := connection.queue ++ [queued] } ++
        trace.resolved).Perm ((waiting connection ++ trace.resolved) ++ [queued.ticket]) := by
      simp only [waiting, List.map_append, List.append_assoc, List.map_cons, List.map_nil]
      exact (List.perm_append_comm.append_left _).append_left _
    simpa using moved.trans (ledger.custody.append_right [queued.ticket])
  distinct := by
    simp only [Trace.accepted_append, List.map_append]
    refine List.nodup_append.2 ⟨ledger.distinct, by simp, ?_⟩
    rintro ticket known _ (last : _ ∈ [queued.ticket]) same
    rw [List.mem_singleton] at last
    exact unknown (last ▸ same ▸ known)
  lawful := (Trace.always_append [] trace _).2 ⟨ledger.lawful, trivial, trivial⟩

theorem Ledger.number {first : Queued}
    (ledger : Ledger { connection with queue := first :: connection.queue } trace []) :
    Ledger (numbered first connection) (trace ++ [.number (nextNumbering first connection)])
      [(nextNumbering first connection).line] where
  ids := by
    have earlier : trace.numberings.map Numbering.id = List.range' 1 connection.lastId := ledger.ids
    simp [earlier, List.range'_1_concat, Nat.add_comm]
  order := by simpa using ledger.order
  tabled := by
    intro id ticket found
    simp only [numbered_pending, Table.find?_insert, Nat.compare_eq_eq] at found
    split at found
    · rename_i newest
      cases found
      exact ⟨nextNumbering first connection, by simp, newest.symm, rfl, rfl⟩
    · obtain ⟨numbering, given, rest⟩ := ledger.tabled id ticket found
      exact ⟨numbering, by simp [given], rest⟩
  wire := by
    have earlier := ledger.wire.append (List.Sublist.refl [(nextNumbering first connection).line])
    simpa using earlier
  custody := by
    have inserted := Table.values_insert_perm connection.pending (connection.lastId + 1)
      first.ticket ledger.fresh
    -- the ticket goes from the queue to the table
    have moved : (waiting (numbered first connection)).Perm
        (waiting { connection with queue := first :: connection.queue }) := by
      simp only [waiting, numbered_pending, numbered_queue, List.map_cons]
      exact (inserted.append_right _).trans List.perm_middle.symm
    simpa using (moved.append_right trace.resolved).trans ledger.custody
  distinct := by simpa using ledger.distinct
  lawful := (Trace.always_append [] trace _).2 ⟨ledger.lawful, ledger.fresh, trivial⟩

theorem Ledger.lawful_number {first : Queued} {socket : Nat}
    (ledger : Ledger (numbered first connection)
      (trace ++ [.number (nextNumbering first connection)]) unsent)
    (isOpen : connection.writer = some socket) :
    Lawful (trace ++ [.number (nextNumbering first connection)])
      (.write socket (nextNumbering first connection).id
        (nextNumbering first connection).request) := by
  have found : (numbered first connection).pending.find? (connection.lastId + 1) =
      some first.ticket := by
    simp [Table.find?_insert, Std.ReflCmp.compare_self]
  refine ⟨nextNumbering first connection, by simp, ?_, ?_⟩
  · simp [Numbering.line, isOpen]
  · exact ledger.unresolved_of_waiting
      (List.mem_append_left _ (Table.mem_values_of_find? found))

theorem Ledger.write {socket id : Nat} {request : Request}
    (ledger : Ledger connection trace [(some socket, id, request)])
    (nobody : connection.paced = []) (lawful : Lawful trace (.write socket id request)) :
    Ledger connection (trace ++ [.write socket id request]) [] where
  ids := by simpa using ledger.ids
  order := by simpa using ledger.order
  tabled := by simpa using ledger.tabled
  wire := by simpa [nobody] using ledger.wire
  custody := by simpa using ledger.custody
  distinct := by simpa using ledger.distinct
  lawful := (Trace.always_append [] trace _).2 ⟨ledger.lawful, lawful, trivial⟩

theorem Ledger.pace (around : Surroundings) (delay id : Nat) (request : Request)
    (ledger : Ledger connection trace [(connection.writer, id, request)]) :
    Ledger (pace around delay id request connection) trace [] :=
  { ledger with
    wire := by simpa [Connection.pace, Paced.line] using ledger.wire }

section Oldest
variable {first : Paced} {rest : List Paced} (oldest : connection.paced = first :: rest)
  (timer : Option Nat)
include oldest

theorem Ledger.skip (ledger : Ledger connection trace unsent) :
    Ledger { connection with paced := rest, paceTimer := timer } trace unsent := by
  have fewer : (trace.written ++ (rest.map (Paced.line connection.writer) ++ unsent)).Sublist
      (trace.written ++ (connection.paced.map (Paced.line connection.writer) ++ unsent)) := by
    rw [oldest]
    exact (List.Sublist.refl _).append ((List.sublist_cons_self _ _).append (List.Sublist.refl _))
  exact { ledger with wire := fewer.trans ledger.wire }

theorem Ledger.release {socket : Nat} (ledger : Ledger connection trace unsent)
    (isOpen : connection.writer = some socket)
    (tabled : connection.pending.contains first.id = true) :
    Ledger { connection with paced := rest, paceTimer := timer }
      (trace ++ [.write socket first.id first.request]) unsent where
  ids := by simpa using ledger.ids
  order := by simpa using ledger.order
  tabled := by simpa using ledger.tabled
  wire := by simpa [oldest, isOpen, Paced.line] using ledger.wire
  custody := by simpa [waiting] using ledger.custody
  distinct := by simpa using ledger.distinct
  lawful := (Trace.always_append [] trace _).2
    ⟨ledger.lawful, ledger.lawful_write oldest isOpen tabled, trivial⟩

end Oldest

theorem lawful_of_rejections {failure : Failure}
    (allowed : failure = .disconnected ∨ failure = .closed) (tickets : List Ticket)
    (past : Trace) : Always Lawful past (rejections failure tickets) :=
  Trace.always_of_forall past _ fun before effect member => by
    obtain ⟨ticket, _, rfl⟩ := List.mem_map.1 member
    exact allowed

theorem Ledger.drop (ledger : Ledger connection trace unsent) {after : Connection}
    {failure : Failure} {first last : Trace}
    (allowed : failure = .disconnected ∨ failure = .closed) (before : first.Silent)
    (behind : last.Silent) (lastId : after.lastId = connection.lastId) (queue : after.queue = [])
    (pending : after.pending = Table.empty) (paced : after.paced = []) :
    Ledger after (trace ++ (first ++ (rejections failure (waiting connection) ++ last))) [] where
  ids := by
    simpa [Trace.numberings_silent before, Trace.numberings_silent behind, lastId] using ledger.ids
  order := by
    have shorter := (List.sublist_append_left _ connection.queue).trans ledger.order
    simpa [Trace.numberings_silent before, Trace.numberings_silent behind,
      Trace.accepted_silent before, Trace.accepted_silent behind, queue] using shorter
  tabled := by simp [pending]
  wire := by
    have shorter := (List.sublist_append_left trace.written _).trans ledger.wire
    simpa [Trace.numberings_silent before, Trace.numberings_silent behind,
      Trace.written_silent before, Trace.written_silent behind, paced] using shorter
  custody := by
    have nobody : waiting after = [] := by simp [waiting, pending, queue]
    have moved := List.perm_append_comm.trans ledger.custody
    simpa [Trace.accepted_silent before, Trace.accepted_silent behind,
      Trace.resolved_silent before, Trace.resolved_silent behind, nobody] using moved
  distinct := by
    simpa [Trace.accepted_silent before, Trace.accepted_silent behind] using ledger.distinct
  lawful := by
    simp only [Trace.always_append]
    exact ⟨ledger.lawful, lawful_of_silent before _, lawful_of_rejections allowed _ _,
      lawful_of_silent behind _⟩

theorem Ledger.answer (ledger : Ledger connection trace unsent) {socket : Nat} {text : String}
    {response : Response} {ticket : Ticket} (isOpen : connection.writer = some socket)
    (decoded : Json.ofText Response.read text = .ok response)
    (found : connection.pending.find? response.id.toNat = some ticket) :
    Ledger { connection with pending := connection.pending.erase response.id.toNat }
      (trace ++ ([.receive socket text] ++ [.resolve ticket (.ok response)])) unsent where
  ids := by simpa using ledger.ids
  order := by simpa using ledger.order
  tabled := by
    intro id other held
    simp only [Table.find?_erase, Nat.compare_eq_eq] at held
    split at held
    · cases held
    · simpa using ledger.tabled id other held
  wire := by simpa using ledger.wire
  custody := by
    have erased := Table.values_erase_perm connection.pending response.id.toNat ticket found
    have moved : ((connection.pending.erase response.id.toNat).values ++
        connection.queue.map Queued.ticket ++ (trace.resolved ++ [ticket])).Perm
        (waiting connection ++ trace.resolved) := by
      rw [← List.append_assoc]
      refine (List.perm_append_singleton ..).trans ?_
      exact ((erased.append_right _).append_right _).symm
    simpa [waiting] using moved.trans ledger.custody
  distinct := by simpa using ledger.distinct
  lawful := by
    obtain ⟨numbering, given, id, waits, same⟩ := ledger.tabled _ _ found
    rw [Trace.always_append]
    refine ⟨ledger.lawful, trivial, ?_, trivial⟩
    refine ⟨trace, socket, text, rfl, decoded, numbering, ?_, waits, id, same.trans isOpen⟩
    simpa using given

end Ledger

end Connection

end BookmarkHub
