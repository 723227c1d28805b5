import BookmarkHub.Proofs.Connection.Accounts
import Mathlib.Algebra.Group.Nat.Defs

/-!
# The order on the wire

Requests are numbered in the order in which they were taken, and written in the
order of their numbers, over all sockets of a connection.  None is written
twice, and none after its caller was told what became of it.
-/

set_option autoImplicit false

namespace BookmarkHub

/-- Numbers, frames and requests come in one order.  Numbers count from one over all sockets, and
requests are taken and numbered as they were handed in.  A frame is written on the socket on which
its request got the number, and never once its caller was told what became of it. -/
structure Ordered (history : History) : Prop where
  ids : ∃ last, history.trace.numberings.map Numbering.id = List.range' 1 last
  taken : history.trace.accepted <+: withTickets history.requests
  numbered : (history.trace.numberings.map Numbering.queued).Sublist history.trace.accepted
  frames : ∃ sent : List Numbering, sent.Sublist history.trace.numberings ∧
    history.trace.written = sent.map Numbering.line ∧
    (sent.map fun numbering => numbering.queued.ticket).Pairwise (· < ·)
  wire : (history.trace.written.map fun line => line.2.2.id).Pairwise (· < ·)
  unreplayed : ∀ (before after : Trace) (socket id : Nat) (request : Request),
    history.trace = before ++ .write socket id request :: after →
      ∃ numbering ∈ before.numberings, numbering.line = (some socket, id, request) ∧
        history.requests[numbering.queued.ticket]? = some numbering.queued.request ∧
        numbering.queued.ticket ∉ before.resolved

section Ordered
variable {history : History}

theorem Archive.tickets_increase (archive : Archive history) {sent : List Numbering}
    (among : sent.Sublist history.trace.numberings) :
    (sent.map fun numbering => numbering.queued.ticket).Pairwise (· < ·) := by
  have handedIn : (sent.map Numbering.queued).Sublist (withTickets history.requests) :=
    (among.map _).trans (archive.order.trans archive.taken.sublist)
  have tickets := handedIn.map Queued.ticket
  rw [List.map_map, tickets_withTickets] at tickets
  exact List.pairwise_lt_range.sublist tickets

theorem Archive.id_le (archive : Archive history) {numbering : Numbering}
    (given : numbering ∈ history.trace.numberings) :
    numbering.id ≤ history.requests.length := by
  obtain ⟨last, ids⟩ := archive.ids
  have count : history.trace.numberings.length = last := by
    rw [← List.length_map Numbering.id, ids, List.length_range']
  have fewer := (archive.order.trans archive.taken.sublist).length_le
  have handedIn : (withTickets history.requests).length = history.requests.length := by
    simp [withTickets]
  rw [List.length_map, handedIn, count] at fewer
  have among : numbering.id ∈ List.range' 1 last := by
    rw [← ids]
    exact List.mem_map_of_mem given
  rw [List.mem_range'_1] at among
  omega

theorem Archive.ids_increase (archive : Archive history) {sent : List Numbering}
    (among : sent.Sublist history.trace.numberings) :
    sent.Pairwise fun first second => first.id < second.id := by
  obtain ⟨last, ids⟩ := archive.ids
  have increasing : (history.trace.numberings.map Numbering.id).Pairwise (· < ·) := by
    rw [ids]
    exact List.pairwise_lt_range'
  exact (List.pairwise_map.1 increasing).sublist among

/-- With fewer requests than there are numbers for the wire, the wire has the same order. -/
theorem Archive.wire_increases (archive : Archive history)
    (few : history.requests.length < 2 ^ 64) {sent : List Numbering}
    (among : sent.Sublist history.trace.numberings) :
    (sent.map fun numbering => numbering.request.id).Pairwise (· < ·) := by
  have number (numbering : Numbering) (member : numbering ∈ sent) :
      numbering.request.id.toNat = numbering.id := by
    have small := archive.id_le (among.subset member)
    exact UInt64.toNat_ofNat_of_lt' (Nat.lt_of_le_of_lt small few)
  refine List.pairwise_map.2 ?_
  refine (archive.ids_increase among).imp_of_mem fun {first second} one other below => ?_
  rw [UInt64.lt_iff_toNat_lt, number first one, number second other]
  exact below

theorem Archive.unreplayed (archive : Archive history) {before after : Trace} {socket id : Nat}
    {request : Request} (split : history.trace = before ++ .write socket id request :: after) :
    ∃ numbering ∈ before.numberings, numbering.line = (some socket, id, request) ∧
      history.requests[numbering.queued.ticket]? = some numbering.queued.request ∧
      numbering.queued.ticket ∉ before.resolved := by
  obtain ⟨numbering, given, line, unresolved⟩ := Trace.always_split archive.lawful split
  refine ⟨numbering, given, line, ?_, unresolved⟩
  have among : numbering ∈ history.trace.numberings := by
    rw [split]
    simp [given]
  have handedIn := (archive.order.trans archive.taken.sublist).subset
    (List.mem_map_of_mem among)
  exact mem_withTickets handedIn

theorem Archive.ordered (archive : Archive history) (few : history.requests.length < 2 ^ 64) :
    Ordered history := by
  obtain ⟨sent, among, written⟩ := List.sublist_map_iff.1 archive.wire
  refine ⟨archive.ids, archive.taken, archive.order, ?_, ?_, ?_⟩
  · exact ⟨sent, among, written, archive.tickets_increase among⟩
  · rw [written, List.map_map]
    exact archive.wire_increases few among
  · intro before after socket id request split
    exact archive.unreplayed split

end Ordered

/-- In every run of a connection with fewer than 2^64 requests, the wire has the order
of the requests, and nothing is replayed. -/
theorem run_ordered (options : ConnectionOptions) (moments : List Moment)
    (few : (History.run options moments).requests.length < 2 ^ 64) :
    Ordered (History.run options moments) :=
  (run_kept options moments).archive.ordered few

/-- Two requests, with a socket each: the first is lost after the first frame. -/
def twoSockets : List Moment :=
  [.send default, .take, .meet .opened, .meet .ended, .send default, .take, .meet .opened].map
    fun happening => ⟨.timely 0 0 fun _ => true, happening⟩

theorem twoSockets_ordered :
    (History.run {} twoSockets).requests.length < 2 ^ 64 ∧
      (History.run {} twoSockets).trace.written.map (fun line => (line.1, line.2.1)) =
        [(some 0, 1), (some 1, 2)] ∧
      Ordered (History.run {} twoSockets) :=
  ⟨by decide, by rfl, run_ordered {} twoSockets (by decide)⟩

end BookmarkHub
