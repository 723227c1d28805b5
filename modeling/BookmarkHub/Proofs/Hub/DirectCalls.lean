import BookmarkHub.Proofs.Hub.Answers
import BookmarkHub.Proofs.Hub.BridgeLine
import BookmarkHub.Proofs.Operation.Calls
import BookmarkHub.Proofs.Wire.Commands

/-!
# Direct calls and relayed calls

Who holds a client calls an operation directly, and a surface calls it by name
through a bridge, a frame and the hub.  Both hand the client the same request,
unless a tag is referred to by the empty text, which only the direct call allows.
-/

set_option autoImplicit false

namespace BookmarkHub

/-- A caller of a client calls an operation. -/
def Moment.calling (operation : Operation) : Moment :=
  ⟨.timely 0 0 fun _ => true, .send operation.toRequest⟩

namespace Switchboard
variable {options : ClientId → ConnectionOptions} {board : Switchboard}

/-- When the hub takes a call that is read as an operation, its client is handed what a direct
call hands it, and all others nothing. -/
theorem take_hands (sound : Sound options board) (windowOpens : Bool) {call : Call}
    {client : ClientId} {operation : Operation} (heard : board.loop.call? = some call)
    (loggedIn : call.client = some client)
    (accepted : Operation.ofCall call.func call.args = .ok operation) :
    (board.step (.take windowOpens)).clients =
      (board.step (.client client (.calling operation))).clients := by
  obtain ⟨rest, _, owner, taken⟩ := HubLoop.take_of_call windowOpens sound.filed heard
  have submitted : (Hub.relayCall ⟨Link.numbered call.link, call.id⟩ call.func call.args
      board.loop.hub).effects =
      [.submit client ⟨Link.numbered call.link, call.id⟩ operation] := by
    simp [Hub.relayCall, ← owner, loggedIn, accepted]
  rw [submitted] at taken
  simp only [step, heard, taken]
  rfl

end Switchboard

/-! ## One request -/

/-- Called directly or by name, an operation is one request.  A frame brings the name and the
arguments unchanged, and so does a bridge under the next number. -/
structure OneRequest (operation : Operation) : Prop where
  read : Operation.ofCall operation.name operation.args = .ok operation
  framed : ∀ id, SurfaceCommand.ofWire
      (SurfaceCommand.relay id operation.name operation.args).toWire =
    .ok (.relay id operation.name operation.args)
  bridged : ∀ (bridge : Bridge) ticket rest, bridge.isRunning = true →
    bridge.mailbox = .call ticket operation.name operation.args :: rest →
    (bridge.take true).2.filterMap BridgeEffect.sent? =
      [.relay (UInt64.ofNat (bridge.lastId + 1)) operation.name operation.args]
  submitted : ∀ options moves windowOpens link id client,
    (Switchboard.run options moves).loop.call? =
      some ⟨link, id, operation.name, operation.args, some client⟩ →
    ((Switchboard.run options moves).step (.take windowOpens)).clients =
      ((Switchboard.run options moves).step (.client client (.calling operation))).clients

theorem oneRequest_of_referable (operation : Operation) (referable : operation.IsReferable) :
    OneRequest operation where
  read := operation.ofCall_args referable
  framed id :=
    (SurfaceCommand.relay id operation.name operation.args).ofWire_toWire operation.args_ordered
  bridged bridge ticket rest running waiting := by
    simp [Bridge.take_call running true waiting]
  submitted options moves windowOpens link id client heard :=
    Switchboard.take_hands (Switchboard.run_sound options moves) windowOpens heard rfl
      (operation.ofCall_args referable)

/-- How calls by name and operations go together.  Every operation is one request, unless it
refers to a tag by the empty text.  Of all the calls that are read as an operation, one is the
call that it is written as. -/
structure CallsAgree : Prop where
  same : ∀ operation : Operation, operation.reference? ≠ some "" → OneRequest operation
  refused : ∀ operation : Operation, operation.reference? = some "" →
    Operation.ofCall operation.name operation.args =
      .error (.invalidArgument operation.name 0 (.notATag (.text "")))
  canonical : ∀ method args operation, Operation.ofCall method args = .ok operation →
    operation.name = method ∧ Operation.ofCall method operation.args = .ok operation

theorem calls_agree : CallsAgree where
  same := oneRequest_of_referable
  refused := Operation.ofCall_args_empty
  canonical method args operation accepted := by
    obtain ⟨named, referable⟩ := Operation.ofCall_accepts accepted
    exact ⟨named, named ▸ operation.ofCall_args referable⟩

end BookmarkHub
