import BookmarkHub.Proofs.Hub.Filing

/-!
# The calls that a running hub takes

Of all events only a call that is heard is relayed.  Everything else that
happens to a running hub keeps what it files, and relays nothing.
-/

set_option autoImplicit false

namespace BookmarkHub

/-- A call that came through a link, and the client at that time. -/
structure Call where
  link : Nat
  id : UInt64
  func : String
  args : List Json
  client : Option ClientId

/-- An event that concerns no link, or one that the hub gave out. -/
def HubEvent.IsGiven : HubEvent → Prop
  | .connectPage _ link | .connectBridge link => link = Link.numbered link.id
  | _ => True

def HubLoopEffect.IsUnrelayed : HubLoopEffect → Prop
  | .act effect => effect.IsUnrelayed
  | _ => True

namespace HubLoop

def call? (loop : HubLoop) : Option Call :=
  match loop.isRunning, loop.mailbox with
  | true, .message link (.relay id func args) :: _ =>
      if loop.hub.hears link then some ⟨link, id, func, args, loop.hub.client⟩ else none
  | _, _ => none

structure Filed (loop : HubLoop) : Prop where
  hub : loop.hub.Filed
  mailbox : ∀ event ∈ loop.mailbox, event.IsGiven

/-- What is done leaves everything filed, and relays nothing. -/
structure Quiet (handled : Handled) : Prop where
  filed : Filed handled.1
  unrelayed : ∀ effect ∈ handled.2, effect.IsUnrelayed

theorem filed_initial : Filed {} where
  hub := Hub.filed_initial
  mailbox := by simp

section Quiet
variable {loop : HubLoop}

theorem quiet_none (filed : Filed loop) : Quiet (loop, []) := ⟨filed, by simp⟩

theorem quiet_then {first : Handled} (before : Quiet first) {second : Handled}
    (after : Quiet second) : Quiet (second.1, first.2 ++ second.2) := by
  refine ⟨after.filed, ?_⟩
  intro effect member
  exact (List.mem_append.1 member).elim (before.unrelayed effect) (after.unrelayed effect)

theorem settleConnect_quiet (filed : Filed loop) (link : Nat) (result : Except HubError Unit) :
    Quiet (loop.settleConnect link result) := by
  unfold settleConnect
  split
  · refine ⟨⟨filed.hub, filed.mailbox⟩, ?_⟩
    intro effect member
    cases List.mem_singleton.1 member
    trivial
  · exact quiet_none filed

theorem answer_quiet (filed : Filed loop) (answer : HubAnswer) :
    Quiet (loop, [.answer answer]) := by
  refine ⟨filed, ?_⟩
  intro effect member
  cases List.mem_singleton.1 member
  trivial

theorem reject_quiet (filed : Filed loop) (event : HubEvent) : Quiet (loop.reject event) := by
  cases event with
  | connectPage key link => exact settleConnect_quiet filed link.id (.error .shutdown)
  | closePage caller key => exact answer_quiet filed _
  | listPages caller => exact answer_quiet filed _
  | _ => exact quiet_none filed

theorem rejectAll_quiet (events : List HubEvent) (filed : Filed loop) :
    Quiet (rejectAll events loop) := by
  induction events generalizing loop with
  | nil => exact quiet_none filed
  | cons event rest ih =>
      have rejected := reject_quiet filed event
      exact quiet_then rejected (ih rejected.filed)

theorem acted_unrelayed {effects : List HubEffect}
    (unrelayed : ∀ effect ∈ effects, effect.IsUnrelayed) :
    ∀ effect ∈ effects.map HubLoopEffect.act, effect.IsUnrelayed := by
  intro effect member
  obtain ⟨acted, among, rfl⟩ := List.mem_map.1 member
  exact unrelayed acted among

theorem stop_quiet (loop : HubLoop) : Quiet loop.stop := by
  have stopped : Hub.Quiet loop.hub.shutdown := Hub.shutdown_quiet
  have emptied : Filed
      { loop with hub := loop.hub.shutdown.hub, mailbox := [], isRunning := false } :=
    ⟨stopped.filed, by simp⟩
  have rejected := rejectAll_quiet loop.mailbox emptied
  refine ⟨rejected.filed, ?_⟩
  intro effect member
  rcases List.mem_append.1 member with acted | later
  · exact acted_unrelayed stopped.unrelayed effect acted
  · exact rejected.unrelayed effect later

theorem handled_quiet (filed : Filed loop) {handled : Hub.Handled} (quiet : Hub.Quiet handled) :
    Quiet (loop.handled handled) :=
  ⟨⟨quiet.filed, filed.mailbox⟩, acted_unrelayed quiet.unrelayed⟩

theorem handle_quiet (windowOpens : Bool) (filed : Filed loop) (event : HubEvent)
    (given : event.IsGiven)
    (other : ∀ link id func args, event ≠ .message link (.relay id func args)) :
    Quiet (handle windowOpens event loop) := by
  cases event with
  | connectPage key link =>
      have connected := handled_quiet filed (Hub.connectPage_quiet filed.hub key given)
      exact quiet_then connected (settleConnect_quiet connected.filed _ _)
  | connectBridge link => exact handled_quiet filed (Hub.connectBridge_quiet filed.hub given)
  | message link command =>
      refine handled_quiet filed (Hub.message_quiet windowOpens filed.hub command ?_)
      intro id func args same
      exact other link id func args (by rw [same])
  | disconnect link => exact handled_quiet filed (Hub.disconnect_quiet filed.hub link)
  | openPage page tab => exact handled_quiet filed (Hub.openOrRefocus_quiet filed.hub _ _ _ _)
  | openForActiveTab page =>
      refine ⟨filed, ?_⟩
      intro effect member
      cases List.mem_singleton.1 member
      trivial
  | closePage caller key =>
      have closed := handled_quiet filed (Hub.closePage_quiet filed.hub key)
      exact quiet_then closed (answer_quiet closed.filed _)
  | setClient client => exact handled_quiet filed (Hub.setClient_quiet filed.hub client)
  | listPages caller => exact answer_quiet filed _
  | shutdown => exact stop_quiet loop

/-! ## Taking events -/

theorem filed_rest (filed : Filed loop) {event : HubEvent} {rest : List HubEvent}
    (next : loop.mailbox = event :: rest) : Filed { loop with mailbox := rest } := by
  refine ⟨filed.hub, fun other member => filed.mailbox other ?_⟩
  rw [next]
  exact List.mem_cons_of_mem _ member

theorem take_of_call (windowOpens : Bool) (filed : Filed loop) {call : Call}
    (heard : loop.call? = some call) :
    ∃ rest, loop.mailbox = .message call.link (.relay call.id call.func call.args) :: rest ∧
      call.client = loop.hub.client ∧
      loop.take windowOpens = ({ loop with mailbox := rest },
        (Hub.relayCall ⟨Link.numbered call.link, call.id⟩ call.func call.args
          loop.hub).effects.map .act) := by
  unfold call? at heard
  split at heard
  · rename_i link id func args rest running next
    split at heard
    · rename_i heardLink
      cases heard
      refine ⟨rest, next, rfl, ?_⟩
      have relayed := Hub.message_relay windowOpens filed.hub heardLink id func args
      simp only [take, running, next, if_true, handle, handled, relayed, Hub.relayCall_hub]
    · cases heard
  · cases heard

theorem take_quiet (windowOpens : Bool) (filed : Filed loop) (nobody : loop.call? = none) :
    Quiet (loop.take windowOpens) := by
  unfold take
  split
  · rename_i running
    split
    · rename_i event rest next
      have later := filed_rest filed next
      have given : event.IsGiven := filed.mailbox event (by simp [next])
      by_cases call : ∃ link id func args, event = .message link (.relay id func args)
      · obtain ⟨link, id, func, args, rfl⟩ := call
        have unheard : loop.hub.hears link = false := by
          simpa [call?, running, next] using nobody
        have dropped := Hub.message_of_unheard windowOpens (.relay id func args) unheard
        simp only [handle, dropped]
        exact handled_quiet later (Hub.quiet_idle filed.hub _)
      · refine handle_quiet windowOpens later event given ?_
        intro link id func args same
        exact call ⟨link, id, func, args, same⟩
    · split
      · exact quiet_none filed
      · exact stop_quiet loop
  · exact quiet_none filed

/-! ## Handles -/

theorem post_quiet (filed : Filed loop) (event : HubEvent) (given : event.IsGiven) :
    Quiet (loop.post event) := by
  unfold post
  split
  · refine ⟨⟨filed.hub, fun other member => ?_⟩, by simp⟩
    rcases List.mem_append.1 member with earlier | last
    · exact filed.mailbox other earlier
    · cases List.mem_singleton.1 last
      exact given
  · exact reject_quiet filed event

theorem send_filed (filed : Filed loop) (event : HubEvent) (given : event.IsGiven) :
    Filed (loop.send event).2 := by
  unfold send
  split
  · exact (post_quiet filed event given).filed
  · exact filed

theorem connectPage_quiet (filed : Filed loop) (key : String) :
    Quiet (loop.connectPage key).2 :=
  have waits : Filed { loop with
      links := loop.links + 1
      connecting := loop.connecting ++ [loop.links + 1] } := ⟨filed.hub, filed.mailbox⟩
  post_quiet waits _ rfl

theorem connectBridge_filed (filed : Filed loop) : Filed (loop.connectBridge).2.2 := by
  have counted : Filed { loop with links := loop.links + 1 } := ⟨filed.hub, filed.mailbox⟩
  have sent := send_filed counted (.connectBridge ⟨loop.links + 1, loop.links⟩) rfl
  simp only [connectBridge, newLink]
  split
  · rename_i answered
    rw [answered] at sent
    exact ⟨sent.hub, sent.mailbox⟩
  · rename_i answered
    rw [answered] at sent
    exact sent

theorem sendMessage_filed (filed : Filed loop) (link : Nat) (command : SurfaceCommand) :
    Filed (loop.sendMessage link command).2 :=
  send_filed filed (.message link command) trivial

theorem dropSurface_filed (filed : Filed loop) (link : Nat) : Filed (loop.dropSurface link) :=
  have dropped : Filed { loop with surfaces := loop.surfaces.erase link } :=
    ⟨filed.hub, filed.mailbox⟩
  (post_quiet dropped (.disconnect link) trivial).filed

theorem tabFound_filed (filed : Filed loop) (page : Page) (tab : Option Tab) :
    Filed (loop.tabFound page tab) := by
  unfold tabFound
  split
  · exact (post_quiet filed (.openPage page tab) trivial).filed
  · exact filed

end Quiet

end HubLoop

end BookmarkHub
