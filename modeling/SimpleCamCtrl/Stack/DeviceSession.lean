import SimpleCamCtrl.Library.Subhistory
import SimpleCamCtrl.Stack.Schedule

/-!
# Sessions as the device sees them

An `Escape` call that times out leaves its command in the queue of its transport, and the
device may get it much later, or never.  What the object knows of a session are the replies
that it has seen; what the device knows are the commands that have reached it.  The two agree
where it matters, as long as no two transports are for one device: the device gets the commands
in the order in which the object sent them, and a command that needs a session reaches the device
only in a session that the device itself has opened and has not been told to close.
-/

namespace SimpleCamCtrl.Stack

open History
open Impl (Accepted OpenAccepted CloseSent SessionCommand sessionAction)
open Wia (reachedDevice readResult)

section DeviceSession

variable {θ τ : Type} {sizeT : SizeT} [Commons]

/-- A command that has reached the device and the device's own answer. -/
def toDeviceExchange (entry : Ticket τ sizeT × Wia.SystemReply) : Impl.Exchange τ sizeT :=
  (entry.1.request, readResult entry.2.hr entry.2.actualDataSize entry.2.memory)

/-- What a step passes to a device. -/
def Label.reaches (deviceId : τ → String) (device : String) :
    Label θ τ sizeT → Option (Ticket τ sizeT × Wia.SystemReply)
  | .transport other label => if deviceId other = device then label.reached else none
  | .api _ | .issue _ _ | .answer _ _ _ => none

/-- The commands that have reached a device, through whichever transport, in order, with the
replies. -/
def reached (deviceId : τ → String) (device : String) (labels : List (Label θ τ sizeT)) :
    List (Ticket τ sizeT × Wia.SystemReply) :=
  labels.filterMap (Label.reaches deviceId device)

/-- The exchanges of a session as the device has seen them. -/
def deviceLog (deviceId : τ → String) (device : String) (labels : List (Label θ τ sizeT)) :
    List (Impl.Exchange τ sizeT) :=
  (reached deviceId device labels).map toDeviceExchange

variable [DecidableEq θ] [DecidableEq τ]
variable {deviceId : τ → String} {labels : List (Label θ τ sizeT)} {self : Assembly θ τ sizeT}
variable {transport : τ}

omit [DecidableEq θ] in
/-- If each device has one transport, what reaches the device is what passes through that. -/
theorem reached_eq (oneEach : Function.Injective deviceId) (transport : τ)
    (labels : List (Label θ τ sizeT)) :
    reached deviceId (deviceId transport) labels =
      reachedDevice (transportLabels transport labels) := by
  rw [reached, reachedDevice, transportLabels, List.filterMap_filterMap]
  refine List.filterMap_congr fun label _ => ?_
  cases label with
  | api | answer => rfl
  | issue thread ticket =>
      rw [Label.reaches, Label.forTransport, Ticket.entry]
      split
      · split <;> rfl
      · rfl
  | transport other label =>
      simp only [Label.reaches, Label.forTransport, oneEach.eq_iff]
      split <;> rfl

omit [Commons] [DecidableEq θ] [DecidableEq τ] in
/-- What has reached a device has passed through a transport for it. -/
theorem exists_transport_of_reached {device : String} {entry : Ticket τ sizeT × Wia.SystemReply}
    (membership : entry ∈ reached deviceId device labels) :
    ∃ transport, deviceId transport = device := by
  rcases List.mem_filterMap.mp membership with ⟨label, _, seen⟩
  cases label with
  | api | answer | issue => cases seen
  | transport transport label =>
      rw [Label.reaches] at seen
      split at seen
      · rename_i same
        exact ⟨transport, same⟩
      · cases seen

/-- The commands that have reached the device are among those sent, in the order of sending. -/
theorem StackInvariant.reached_sublist (inv : StackInvariant deviceId labels self)
    (transport : τ) :
    ((reachedDevice (transportLabels transport labels)).map Prod.fst).Sublist (issues labels) :=
  (Wia.WiaRun.reachedDevice_sublist (inv.transports transport)).trans (inv.order transport)

/-- The commands sent are numbered in the order of sending. -/
theorem StackInvariant.pairwise_issues (inv : StackInvariant deviceId labels self) :
    (issues labels).Pairwise fun earlier later => earlier.number < later.number := by
  have increasing : ((issues labels).map Ticket.number).Pairwise (· < ·) := by
    rw [inv.numbered]
    exact List.pairwise_lt_range
  exact List.pairwise_map.mp increasing

theorem StackInvariant.nodup_issues (inv : StackInvariant deviceId labels self) :
    (issues labels).Nodup :=
  inv.pairwise_issues.imp fun less same => by
    rw [same] at less
    exact Nat.lt_irrefl _ less

/-- An answer with a response code comes from the device. -/
theorem StackInvariant.reached_of_answered (inv : StackInvariant deviceId labels self)
    {answer : Ticket τ sizeT × EscapeResult sizeT} (given : answer ∈ answers labels)
    (answered : answer.2.responseCode ≠ 0) :
    ∃ entry ∈ reachedDevice (transportLabels answer.1.request.transport labels),
      entry.1 = answer.1 ∧ toDeviceExchange entry = toExchange answer := by
  have returned := inv.returned answer.1 answer.2 given
  rcases Wia.WiaRun.reached_of_returned (inv.transports _) returned answered with
    ⟨reply, reached, result⟩
  exact ⟨_, reached, rfl, Prod.ext rfl result.symm⟩

/-- What the object has asked so far, the command in flight included, with the answers; for
the one in flight any answer will do. -/
def asked (labels : List (Label θ τ sizeT)) (inFlight : Option (Ticket τ sizeT)) :
    List (Ticket τ sizeT × EscapeResult sizeT) :=
  answers labels ++ inFlight.toList.map fun ticket => (ticket, default)

theorem StackInvariant.asked_issues (inv : StackInvariant deviceId labels self) :
    (asked labels self.inFlight).map Prod.fst = issues labels := by
  rw [asked, List.map_append, inv.accounted]
  cases self.inFlight <;> rfl

/-- All that the object has asked so far fits the session protocol. -/
theorem StackInvariant.accepted (inv : StackInvariant deviceId labels self) :
    ∃ final, Session.run sessionAction none ((asked labels self.inFlight).map toExchange) =
      some final := by
  rw [asked, List.map_append, ← inv.exchanged]
  cases waits : self.inFlight with
  | none =>
      rcases Impl.ThreadRun.accepted inv.api with ⟨final, accepted, _⟩
      exact ⟨final, by simpa using accepted⟩
  | some ticket =>
      rcases inv.inFlight_iff.mp waits with ⟨thread, pending⟩
      rcases inv.awaited thread ticket pending with ⟨op, resume, runs⟩
      exact Impl.ThreadRun.accepted_next inv.api runs default

/-- A command that was asked and answered OK has reached the device. -/
theorem StackInvariant.reached_of_asked (inv : StackInvariant deviceId labels self)
    {answer : Ticket τ sizeT × EscapeResult sizeT} (given : answer ∈ asked labels self.inFlight)
    (opened : OpenAccepted transport (toExchange answer)) :
    ∃ entry ∈ reachedDevice (transportLabels transport labels),
      entry.1 = answer.1 ∧ toDeviceExchange entry = toExchange answer := by
  rcases opened with ⟨rfl, _, accepted⟩
  rcases List.mem_append.mp given with old | pending
  · refine inv.reached_of_answered old ?_
    rw [show answer.2.responseCode = Impl.ptpRcOk from accepted.2]
    decide
  · rcases List.mem_map.mp pending with ⟨ticket, _, rfl⟩
    have code : (0 : UInt16) = Impl.ptpRcOk := accepted.2
    cases code

/-! ## From the object's view to the device's -/

/-- A session that is open by what a part of the commands asked was answered is open by what
the device has seen, if the device has seen no more than that part. -/
theorem StackInvariant.since_of_asked (inv : StackInvariant deviceId labels self)
    {part later : List (Ticket τ sizeT × EscapeResult sizeT)}
    {entries : List (Ticket τ sizeT × Wia.SystemReply)}
    (whole : asked labels self.inFlight = part ++ later)
    (sub : (entries.map Prod.fst).Sublist (part.map Prod.fst))
    (kept : ∀ entry ∈ reachedDevice (transportLabels transport labels),
      entry.1 ∈ part.map Prod.fst → entry ∈ entries)
    (since : Since (OpenAccepted transport) (CloseSent transport) (part.map toExchange)) :
    Since (OpenAccepted transport) (CloseSent transport) (entries.map toDeviceExchange) := by
  have once : (part.map Prod.fst).Nodup := by
    have all := inv.nodup_issues
    rw [← inv.asked_issues, whole, List.map_append] at all
    exact (List.nodup_append.mp all).1
  rw [since_map] at since ⊢
  refine since.of_sublist sub once ?_ ?_
  · intro answer membership opened
    have given : answer ∈ asked labels self.inFlight := by
      rw [whole]
      exact List.mem_append_left _ membership
    rcases inv.reached_of_asked given opened with ⟨entry, reached, same, exchange⟩
    refine ⟨entry, kept entry reached ?_, same, exchange ▸ opened⟩
    rw [same]
    exact List.mem_map_of_mem membership
  · intro answer _ entry _ same closed
    exact ⟨by rw [← closed.1]; exact congrArg (·.request.transport) same.symm,
      by rw [← closed.2]; exact congrArg (·.request.opcode) same.symm⟩

/-- What has reached the device through a transport was sent to that transport. -/
theorem StackInvariant.transport_of_reached (inv : StackInvariant deviceId labels self)
    {entry : Ticket τ sizeT × Wia.SystemReply}
    (reached : entry ∈ reachedDevice (transportLabels transport labels)) :
    entry.1.request.transport = transport :=
  inv.placed transport entry.1
    ((Wia.WiaRun.reachedDevice_sublist (inv.transports transport)).subset
      (List.mem_map_of_mem reached))

/-- A command that needs a session reaches the device in one. -/
theorem StackInvariant.each_command_in_session (inv : StackInvariant deviceId labels self)
    {before after : List (Ticket τ sizeT × Wia.SystemReply)}
    {entry : Ticket τ sizeT × Wia.SystemReply}
    (split : reachedDevice (transportLabels transport labels) = before ++ entry :: after)
    (command : SessionCommand (toDeviceExchange entry)) :
    Since (OpenAccepted transport) (CloseSent transport) (before.map toDeviceExchange) := by
  have sub := inv.reached_sublist transport
  have reached : entry ∈ reachedDevice (transportLabels transport labels) := by simp [split]
  have here := inv.transport_of_reached reached
  rw [← inv.asked_issues, split] at sub
  have membership : entry.1 ∈ (asked labels self.inFlight).map Prod.fst := sub.subset (by simp)
  rcases List.mem_map.mp membership with ⟨answer, given, same⟩
  rcases List.append_of_mem given with ⟨earlier, later, whole⟩
  have once := inv.nodup_issues
  rw [← inv.asked_issues, whole, List.map_append, List.map_cons, same] at once
  rw [whole, List.map_append, List.map_append, List.map_cons, List.map_cons, same] at sub
  rcases sublist_of_split sub once with ⟨onBefore, onAfter⟩
  refine inv.since_of_asked whole onBefore ?_ ?_
  · intro other reached isEarlier
    rw [split] at reached
    rcases List.mem_append.mp reached with inBefore | atLeast
    · exact inBefore
    · rw [List.nodup_append] at once
      refine (once.2.2 other.1 isEarlier other.1 ?_ rfl).elim
      rcases List.mem_cons.mp atLeast with rfl | inAfter
      · simp
      · exact List.mem_cons_of_mem _ (onAfter.subset (List.mem_map_of_mem inAfter))
  · rcases inv.accepted with ⟨final, accepted⟩
    have again : SessionCommand (toExchange answer) := by
      rw [SessionCommand, toExchange, same]
      exact command
    have used := Impl.sessionAction_of_sessionCommand again
    rw [← Impl.since_action_iff]
    refine Session.each_used_open accepted (earlier.map toExchange) (toExchange answer)
      (later.map toExchange) (by rw [whole, List.map_append, List.map_cons]) transport ?_
    rw [used, toExchange, same, here]

/-- If no two transports are for one device: the commands reach each device in the order in which
the object sent them, each at most once and as its own frame, and whatever comes back with a
response code is the device's answer to that very command. -/
theorem commands_reach_device_in_order (oneEach : Function.Injective deviceId)
    (run : StackRun deviceId labels self) (device : String) :
    (reached deviceId device labels).Pairwise
        (fun earlier later => earlier.1.number < later.1.number) ∧
      (∀ transport ticket inData inDataSize outDataSize reply,
        Label.transport transport
            (.system ticket (.escape inData inDataSize outDataSize) reply) ∈ labels →
          ticket ∈ issues labels ∧ ticket.request.transport = transport ∧
            inData = Wia.vendorDataIn ticket.arguments) ∧
      ∀ ticket reply, (ticket, reply) ∈ answers labels → reply.responseCode ≠ 0 →
        ∃ entry ∈ reached deviceId (deviceId ticket.request.transport) labels,
          entry.1 = ticket ∧ toDeviceExchange entry = (ticket.request, reply) := by
  have inv := StackRun.stackInvariant run
  refine ⟨?_, ?_, ?_⟩
  · by_cases exists_transport : ∃ transport, deviceId transport = device
    · rcases exists_transport with ⟨transport, rfl⟩
      rw [reached_eq oneEach]
      have ordered := inv.pairwise_issues.sublist (inv.reached_sublist transport)
      rwa [List.pairwise_map] at ordered
    · have nothing : reached deviceId device labels = [] :=
        List.eq_nil_iff_forall_not_mem.mpr fun entry membership =>
          exists_transport (exists_transport_of_reached membership)
      rw [nothing]
      exact .nil
  · intro transport ticket inData inDataSize outDataSize reply given
    have membership : Wia.Label.system ticket (.escape inData inDataSize outDataSize) reply ∈
        transportLabels transport labels := List.mem_filterMap.mpr ⟨_, given, if_pos rfl⟩
    have reached : (ticket, reply) ∈ reachedDevice (transportLabels transport labels) :=
      List.mem_filterMap.mpr ⟨_, membership, rfl⟩
    refine ⟨(inv.reached_sublist transport).subset (List.mem_map_of_mem reached),
      inv.transport_of_reached reached, ?_⟩
    have escapes : (.escape inData inDataSize outDataSize, reply) ∈
        Wia.systemCalls ticket (transportLabels transport labels) :=
      List.mem_filterMap.mpr ⟨_, membership, if_pos rfl⟩
    rcases Wia.WiaRun.exists_execution (inv.transports transport) ticket with
      none | ⟨hrCom, later, result, execution⟩
    · rw [none] at escapes
      cases escapes
    · exact ((Wia.escapesOnce_of_executeTask execution).of_mem
        (List.mem_append_left _ escapes)).1
  · intro ticket reply given answered
    rw [reached_eq oneEach]
    exact inv.reached_of_answered given answered

/-- If no two transports are for one device: a command that needs a session reaches a device only
in a session that this device has opened, answering OK, and has not been told to close, whatever
has timed out on the way.  And when no call holds the lock, a session that the object believes to
be open is open at the device. -/
theorem device_session (oneEach : Function.Injective deviceId)
    (run : StackRun deviceId labels self) :
    (∀ device before exchange after,
      deviceLog deviceId device labels = before ++ exchange :: after → SessionCommand exchange →
        Since (OpenAccepted exchange.1.transport) (CloseSent exchange.1.transport) before) ∧
      ∀ transport, self.api.holder = none →
        Impl.ensureConnected self.api.object = some transport →
        Since (OpenAccepted transport) (CloseSent transport)
          (deviceLog deviceId (deviceId transport) labels) := by
  have inv := StackRun.stackInvariant run
  constructor
  · intro device before exchange after split command
    rw [deviceLog, List.map_eq_append_iff] at split
    rcases split with ⟨entries, rest, split, rfl, onRest⟩
    rw [List.map_eq_cons_iff] at onRest
    rcases onRest with ⟨entry, later, rfl, rfl, _⟩
    have membership : entry ∈ reached deviceId device labels := by simp [split]
    rcases exists_transport_of_reached membership with ⟨transport, rfl⟩
    rw [reached_eq oneEach] at split membership
    have here : (toDeviceExchange entry).1.transport = transport :=
      inv.transport_of_reached membership
    rw [here]
    exact inv.each_command_in_session split command
  · intro transport free opened
    have nothing : self.inFlight = none := by
      rw [Assembly.inFlight, free, Option.bind_none]
    have whole : asked labels self.inFlight = answers labels ++ [] := by
      rw [asked, nothing]
      rfl
    have sub := inv.reached_sublist transport
    rw [← inv.asked_issues, whole, List.append_nil] at sub
    rw [deviceLog, reached_eq oneEach]
    refine inv.since_of_asked whole sub (fun _ reached _ => reached) ?_
    rcases Impl.ThreadRun.accepted inv.api with ⟨final, accepted, idle⟩
    rw [inv.exchanged] at accepted
    rw [← Impl.since_action_iff, ← Session.open_iff_since accepted, idle free, opened]

/-- The API lock serialises the transports: at most one thread is in an `Escape` call, and at most
one such call is in progress on all of the transports together.  What waits in the queue of a
transport has been abandoned by its call, which has timed out, except for the last request, which
may be that of the thread that holds the lock. -/
theorem queues_hold_abandoned (run : StackRun deviceId labels self) (transport : τ) :
    (∀ thread thread' ticket ticket', self.pending thread = some ticket →
        self.pending thread' = some ticket' → thread = thread' ∧ ticket = ticket') ∧
      (∀ other ticket ticket', ((self.transports transport).caller ticket).inside = true →
        ((self.transports other).caller ticket').inside = true →
        transport = other ∧ ticket = ticket') ∧
      ∃ abandoned current, (self.transports transport).tasks = abandoned ++ current ∧
        (∀ ticket ∈ abandoned, (ticket, Wia.timeoutResult) ∈ answers labels) ∧
        current.Sublist self.inFlight.toList := by
  have inv := StackRun.stackInvariant run
  refine ⟨?_, ?_, ?_⟩
  · intro thread thread' ticket ticket' waits waits'
    rcases inv.awaited thread ticket waits with ⟨op, resume, runs⟩
    rcases inv.awaited thread' ticket' waits' with ⟨op', resume', runs'⟩
    rcases Guarded.Run.linearizes inv.api with ⟨calls, pending, lin⟩
    have same := lin.exclusive runs runs'
    subst same
    rw [waits] at waits'
    exact ⟨rfl, Option.some.inj waits'⟩
  · intro other ticket ticket' inside inside'
    rcases inv.inside transport ticket inside with ⟨inFlight, rfl⟩
    rcases inv.inside other ticket' inside' with ⟨inFlight', rfl⟩
    rw [inFlight] at inFlight'
    cases inFlight'
    exact ⟨rfl, rfl⟩
  · have queue := Wia.WiaRun.queueInvariant (inv.transports transport)
    have waiting : ((self.transports transport).tasks).Sublist (issues labels) := by
      refine List.Sublist.trans ?_ (inv.order transport)
      rw [Wia.enqueued, (SingleServer.accounts queue.accepted).1]
      exact List.sublist_append_right _ _
    rw [inv.accounted] at waiting
    rcases List.sublist_append_iff.mp waiting with ⟨abandoned, current, split, old, last⟩
    refine ⟨abandoned, current, split, ?_, last⟩
    intro ticket membership
    have waits : ticket ∈ (self.transports transport).tasks := by
      rw [split]
      exact List.mem_append_left _ membership
    rcases List.mem_map.mp (old.subset membership) with ⟨⟨other, reply⟩, given, same⟩
    have equal : ticket = other := same.symm
    subst equal
    have here : ticket.request.transport = transport := by
      refine inv.placed transport ticket ?_
      rw [Wia.enqueued, (SingleServer.accounts queue.accepted).1]
      exact List.mem_append_right _ waits
    have returned := inv.returned ticket reply given
    rw [here] at returned
    rw [← Wia.WiaRun.timedOut_of_waiting (inv.transports transport) returned waits]
    exact given

end DeviceSession

section Late

open Impl (PublicCall)

/-- The owner thread serves the next request, and the device answers OK, with one byte of
data. -/
def serve : List (Choice Bool Unit .bits64) :=
  .owner () .dequeue ::
    (List.replicate 6 (.owner () (.system {})) ++
      [.owner () (.system { actualDataSize := 31, memory := [0x01, 0x20] }), .owner () .fulfil])

/-- An `Escape` call that is answered in time; the first one starts the owner thread. -/
def answeredEscape (first : Bool) : List (Choice Bool Unit .bits64) :=
  (if first then [.issue false, .caller false .spawn, .owner () (.coInitialize Wia.sOk)]
    else [.issue false, .caller false .alreadyStarted]) ++
    [.caller false .enqueue] ++ serve ++ [.caller false .collect, .answer false]

/-- A public call on one thread, with what happens while it has the lock. -/
def publicCall (op : PublicCall Unit) (escapes : List (Choice Bool Unit .bits64)) :
    List (Choice Bool Unit .bits64) :=
  [.api (.invoke false op), .api (.acquire false)] ++ escapes ++ [.api (.complete false)]

/-- The first Connect gives up because its OpenSession times out, and the device executes that
OpenSession afterwards; the second Connect opens the session again and a status request uses
it. -/
def lateOpenChoices : List (Choice Bool Unit .bits64) :=
  publicCall (.operation (.setPtpTransport (some ())) (by simp)) [] ++
    publicCall (.operation .connect (by simp))
      (answeredEscape true ++ answeredEscape false ++ answeredEscape false ++
        answeredEscape false ++
        [.issue false, .caller false .alreadyStarted, .caller false .enqueue, .caller false .timeout,
          .answer false]) ++
    serve ++
    publicCall (.operation .connect (by simp))
      (answeredEscape false ++ answeredEscape false ++ answeredEscape false ++
        answeredEscape false ++ answeredEscape false) ++
    publicCall (.operation .updateStatus (by simp)) (answeredEscape false)

def lateOpenLabels : List (Label Bool Unit .bits64) :=
  playedLabels (fun _ => "camera") lateOpenChoices

theorem lateOpenLabels_run : ∃ final, StackRun (fun _ => "camera") lateOpenLabels final :=
  run_of_play (by decide +kernel)

theorem lateOpenLabels_in_order :
    (reached (fun _ => "camera") "camera" lateOpenLabels).length = 11 ∧
      (reached (fun _ => "camera") "camera" lateOpenLabels).Pairwise
        fun earlier later => earlier.1.number < later.1.number := by
  rcases lateOpenLabels_run with ⟨final, run⟩
  exact ⟨by decide +kernel,
    (commands_reach_device_in_order (Function.injective_of_subsingleton _) run "camera").1⟩

theorem lateOpenLabels_in_session :
    (deviceLog (fun _ => "camera") "camera" lateOpenLabels).map (·.1.opcode) =
        [0x9201, 0x9201, 0x9202, 0x9201, 0x9203, 0x9201, 0x9201, 0x9202, 0x9201, 0x9203, 0x9209] ∧
      ∀ before exchange after,
        deviceLog (fun _ => "camera") "camera" lateOpenLabels = before ++ exchange :: after →
        SessionCommand exchange →
          Since (OpenAccepted exchange.1.transport) (CloseSent exchange.1.transport) before := by
  rcases lateOpenLabels_run with ⟨final, run⟩
  exact ⟨by decide +kernel,
    (device_session (Function.injective_of_subsingleton _) run).1 "camera"⟩

/-- The same up to the answer to the OpenSession, which is still in the queue. -/
def abandonedLabels : List (Label Bool Unit .bits64) :=
  playedLabels (fun _ => "camera") (lateOpenChoices.take 67)

theorem abandonedLabels_abandoned :
    (issues abandonedLabels).length = 5 ∧
      (reached (fun _ => "camera") "camera" abandonedLabels).length = 4 ∧
      ∃ final, StackRun (fun _ => "camera") abandonedLabels final ∧
        ∃ abandoned current, (final.transports ()).tasks = abandoned ++ current ∧
          (∀ ticket ∈ abandoned, (ticket, Wia.timeoutResult) ∈ answers abandonedLabels) ∧
          current.Sublist final.inFlight.toList := by
  have exists_run : ∃ final, StackRun (fun _ => "camera") abandonedLabels final :=
    run_of_play (by decide +kernel)
  rcases exists_run with ⟨final, run⟩
  exact ⟨by decide +kernel, by decide +kernel, final, run, (queues_hold_abandoned run ()).2.2⟩

end Late

end SimpleCamCtrl.Stack
