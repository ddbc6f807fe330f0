import SimpleCamCtrl.Library.Contract
import SimpleCamCtrl.Library.Ranking
import SimpleCamCtrl.Wia.OwnerQueue

/-!
# Progress of the owner thread

How many steps of the owner thread a waiting request is away from its result, and how many
the destructor is away from the end of `join`.  The calls and the destructor may take any
number of steps in between.  Steps are those of `Step`: what `workerMain` writes, reads and
gives back between the calls that decide a task is not among them.
-/

namespace SimpleCamCtrl.Wia

open History Interaction

section Progress

variable {ι : Type} {sizeT : SizeT}

section Task

variable [Commons] {deviceId : String} {task : EscapeArguments sizeT}

/-- Opening the device and calling it takes five calls. -/
theorem within_escapeOnDevice : Within 5 (escapeOnDevice deviceId task) :=
  within_perform_bind fun _ => within_guard <|
    within_perform_bind fun _ => within_guard <|
      within_perform_bind fun _ => within_guard <|
        within_perform_bind fun _ => within_guard <|
          within_perform_bind fun _ => within_pure _

/-- Seven calls at most decide a task. -/
theorem within_executeTask (hrCom : Int32) : Within 7 (executeTask deviceId hrCom task) :=
  within_guard <| within_perform_bind fun _ => within_guard <|
    within_perform_bind fun _ => within_guard <|
      within_escapeOnDevice.bind fun _ => within_pure _

end Task

/-- The steps of the owner thread for one task: taking it, the calls that decide it, and setting
its promise. -/
abbrev stepsPerTask : Nat := 9

/-- The thread is so many steps away from the head of its loop. -/
inductive OwnerThread.LoopsWithin : OwnerThread ι sizeT → Nat → Prop where
  | absent : LoopsWithin .absent 1
  | started : LoopsWithin .started 1
  | looping {hrCom : Int32} : LoopsWithin (.looping hrCom) 0
  | executing {hrCom : Int32} {current : ι} {rest : Worker (EscapeResult sizeT)} {fuel : Nat} :
      Within fuel rest → LoopsWithin (.executing hrCom current rest) (fuel + 1)
  | exited : LoopsWithin .exited 0

variable [DecidableEq ι] [Commons]
variable {deviceId : String} {arguments : ι → EscapeArguments sizeT}
variable {labels : List (Label ι sizeT)} {label : Label ι sizeT}
variable {self next : WiaTransport ι sizeT} {caller : ι} {fuel : Nat}

/-- The other steps at most append to the queue and start the thread. -/
theorem Step.othersKeep (step : Step deviceId arguments self label next)
    (unstarted : self.started = false → self.ownerThread = .absent)
    (other : label.byOwner = false) :
    (∃ more, next.tasks = self.tasks ++ more) ∧
      (next.ownerThread = self.ownerThread ∨
        (self.ownerThread = .absent ∧ next.ownerThread = .started)) := by
  cases step with
  | spawn entered notStarted =>
      exact ⟨⟨[], by simp [WiaTransport.setCaller]⟩, Or.inr ⟨unstarted notStarted, rfl⟩⟩
  | enqueue => exact ⟨⟨_, rfl⟩, Or.inl rfl⟩
  | coInitialize | dequeue | system | fulfil | exit => cases other
  | _ => exact ⟨⟨[], by simp [WiaTransport.setCaller]⟩, Or.inl rfl⟩

/-- The thread gets nearer to the head of its loop, or there takes a task or ends. -/
theorem Step.ownerMoves (step : Step deviceId arguments self label next)
    (mine : label.byOwner = true) (loops : self.ownerThread.LoopsWithin fuel) :
    (∃ left < fuel, next.tasks = self.tasks ∧ next.ownerThread.LoopsWithin left) ∨
      (∃ hrCom first, self.tasks = first :: next.tasks ∧ next.ownerThread =
        .executing hrCom first (executeTask deviceId hrCom (arguments first))) ∨
      (self.tasks = [] ∧ next.ownerThread = .exited) := by
  cases step with
  | coInitialize started =>
      rw [started] at loops
      cases loops
      exact Or.inl ⟨0, Nat.one_pos, rfl, .looping⟩
  | dequeue looping front => exact Or.inr (Or.inl ⟨_, _, front, rfl⟩)
  | system executing =>
      rw [executing] at loops
      cases loops with
      | executing within =>
          rcases within.resume _ with ⟨left, rfl, onRest⟩
          exact Or.inl ⟨left + 1, Nat.lt_succ_self _, rfl, .executing onRest⟩
  | fulfil executing =>
      rw [executing] at loops
      cases loops with
      | executing within => exact Or.inl ⟨0, Nat.succ_pos _, rfl, .looping⟩
  | exit looping stopped empty => exact Or.inr (Or.inr ⟨empty, rfl⟩)
  | _ => cases mine

omit [DecidableEq ι] in
/-- A task that has just been taken. -/
theorem OwnerThread.LoopsWithin.taken {owner : OwnerThread ι sizeT} {hrCom : Int32}
    {current : ι} {task : EscapeArguments sizeT}
    (executing : owner = .executing hrCom current (executeTask deviceId hrCom task)) :
    owner.LoopsWithin 8 := by
  rw [executing]
  exact .executing (within_executeTask _)

/-- What the thread still has to do for the task it executes. -/
theorem WiaRun.loopsWithin (run : WiaRun deviceId arguments labels self) :
    ∃ fuel < stepsPerTask, self.ownerThread.LoopsWithin fuel := by
  cases thread : self.ownerThread with
  | absent => exact ⟨1, by decide, .absent⟩
  | started => exact ⟨1, by decide, .started⟩
  | looping => exact ⟨0, by decide, .looping⟩
  | exited => exact ⟨0, by decide, .exited⟩
  | executing hrCom current rest =>
      refine ⟨8, by decide, .executing ?_⟩
      intro calls result execution
      have whole := ((WiaRun.resultInvariant run).executing _ _ _ thread).2 calls result execution
      have few : (systemCalls current labels ++ calls).length ≤ 7 :=
        within_executeTask hrCom _ result whole
      rw [List.length_append] at few
      omega

/-! ## A waiting request -/

/-- The thread is so many steps away from setting the promise of the call. -/
inductive AnswersWithin (caller : ι) (object : WiaTransport ι sizeT) : Nat → Prop where
  | serving {hrCom : Int32} {rest : Worker (EscapeResult sizeT)} {fuel : Nat} :
      object.ownerThread = .executing hrCom caller rest → Within fuel rest →
      AnswersWithin caller object (fuel + 1)
  | waiting {front back : List ι} {fuel : Nat} :
      object.tasks = front ++ caller :: back → object.ownerThread.LoopsWithin fuel →
      AnswersWithin caller object (fuel + stepsPerTask * (front.length + 1))

/-- The call is to be answered within so many steps of the owner thread, which exists only
once it has been started. -/
structure Awaits (caller : ι) (fuel : Nat) (object : WiaTransport ι sizeT) : Prop where
  unstarted : object.started = false → object.ownerThread = .absent
  answers : AnswersWithin caller object fuel

omit [DecidableEq ι] [Commons] in
theorem Awaits.positive (awaits : Awaits caller fuel self) : 0 < fuel := by
  cases awaits.answers with
  | serving => exact Nat.succ_pos _
  | waiting => simp [stepsPerTask]

omit [DecidableEq ι] [Commons] in
/-- The start of the thread is not put off by starting it. -/
theorem OwnerThread.LoopsWithin.outside {before after : OwnerThread ι sizeT}
    (loops : before.LoopsWithin fuel)
    (kept : after = before ∨ (before = .absent ∧ after = .started)) : after.LoopsWithin fuel := by
  rcases kept with rfl | ⟨rfl, rfl⟩
  · exact loops
  · cases loops
    exact .started

/-- What the others do does not put off the answer. -/
theorem AnswersWithin.outside (answers : AnswersWithin caller self fuel)
    (step : Step deviceId arguments self label next)
    (unstarted : self.started = false → self.ownerThread = .absent)
    (other : label.byOwner = false) : AnswersWithin caller next fuel := by
  rcases step.othersKeep unstarted other with ⟨⟨more, pushed⟩, kept⟩
  cases answers with
  | serving executing within =>
      rcases kept with same | ⟨absent, _⟩
      · exact .serving (same.trans executing) within
      · cases absent.symm.trans executing
  | waiting position loops =>
      rw [position, List.append_assoc, List.cons_append] at pushed
      exact .waiting pushed (loops.outside kept)

/-- Every step of the owner thread brings the answer nearer, or gives it. -/
theorem AnswersWithin.inside (answers : AnswersWithin caller self fuel)
    (step : Step deviceId arguments self label next) (mine : label.byOwner = true) :
    (next.promise caller).isSome = true ∨ ∃ left < fuel, AnswersWithin caller next left := by
  cases answers with
  | serving executing within =>
      cases step with
      | system running =>
          cases executing.symm.trans running
          rcases within.resume _ with ⟨left, rfl, onRest⟩
          exact Or.inr ⟨left + 1, Nat.lt_succ_self _, .serving rfl onRest⟩
      | fulfil running =>
          cases executing.symm.trans running
          left
          simp
      | coInitialize elsewhere | dequeue elsewhere | exit elsewhere =>
          cases executing.symm.trans elsewhere
      | _ => cases mine
  | waiting position loops =>
      rename_i front back ahead
      rcases step.ownerMoves mine loops with
        ⟨left, less, same, nearer⟩ | ⟨hrCom, first, taken, executing⟩ | ⟨empty, _⟩
      · exact Or.inr ⟨_, Nat.add_lt_add_right less _, .waiting (same.trans position) nearer⟩
      · rw [position] at taken
        cases front with
        | nil =>
            cases taken
            refine Or.inr ⟨8, ?_, .serving executing (within_executeTask _)⟩
            rw [List.length_nil, stepsPerTask]
            omega
        | cons head front =>
            rw [List.cons_append] at taken
            injection taken with _ rest
            refine Or.inr ⟨_, ?_, .waiting rest.symm (.taken executing)⟩
            rw [List.length_cons, stepsPerTask]
            omega
      · rw [position] at empty
        simp at empty

/-- The promise stays set. -/
theorem Step.promised (step : Step deviceId arguments self label next)
    (promised : (self.promise caller).isSome = true) : (next.promise caller).isSome = true := by
  cases step with
  | fulfil =>
      simp only [Function.update_apply]
      split
      · rfl
      · exact promised
  | _ => exact promised

theorem ranking_awaits (caller : ι) :
    Ranking (Step deviceId arguments) Label.byOwner (Awaits caller)
      fun self => (self.promise caller).isSome = true where
  kept promised step := step.promised promised
  lowers awaits step := by
    have unstarted := step.unstarted awaits.unstarted
    rename_i fuel self label next
    cases mine : label.byOwner with
    | false =>
        exact Or.inr ⟨fuel, ⟨unstarted, awaits.answers.outside step awaits.unstarted mine⟩,
          by simp [mine]⟩
    | true =>
        rcases awaits.answers.inside step mine with promised | ⟨left, less, answers⟩
        · exact Or.inl promised
        · exact Or.inr ⟨left, ⟨unstarted, answers⟩, by simpa [mine] using Nat.succ_le_of_lt less⟩

/-- A request with so many before it in the queue has its result once the owner thread has
taken nine steps for each of them and for itself, and eight for what it was at: nobody waits
for ever, whatever the calls do meanwhile and whatever the system replies. -/
theorem answered_within (run : WiaRun deviceId arguments labels self) {front back : List ι}
    (position : self.tasks = front ++ caller :: back) {more : List (Label ι sizeT)}
    (path : Path (Step deviceId arguments) self more next)
    (enough : stepsPerTask * (front.length + 1) + 8 ≤ more.countP Label.byOwner) :
    ∃ result, next.promise caller = some result ∧
      ComputedFor deviceId arguments (labels ++ more) caller result := by
  rcases WiaRun.loopsWithin run with ⟨fuel, few, loops⟩
  have few : fuel ≤ 8 := Nat.le_of_lt_succ few
  have awaits : Awaits caller (fuel + stepsPerTask * (front.length + 1)) self :=
    ⟨(WiaRun.queueInvariant run).unstarted, .waiting position loops⟩
  have promised := (ranking_awaits caller).reaches Awaits.positive awaits path <|
    Nat.le_trans (by omega) enough
  rcases Option.isSome_iff_exists.mp promised with ⟨result, promise⟩
  have results := WiaRun.resultInvariant (run.append_path path)
  exact ⟨result, promise, results.computed caller result (results.promised caller result promise)⟩

/-! ## The destructor -/

/-- The thread is so many steps away from its end, once the stop flag is set. -/
inductive ExitsWithin (object : WiaTransport ι sizeT) : Nat → Prop where
  | exited : object.ownerThread = .exited → ExitsWithin object 0
  | running {fuel : Nat} : object.ownerThread.LoopsWithin fuel →
      ExitsWithin object (fuel + stepsPerTask * object.tasks.length + 1)

/-- `join` is so many steps of the owner thread away. -/
structure JoinsWithin (fuel : Nat) (object : WiaTransport ι sizeT) : Prop where
  unstarted : object.started = false → object.ownerThread = .absent
  stopped : object.stop = true
  quiet : QuietInvariant object
  exits : ExitsWithin object fuel

/-- The steps that the destructor leaves room for. -/
abbrev QuietStep (deviceId : String) (arguments : ι → EscapeArguments sizeT)
    (self : WiaTransport ι sizeT) (label : Label ι sizeT) (next : WiaTransport ι sizeT) : Prop :=
  Step deviceId arguments self label next ∧ Quiet self label

/-- The stop flag stays set. -/
theorem Step.stopped (step : Step deviceId arguments self label next)
    (stopped : self.stop = true) : next.stop = true := by
  cases step with
  | stop => rfl
  | _ => exact stopped

/-- With the stop flag set no call reaches the queue. -/
theorem QuietInvariant.tasks_eq (quiet : QuietInvariant self) (stopped : self.stop = true)
    (step : Step deviceId arguments self label next) (other : label.byOwner = false) :
    next.tasks = self.tasks := by
  cases step with
  | enqueue ready =>
      have inside := congrArg Caller.inside ready
      rw [quiet.nobodyInside stopped] at inside
      cases inside
  | dequeue => cases other
  | _ => rfl

/-- An exited thread takes no step and is not started again. -/
theorem Step.exited (step : Step deviceId arguments self label next)
    (unstarted : self.started = false → self.ownerThread = .absent)
    (exited : self.ownerThread = .exited) :
    label.byOwner = false ∧ next.ownerThread = .exited := by
  cases step with
  | spawn entered notStarted => cases exited.symm.trans (unstarted notStarted)
  | coInitialize elsewhere | dequeue elsewhere | system elsewhere | fulfil elsewhere
  | exit elsewhere => cases exited.symm.trans elsewhere
  | _ => exact ⟨rfl, exited⟩

/-- Every step of the owner thread brings its end nearer. -/
theorem JoinsWithin.lowers (joins : JoinsWithin fuel self)
    (step : QuietStep deviceId arguments self label next) :
    ∃ left, JoinsWithin left next ∧ left + [label].countP Label.byOwner ≤ fuel := by
  have keeps {left : Nat} (exits : ExitsWithin next left) : JoinsWithin left next :=
    ⟨step.1.unstarted joins.unstarted, step.1.stopped joins.stopped,
      ⟨joins.quiet.nobodyInside_step step.1 step.2, joins.quiet.exited_step step.1⟩, exits⟩
  cases joins.exits with
  | exited exited =>
      rcases step.1.exited joins.unstarted exited with ⟨other, still⟩
      exact ⟨0, keeps (.exited still), by simp [other]⟩
  | running loops =>
      cases mine : label.byOwner with
      | false =>
          rcases step.1.othersKeep joins.unstarted mine with ⟨_, kept⟩
          refine ⟨_, keeps (.running (loops.outside kept)), ?_⟩
          rw [joins.quiet.tasks_eq joins.stopped step.1 mine]
          simp [mine]
      | true =>
          rcases step.1.ownerMoves mine loops with
            ⟨left, less, same, nearer⟩ | ⟨hrCom, first, taken, executing⟩ | ⟨empty, exited⟩
          · refine ⟨_, keeps (.running nearer), ?_⟩
            rw [same]
            simp only [List.countP_singleton, mine, if_true]
            omega
          · refine ⟨_, keeps (.running (.taken executing)), ?_⟩
            rw [taken, List.length_cons, stepsPerTask]
            simp only [List.countP_singleton, mine, if_true]
            omega
          · exact ⟨0, keeps (.exited exited), by simp [mine]⟩

theorem ranking_joins :
    Ranking (QuietStep deviceId arguments) Label.byOwner JoinsWithin
      fun _ : WiaTransport ι sizeT => False where
  kept never _ := never
  lowers joins step := Or.inr (joins.lowers step)

/-- Nothing is left for `join` to wait for. -/
def WiaTransport.Joinable (object : WiaTransport ι sizeT) : Prop :=
  object.ownerThread = .exited ∨ object.ownerThread = .absent

/-- With the stop flag set the owner thread can always go on, to its end. -/
theorem exists_step_of_stopped (stopped : self.stop = true) :
    self.Joinable ∨
      ∃ label next, label.byOwner = true ∧ QuietStep deviceId arguments self label next := by
  cases thread : self.ownerThread with
  | absent => exact Or.inl (Or.inr thread)
  | exited => exact Or.inl (Or.inl thread)
  | started => exact Or.inr ⟨.coInitialize sOk, _, rfl, .coInitialize thread, trivial⟩
  | looping hrCom =>
      cases queue : self.tasks with
      | nil => exact Or.inr ⟨.exit, _, rfl, .exit thread stopped queue, trivial⟩
      | cons first rest => exact Or.inr ⟨.dequeue first, _, rfl, .dequeue thread queue, trivial⟩
  | executing hrCom current rest =>
      cases rest with
      | done result => exact Or.inr ⟨.fulfil current result, _, rfl, .fulfil thread, trivial⟩
      | call request resume =>
          exact Or.inr ⟨.system current request {}, _, rfl, .system thread, trivial⟩

/-- A promise that has been fulfilled is set. -/
theorem WiaRun.promise_of_fulfilled (run : WiaRun deviceId arguments labels self) :
    ∀ caller ∈ fulfilled labels, (self.promise caller).isSome = true := by
  induction run with
  | start begins => simp [SingleServer.finishes]
  | snoc run step ih =>
      intro caller membership
      rw [fulfilled, SingleServer.finishes_append, List.mem_append] at membership
      rcases membership with old | new
      · exact step.promised (ih caller old)
      · rcases mem_fulfilled.mp new with ⟨result, last⟩
        cases step with
        | fulfil => cases List.mem_singleton.mp last; simp
        | _ => cases List.mem_singleton.mp last

/-- Once the destructor has set the stop flag, the owner thread takes nine steps for each
request in the queue, and nine more, at most; wherever it is, steps of its own alone can
take it to where `join` has nothing to wait for.  If the thread has exited there, and is not
absent, every request has the result of its own task. -/
theorem destructor_joins (run : QuietRun deviceId arguments labels self)
    (stopped : self.stop = true) {more : List (Label ι sizeT)}
    (path : Path (QuietStep deviceId arguments) self more next) :
    more.countP Label.byOwner ≤ stepsPerTask * (self.tasks.length + 1) ∧
      ∃ rest final, Path (QuietStep deviceId arguments) next rest final ∧
        (∀ label ∈ rest, label.byOwner = true) ∧ final.Joinable ∧
        (final.ownerThread = .exited → ∀ caller ∈ enqueued labels,
          ∃ result, final.promise caller = some result ∧
            ComputedFor deviceId arguments (labels ++ more ++ rest) caller result) := by
  have wiaRun := QuietRun.wiaRun run
  rcases WiaRun.loopsWithin wiaRun with ⟨fuel, few, loops⟩
  have joins : JoinsWithin (fuel + stepsPerTask * self.tasks.length + 1) self :=
    ⟨(WiaRun.queueInvariant wiaRun).unstarted, stopped, QuietRun.quietInvariant run,
      .running loops⟩
  rcases ranking_joins.along joins path with never | ⟨left, onNext, paid⟩
  · exact never.elim
  refine ⟨?_, ?_⟩
  · rw [Nat.mul_succ]
    omega
  · rcases ranking_joins.exists_path (fun joins => exists_step_of_stopped joins.stopped) onNext
      with ⟨rest, final, onwards, byOwner, joinable⟩
    refine ⟨rest, final, onwards, byOwner, joinable, ?_⟩
    intro exited caller membership
    have whole : QuietRun deviceId arguments (labels ++ more ++ rest) final :=
      (run.append_path path).append_path onwards
    have membership : caller ∈ fulfilled (labels ++ more ++ rest) := by
      rw [QuietRun.drained whole exited, enqueued, SingleServer.arrivals_append,
        SingleServer.arrivals_append]
      exact List.mem_append_left _ (List.mem_append_left _ membership)
    have promised := WiaRun.promise_of_fulfilled (QuietRun.wiaRun whole) caller membership
    rcases Option.isSome_iff_exists.mp promised with ⟨result, promise⟩
    have results := WiaRun.resultInvariant (QuietRun.wiaRun whole)
    exact ⟨result, promise,
      results.computed caller result (results.promised caller result promise)⟩

end Progress

/-- Both requests are in, and the worker has just taken the first one. -/
def secondWaits : List (Label Bool .bits64) :=
  [.call false, .spawn false, .enqueue false, .call true, .alreadyStarted true, .enqueue true,
    .coInitialize sOk, .dequeue false]

/-- The calls for a task when each is answered with success. -/
def servedCalls (second : Bool) : List (Label Bool .bits64) :=
  [.system second (.coTaskMemAlloc (dwInSize (sampleArguments second))) {},
    .system second (.coTaskMemAlloc dwOutSize) {}, .system second (.sysAllocStringLen 6) {},
    .system second .coCreateInstance {}, .system second (.createDevice "camera") {},
    .system second .queryInterface {},
    .system second (.escape (vendorDataIn (sampleArguments second))
      (dwInSize (sampleArguments second)) dwOutSize) {},
    .fulfil second (readResult sOk 0 [])]

theorem secondWaits_run :
    ∃ object, WiaRun "camera" sampleArguments secondWaits object ∧ object.tasks = [true] ∧
      object.ownerThread =
        .executing sOk false (executeTask "camera" sOk (sampleArguments false)) := by
  have path : ∃ object, Path (Step "camera" sampleArguments) {} secondWaits object ∧
      object.tasks = [true] ∧ object.ownerThread =
        .executing sOk false (executeTask "camera" sOk (sampleArguments false)) := by
    refine ⟨_, .cons (.call rfl (by decide)) <| .cons (.spawn rfl rfl) <|
      .cons (.enqueue rfl) <| .cons (.call rfl (by decide)) <|
      .cons (.alreadyStarted rfl rfl) <| .cons (.enqueue rfl) <| .cons (.coInitialize rfl) <|
      .cons (.dequeue rfl rfl) .nil, rfl, rfl⟩
  rcases path with ⟨object, path, tasks, executing⟩
  have start : WiaRun "camera" sampleArguments [] {} := .start rfl
  exact ⟨object, start.append_path path, tasks, executing⟩

theorem servedCalls_path {object : WiaTransport Bool .bits64} (second : Bool)
    (executing : object.ownerThread =
      .executing sOk second (executeTask "camera" sOk (sampleArguments second))) :
    ∃ next, Path (Step "camera" sampleArguments) object (servedCalls second) next ∧
      next.tasks = object.tasks ∧ next.ownerThread = .looping sOk := by
  refine ⟨_, .cons (.system executing) <| .cons (.system rfl) <| .cons (.system rfl) <|
    .cons (.system rfl) <| .cons (.system rfl) <| .cons (.system rfl) <| .cons (.system rfl) <|
    .cons (.fulfil rfl) .nil, rfl, rfl⟩

theorem dequeue_second {object : WiaTransport Bool .bits64}
    (looping : object.ownerThread = .looping sOk) (waiting : object.tasks = [true]) :
    ∃ next, Step "camera" sampleArguments object (.dequeue true) next ∧
      next.ownerThread = .executing sOk true (executeTask "camera" sOk (sampleArguments true)) :=
  ⟨_, .dequeue looping waiting, rfl⟩

/-- The second request is answered by the last of the seventeen steps. -/
theorem answered_within_second :
    ∃ (next : WiaTransport Bool .bits64) (result : EscapeResult .bits64),
      next.promise true = some result ∧ ComputedFor "camera" sampleArguments
        (secondWaits ++ (servedCalls false ++ .dequeue true :: servedCalls true)) true result := by
  rcases secondWaits_run with ⟨object, run, tasks, executing⟩
  rcases servedCalls_path false executing with ⟨between, first, waiting, looping⟩
  rcases dequeue_second looping (waiting.trans tasks) with ⟨taken, step, executing⟩
  rcases servedCalls_path true executing with ⟨next, second, _, _⟩
  have position : object.tasks = [] ++ true :: [] := tasks
  rcases answered_within run position (first.append (.cons step second)) (by decide) with
    ⟨result, promise, computed⟩
  exact ⟨next, result, promise, computed⟩

/-- The destructor finds the thread not begun and a request that has timed out. -/
theorem destructor_joins_started :
    ∃ object, QuietRun "camera" sampleArguments
        [.call false, .spawn false, .enqueue false, .timeout false, .stop] object ∧
      ∃ rest final, Path (QuietStep "camera" sampleArguments) object rest final ∧
        (∀ label ∈ rest, label.byOwner = true) ∧ final.Joinable := by
  have path : ∃ object, Path (QuietStep "camera" sampleArguments) {}
      [.call false, .spawn false, .enqueue false, .timeout false, .stop] object ∧
      object.stop = true := by
    refine ⟨_, .cons ⟨.call rfl (by decide), rfl⟩ <| .cons ⟨.spawn rfl rfl, trivial⟩ <|
      .cons ⟨.enqueue rfl, trivial⟩ <| .cons ⟨.timeout rfl, trivial⟩ <|
      .cons ⟨.stop, fun caller => by cases caller <;> rfl⟩ .nil, rfl⟩
  rcases path with ⟨object, path, stopped⟩
  have start : QuietRun "camera" sampleArguments [] {} := .start rfl
  have run := start.append_path path
  rcases (destructor_joins run stopped .nil).2 with ⟨rest, final, onwards, byOwner, joinable, _⟩
  exact ⟨object, run, rest, final, onwards, byOwner, joinable⟩

end SimpleCamCtrl.Wia
