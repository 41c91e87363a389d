import Workflow.Proofs.Retention
import Workflow.Proofs.Steadiness

/-!
# Attempts after an interruption

A run looks whether its instance was cancelled or paused before every step and after every attempt,
but not after the wait before the next attempt.  So where the instance is interrupted while the run
waits for an action, no further attempt is made; where it is interrupted while the run rests
between two attempts, the one that is due is made all the same, and none after it.
-/

namespace Workflow

open Proc

/-! ## The attempts of a procedure -/

/-- Whether a request belongs to an attempt of a step. -/
def Request.isAttempt : Request → Bool
  | .permits invocation | .perform invocation => invocation.attempted?.isSome
  | _ => false

/-- The requests among some that belong to attempts. -/
def attemptsOf (requests : List Request) : List Request :=
  requests.filter Request.isAttempt

/-- The request that a procedure stands before. -/
def Proc.request? {α : Type} : Proc α → Option Request
  | .ask request _ => some request
  | .done _ => none

/-- Along every course of a procedure, the requests that belong to attempts are at most the given
ones, in their order. -/
def Proc.AttemptsAtMost {α σ : Type} (proc : Proc α) (world : World σ) (state : σ)
    (allowed : List Request) : Prop :=
  ∀ exchanges last final, Path world proc state exchanges last final →
    attemptsOf (exchanges.map (·.request) ++ last.request?.toList) <+: allowed

theorem Protocol.Invariant.and {Phase α σ : Type} {protocol : Protocol Phase α} {world : World σ}
    {holds further : List Request.Answered → Phase → σ → Prop}
    (invariant : protocol.Invariant world holds) (other : protocol.Invariant world further) :
    protocol.Invariant world fun exchanges phase state =>
      holds exchanges phase state ∧ further exchanges phase state where
  move both moves answered :=
    ⟨invariant.move both.1 moves answered, other.move both.2 moves answered⟩
  shift both shifts := ⟨invariant.shift both.1 shifts, other.shift both.2 shifts⟩

/-- A governed procedure makes at most the attempts that an invariant allows. -/
theorem attemptsAtMost_of_invariant {Phase α σ : Type} {protocol : Protocol Phase α}
    {world : World σ} {holds : List Request.Answered → Phase → σ → Prop} {allowed : List Request}
    (invariant : protocol.Invariant world holds)
    (made : ∀ {exchanges phase state}, holds exchanges phase state →
      attemptsOf (exchanges.map (·.request)) <+: allowed)
    (asks : ∀ {exchanges phase state request}, holds exchanges phase state →
      (∀ answer, ∃ after, protocol.Moves phase request answer after) → request.isAttempt = true →
      attemptsOf (exchanges.map (·.request)) ++ [request] <+: allowed)
    {phase : Phase} {proc : Proc α} {state : σ} (governed : protocol.Governs phase proc)
    (start : holds [] phase state) : proc.AttemptsAtMost world state allowed := by
  intro exchanges last final path
  rcases invariant.along governed start path with ⟨after, governs, kept⟩
  cases last with
  | done value => simpa [Proc.request?] using made kept
  | ask request next =>
      rcases invariant.at_ask governs kept with ⟨standing, stands, moves⟩
      simp only [Proc.request?, Option.toList_some, attemptsOf, List.filter_append,
        List.filter_singleton]
      cases attempts : request.isAttempt with
      | false => simpa [attemptsOf] using made stands
      | true =>
          simpa [attemptsOf] using asks stands (fun answer => (moves answer).imp fun _ => And.left)
            attempts

/-! ## The attempts that are still due -/

section Due

variable {σ : Type} {records : Records σ} {actors : Actors σ} {id : String}

/-- Actions leave an instance interrupted that they find interrupted. -/
structure Actors.KeepsInterrupted (actors : Actors σ) (records : Records σ) (id : String) :
    Prop where
  permits : ∀ {invocation state answer after}, actors.permits invocation state answer after →
    records.interrupted id state = true → records.interrupted id after = true
  perform : ∀ {invocation state answer after}, actors.perform invocation state answer after →
    records.interrupted id state = true → records.interrupted id after = true

namespace Phase

/-- The requests that belong to attempts, in a phase after which no attempt is made but the one that
has begun, if any. -/
def due? (runner : Runner) : Phase → Option (List Request)
  | .attempt trial =>
    some [.permits (trial.invocation runner), .perform (trial.invocation runner)]
  | .permitted trial => some [.perform (trial.invocation runner)]
  | .tried _ _ | .undoing _ _ _ | .undo _ _ _ _ | .closing _ _ _ _ | .closed _ _ _ _ | .raised _ _
  | .stopped _ | .ended _ => some []
  | _ => none

theorem Stands.shift {runner : Runner} {phase after : Phase} {state : σ}
    (stands : phase.Stands records actors id state) (shifts : phase.Shifts runner after) :
    after.Stands records actors id state :=
  @Protocol.Invariant.shift _ _ _ _ _ _ stands_invariant [] _ _ _ stands shifts

theorem Stands.move {runner : Runner} {phase after : Phase} {state final : σ} {request : Request}
    {answer : request.Answer} (stands : phase.Stands records actors id state)
    (moves : phase.Moves runner request answer after)
    (answered : records.world actors request state answer final) :
    after.Stands records actors id final :=
  @Protocol.Invariant.move _ _ _ _ _ _ stands_invariant [] _ _ _ _ _ _ stands moves answered

/-- A run whose instance is interrupted is going to make at most the attempts that are due. -/
structure Winding (runner : Runner) (records : Records σ) (actors : Actors σ) (id : String)
    (allowed made : List Request) (state : σ) (phase : Phase) : Prop
    extends phase.Stands records actors id state where
  due : ∃ due, phase.due? runner = some due ∧ attemptsOf made ++ due <+: allowed
  found : ∀ visit, phase.entered? = some visit → records.interrupted id state = true

variable {runner : Runner} {allowed made : List Request} {state : σ}

/-- Where none is due, no attempt is made. -/
theorem Winding.undue {phase : Phase} (stands : phase.Stands records actors id state)
    (undue : phase.due? runner = some []) (left : phase.entered? = none)
    (within : attemptsOf made ++ [] <+: allowed) :
    phase.Winding runner records actors id allowed made state := by
  refine ⟨stands, ⟨[], undue, within⟩, fun visit entered => ?_⟩
  rw [left] at entered
  cases entered

end Phase

variable {runner : Runner} {allowed made : List Request} {state : σ}

theorem attemptsOf_concat {request : Request} (attempts : request.isAttempt = true) :
    attemptsOf (made ++ [request]) = attemptsOf made ++ [request] := by
  simp [attemptsOf, attempts]

/-- A request that belongs to no attempt changes nothing about those that are due. -/
theorem Phase.Winding.concat {phase : Phase} {request : Request}
    (winding : phase.Winding runner records actors id allowed made state)
    (idle : request.isAttempt = false) :
    phase.Winding runner records actors id allowed (made ++ [request]) state := by
  have same : attemptsOf (made ++ [request]) = attemptsOf made := by simp [attemptsOf, idle]
  exact ⟨winding.toStands, same ▸ winding.due, winding.found⟩

/-- Once its attempt was made, a run whose instance is interrupted is stopped. -/
theorem winding_look {trial : Trial} {outcome : Except StepError ActionResult}
    {answer : Except Failure Instance}
    (winding : (Phase.tried trial outcome).Winding runner records actors id allowed made state)
    (answered : answer = records.load state trial.visit.inst.id) :
    ∃ stored, Phase.afterLook trial.visit.inst (Phase.afterTrial trial outcome)
      (.ofLoaded answer) = .stopped stored := by
  rcases (Option.any_eq_true _ _).mp (winding.found _ rfl) with ⟨stored, held, interrupts⟩
  have sameId : trial.visit.inst.id = id := winding.id_eq _ (.inr rfl)
  have loaded : answer = .ok stored := by
    rw [answered, sameId]
    exact records.load_eq_ok.mpr held
  refine ⟨stored, ?_⟩
  rw [loaded]
  simp only [Interruption.ofLoaded, interrupts, if_true]
  rfl

/-- The requests of an attempt that is due are made one by one, and none else. -/
theorem winding_act {phase after : Phase} {request : Request} {answer : request.Answer} {final : σ}
    (keeps : allowed ≠ [] → actors.KeepsInterrupted records id)
    (winding : phase.Winding runner records actors id allowed made state)
    (acts : phase.Acts runner request answer after)
    (answered : records.world actors request state answer final)
    (stands : after.Stands records actors id final) :
    after.Winding runner records actors id allowed (made ++ [request]) final := by
  rcases winding.due with ⟨due, isDue, within⟩
  cases acts with
  | @permit trial answer =>
      cases isDue
      have lasts := (keeps (by rintro rfl; simp at within)).permits answered
        (winding.found _ rfl)
      have granted : attemptsOf (made ++ [.permits (trial.invocation runner)]) ++
          [.perform (trial.invocation runner)] <+: allowed := by
        rw [attemptsOf_concat rfl]
        simpa using within
      have declined := (List.prefix_append _ _).trans granted
      match answer with
      | .ok true => exact ⟨stands, ⟨_, rfl, granted⟩, fun _ _ => lasts⟩
      | .ok false | .error failure =>
          exact ⟨stands, ⟨[], rfl, by simpa using declined⟩, fun _ _ => lasts⟩
  | @perform trial answer =>
      cases isDue
      have lasts := (keeps (by rintro rfl; simp at within)).perform answered
        (winding.found _ rfl)
      refine ⟨stands, ⟨[], rfl, ?_⟩, fun _ _ => lasts⟩
      rw [attemptsOf_concat rfl]
      simpa using within
  | @unmake inst error step pending action config answer =>
      cases isDue
      refine .concat ?_ rfl
      cases answer with
      | ok _ => exact .undue stands rfl rfl within
      | error failure => exact .undue stands rfl rfl within
  | @undo inst error invocation pending answer =>
      cases isDue
      refine .concat (.undue stands rfl rfl within) ?_
      simp [Request.isAttempt, Invocation.attempted?, winding.undoes _ _ _ _ rfl]
  | make | draw | rest => cases isDue

/-- A run whose instance is interrupted goes on making at most the attempts that are due. -/
theorem winding_invariant (keeps : allowed ≠ [] → actors.KeepsInterrupted records id) :
    runner.protocol.Invariant (records.world actors) fun exchanges phase state =>
      phase.Winding runner records actors id allowed (exchanges.map (·.request)) state where
  shift := by
    intro exchanges phase state after winding shifts
    have stands := winding.toStands.shift shifts
    rcases winding.due with ⟨due, isDue, within⟩
    cases shifts with
    | undone | irreversible | undoUnrendered | undoUnregistered | unfailable | unabortable
    | settled | aborted | stopped =>
        cases isDue
        exact .undue stands rfl rfl within
    | _ => cases isDue
  move := by
    intro exchanges phase state request answer after final winding moves answered
    have stands := winding.toStands.move moves answered
    rcases winding.due with ⟨due, isDue, within⟩
    rw [List.map_append]
    cases moves with
    | log =>
        cases answered
        exact winding.concat rfl
    | keep saves | lose saves =>
        cases saves with
        | fail | abort =>
            cases isDue
            exact .concat (.undue stands rfl rfl within) rfl
        | _ => cases isDue
    | look looks =>
        cases looks with
        | before => cases isDue
        | after =>
            cases isDue
            rcases winding_look winding answered.1 with ⟨stored, stops⟩
            rw [stops] at stands ⊢
            exact .concat (.undue stands rfl rfl within) rfl
    | emit emits =>
        cases emits with
        | failed | aborted =>
            cases isDue
            exact .concat (.undue stands rfl rfl within) rfl
        | _ => cases isDue
    | act acts => exact winding_act keeps winding acts answered stands

/-- Before each request, what is due begins with it if it belongs to an attempt. -/
theorem Phase.Winding.asks {phase after : Phase} {request : Request} {answer : request.Answer}
    (winding : phase.Winding runner records actors id allowed made state)
    (moves : phase.Moves runner request answer after) (attempts : request.isAttempt = true) :
    attemptsOf made ++ [request] <+: allowed := by
  rcases winding.due with ⟨due, isDue, within⟩
  cases moves with
  | log | keep | lose | look | emit => cases attempts
  | act acts =>
      cases acts with
      | permit =>
          cases isDue
          refine .trans ?_ within
          simp
      | perform =>
          cases isDue
          exact within
      | undo =>
          simp [Request.isAttempt, Invocation.attempted?, winding.undoes _ _ _ _ rfl] at attempts
      | make | draw | rest | unmake => cases attempts

theorem Phase.Winding.attemptsAtMost {phase : Phase} {proc : Proc (Except Failure Instance)}
    (winding : phase.Winding runner records actors id allowed [] state)
    (keeps : allowed ≠ [] → actors.KeepsInterrupted records id)
    (governed : runner.protocol.Governs phase proc) :
    proc.AttemptsAtMost (records.world actors) state allowed := by
  refine attemptsAtMost_of_invariant (winding_invariant keeps) ?_ ?_ governed winding
  · intro exchanges phase state winding
    rcases winding.due with ⟨due, _, within⟩
    exact (List.prefix_append _ _).trans within
  · intro exchanges phase state request winding moves attempts
    obtain ⟨answer⟩ : Nonempty request.Answer :=
      ⟨(records.serve { perform := fun _ state => (.ok (.other .null), state) } request state).1⟩
    rcases moves answer with ⟨after, moves⟩
    exact winding.asks moves attempts

end Due

/-! ## The attempt before a wait -/

section Asked

variable {σ : Type} {runner : Runner} {world : World σ}

/-- The attempt that a run has begun for its step. -/
def Phase.begun? : Phase → Option Trial
  | .permitted trial | .tried trial _ | .broken trial _ | .reported trial _ | .waiting trial
  | .resting trial _ => some trial
  | _ => none

theorem begun?_afterDraw (trial : Trial) (wait : Number.Binary64 → Except Fault Number.Binary64)
    (fraction : Number.Binary64) :
    (Phase.afterDraw trial wait fraction).begun? = none ∨
      (Phase.afterDraw trial wait fraction).begun? = (Phase.waiting trial).begun? := by
  simp only [Phase.afterDraw]
  split
  · exact .inr rfl
  · exact .inl rfl

/-- An attempt begins when it is asked for, and goes on until the next one is due. -/
theorem Phase.Moves.begun? {phase after : Phase} {request : Request} {answer : request.Answer}
    (moves : phase.Moves runner request answer after) :
    after.begun? = none ∨ after.begun? = phase.begun? ∨
      ∃ trial, after.begun? = some trial ∧ request = .permits (trial.invocation runner) := by
  cases moves with
  | log => exact .inr (.inl rfl)
  | keep saves | lose saves => cases saves <;> exact .inl rfl
  | look looks =>
      generalize Interruption.ofLoaded _ = interruption
      cases interruption with
      | stopped | raised => exact .inl rfl
      | none =>
          cases looks with
          | before => exact .inl rfl
          | @after trial outcome =>
              cases outcome with
              | ok result => exact .inl rfl
              | error error => exact .inr (.inl rfl)
  | emit emits =>
      cases emits with
      | stepFailed => exact .inr (.inl rfl)
      | _ => exact .inl rfl
  | act acts =>
      cases acts with
      | perform => exact .inr (.inl rfl)
      | undo => exact .inl rfl
      | permit =>
          refine .inr (.inr ⟨_, ?_, rfl⟩)
          simp only [afterPermit]
          split <;> rfl
      | make =>
          simp only [afterMake]
          split <;> exact .inl rfl
      | draw => exact (begun?_afterDraw _ _ _).imp_right .inl
      | @rest trial seconds answer => cases answer <;> exact .inl rfl
      | @unmake inst error step pending action config answer => cases answer <;> exact .inl rfl

/-- A run has asked whether it may make the attempt that it has begun. -/
theorem begun_invariant :
    runner.protocol.Invariant world fun exchanges phase _ =>
      ∀ trial, phase.begun? = some trial →
        .permits (trial.invocation runner) ∈ exchanges.map (·.request) where
  shift := by
    intro exchanges phase state after asked shifts
    cases shifts with
    | @retry trial error =>
        rintro _ ⟨⟩
        exact asked trial rfl
    | _ => rintro _ ⟨⟩
  move := by
    intro exchanges phase state request answer after final asked moves _ trial begun
    rw [List.map_append]
    rcases Phase.Moves.begun? moves with none | same | ⟨asking, asks, rfl⟩
    · cases none.symm.trans begun
    · exact List.mem_append_left _ (asked trial (same.symm.trans begun))
    · cases asks.symm.trans begun
      exact List.mem_append_right _ List.mem_cons_self

end Asked

/-! ## Runs whose instance is interrupted -/

theorem stands_idle {σ : Type} (records : Records σ) (actors : Actors σ) (inst : Instance)
    (state : σ) : (Phase.idle inst).Stands records actors inst.id state := by
  refine ⟨?_, by simp, by simp [Phase.entered?], by simp [Phase.entered?]⟩
  rintro _ (⟨⟨⟩⟩ | ⟨⟨⟩⟩)
  rfl

/-- A run whose instance is cancelled or paused while it waits for the action of an attempt or of a
compensation makes no attempt any more.  If that happens while the run rests after an attempt
instead, and the instance is left as it is, the run makes at most the next attempt of the same step,
and none after it. -/
theorem run_stops_attempting {σ : Type} (runner : Runner) (records : Records σ) (actors : Actors σ)
    {inst : Instance} {state before after : σ} {exchanges : List Request.Answered}
    {request : Request} {answer : request.Answer}
    {next : request.Answer → Proc (Except Failure Instance)}
    (path : Path (records.world actors) (runner.run inst) state exchanges (.ask request next)
      before)
    (answered : records.world actors request before answer after)
    (interrupted : records.interrupted inst.id after = true) :
    (∀ invocation, request = .perform invocation →
      (next answer).AttemptsAtMost (records.world actors) after []) ∧
    (∀ seconds, request = .sleep seconds → actors.KeepsInterrupted records inst.id →
      ∃ failed number, failed.purpose = .attempt number ∧
        .permits failed ∈ exchanges.map (·.request) ∧
        (next answer).AttemptsAtMost (records.world actors) after
          [.permits { failed with purpose := .attempt (number + 1) },
            .perform { failed with purpose := .attempt (number + 1) }]) := by
  rcases (stands_invariant.and begun_invariant).at_request (run_governed inst)
    ⟨stands_idle records actors inst state, by rintro _ ⟨⟩⟩ path with
    ⟨phase, ⟨stands, asked⟩, moves⟩
  rcases moves answer with ⟨reached, moves, governed⟩
  have reaches := stands.move moves answered
  constructor
  · rintro invocation rfl
    have winding : reached.Winding runner records actors inst.id [] [] after := by
      cases moves with
      | act acts =>
          cases acts with
          | perform => exact ⟨reaches, ⟨[], rfl, List.prefix_rfl⟩, fun _ _ => interrupted⟩
          | undo => exact .undue reaches rfl rfl List.prefix_rfl
    exact winding.attemptsAtMost (fun some => absurd rfl some) governed
  · rintro seconds rfl keeps
    cases moves with
    | act acts =>
        cases acts with
        | @rest trial seconds answer =>
            refine ⟨trial.invocation runner, trial.attempt, rfl, asked trial rfl,
              Phase.Winding.attemptsAtMost ?_ (fun _ => keeps) governed⟩
            cases answer with
            | ok _ => exact ⟨reaches, ⟨_, rfl, List.prefix_rfl⟩, fun _ _ => interrupted⟩
            | error failure => exact .undue reaches rfl rfl List.nil_prefix

/-! ## A run that is paused while it rests -/

/-- A runner that waits before the next attempt. -/
def Runner.patient : Runner :=
  { Runner.plain with settings := ⟨.skip, 100, true, .zero, .zero⟩ }

/-- Goods that are packed, in two attempts at most, and sent. -/
def Definition.sending : Definition :=
  ⟨"sending", "1.0",
    [("pack", { Step.named "pack" with action := some "act", retryAttempts := 1 }),
      ("send", { Step.named "send" with action := some "act", compensation := some "undo" })],
    [⟨"pack", "send", none, []⟩], []⟩

/-- What is left after an engine has paused an instance. -/
def MemoryStore.paused (store : MemoryStore) : MemoryStore :=
  ((Runner.patient.pause "w").course (MemoryStore.records.serve .failing) store).2.2

/-- Actions that fail, and waits during which the instance is paused. -/
def Actors.pausing : Actors MemoryStore :=
  { Deeds.failing.actors with
    sleep := fun _ store answer after => answer = .ok () ∧ after = store.paused }

/-- The answers of these actions and of the store. -/
def servePausing : (request : Request) → MemoryStore → request.Answer × MemoryStore
  | .sleep _, store => (.ok (), store.paused)
  | request, store => MemoryStore.records.serve .failing request store

/-- The wait that a procedure stands before. -/
def Proc.seconds? {α : Type} : Proc α → Option Number.Binary64
  | .ask (.sleep seconds) _ => some seconds
  | _ => none

theorem Proc.of_seconds? {α : Type} {proc : Proc α} {seconds : Number.Binary64}
    (sleeps : proc.seconds? = some seconds) : ∃ next, proc = .ask (.sleep seconds) next := by
  simp only [seconds?] at sleeps
  split at sleeps
  · cases sleeps
    exact ⟨_, rfl⟩
  · cases sleeps

theorem world_servePausing (request : Request) (store : MemoryStore) :
    MemoryStore.records.world .pausing request store (servePausing request store).1
      (servePausing request store).2 := by
  cases request with
  | make | permits | perform => rfl
  | contains | load | save | remove | sleep => exact ⟨rfl, rfl⟩
  | list | draw | freshId | emit | log | http => rfl

theorem keepsInterrupted_pausing (id : String) :
    Actors.pausing.KeepsInterrupted MemoryStore.records id where
  permits granted interrupted := by
    cases granted
    exact interrupted
  perform performed interrupted := by
    cases performed
    exact interrupted

theorem run_stops_attempting_paused :
    let course := (Runner.patient.run (.fresh "w" .sending [] default)).courseTo servePausing 11
      .empty
    ∃ seconds next, course.2.1 = .ask (.sleep seconds) next ∧
      MemoryStore.records.interrupted "w" course.2.2.paused = true ∧
      ∃ failed number, failed.purpose = .attempt number ∧
        .permits failed ∈ course.1.map (·.request) ∧
        (next (.ok ())).AttemptsAtMost (MemoryStore.records.world .pausing) course.2.2.paused
          [.permits { failed with purpose := .attempt (number + 1) },
            .perform { failed with purpose := .attempt (number + 1) }] := by
  intro course
  have path := path_courseTo world_servePausing 11
    (Runner.patient.run (.fresh "w" .sending [] default)) .empty
  have rests : course.2.1.seconds?.isSome = true := by decide +kernel
  have interrupted : MemoryStore.records.interrupted "w" course.2.2.paused = true := by
    decide +kernel
  rcases Option.isSome_iff_exists.mp rests with ⟨seconds, sleeps⟩
  rcases of_seconds? sleeps with ⟨next, rest⟩
  rw [show course.2.1 = _ from rest] at path
  have stops := run_stops_attempting .patient MemoryStore.records .pausing path ⟨rfl, rfl⟩
    interrupted
  exact ⟨seconds, next, rest, interrupted, stops.2 seconds rfl (keepsInterrupted_pausing "w")⟩

/-! ## Attempts after a pause -/

/-- The request that a call stands before. -/
def Situation.request? {σ : Type} (situation : Situation σ) (caller : Nat) : Option Request :=
  (situation.rest? caller).bind Proc.request?

/-- Whether a request is answered by something else than the store. -/
def Request.waits : Request → Bool
  | .perform _ | .sleep _ => true
  | _ => false

/-- The call that a moment is the turn of. -/
def Moment.caller? : Moment → Option Nat
  | .begins _ _ => none
  | .turn caller _ => some caller

/-- While the first call waits for something else than the store, another call pauses the instance
and succeeds; then the first call goes on, and comes to stand before an attempt. -/
structure AttemptsPaused (before meanwhile onward : List Moment) (pauses : Nat) : Prop where
  waits : ((Situation.play MemoryStore.records "w" ⟨.empty, []⟩ before).request? 0).any
    Request.waits = true
  still : some 0 ∉ meanwhile.map Moment.caller?
  later : (before.filterMap Moment.begun?).length ≤ pauses
  begun : ((before ++ meanwhile).filterMap Moment.begun?)[pauses]? = some (.pause "w")
  succeeds : (Situation.play MemoryStore.records "w" ⟨.empty, []⟩
    (before ++ meanwhile)).calls[pauses]?.any Call.succeeded = true
  attempts : ((Situation.play MemoryStore.records "w" ⟨.empty, []⟩
    (before ++ meanwhile ++ onward)).request? 0).any Request.isAttempt = true

/-- The turns in which a call is answered that an action fails. -/
def failingTurns (caller count : Nat) : List Moment :=
  List.replicate count (.turn caller (Reply.other .null).everywhere)

/-- The turns in which a call is answered that an action succeeds. -/
def succeedingTurns (caller count : Nat) : List Moment :=
  List.replicate count (.turn caller (Reply.result (.succeed [])).everywhere)

/-- The goods are sent. -/
def sends : Moment :=
  .begins .patient (.start (some "w") (.ready .sending) .null)

/-- The instance is paused. -/
def pausedOnly : List Moment :=
  .begins .patient (.pause "w") :: failingTurns 1 4

/-- The instance is resumed, and paused while that run undoes a step; then that run saves that the
instance has failed. -/
def resumedAndPaused : List Moment :=
  .begins .patient (.resume "w") :: succeedingTurns 1 17 ++ failingTurns 1 5 ++
    .begins .patient (.pause "w") :: failingTurns 2 4 ++ failingTurns 1 4

theorem attemptsPaused_resting :
    AttemptsPaused (sends :: failingTurns 0 15) pausedOnly (failingTurns 0 1) 1 where
  waits := by decide +kernel
  still := by decide +kernel
  later := by decide +kernel
  begun := rfl
  succeeds := by decide +kernel
  attempts := by decide +kernel

theorem attemptsPaused_performing :
    AttemptsPaused (sends :: failingTurns 0 10) resumedAndPaused (succeedingTurns 0 9) 2 where
  waits := by decide +kernel
  still := by decide +kernel
  later := by decide +kernel
  begun := rfl
  succeeds := by decide +kernel
  attempts := by decide +kernel

/-- A run makes attempts after its instance was paused: the next attempt of the step if it was
resting, and attempts of later steps if another run has taken the pause back in the meantime. -/
theorem not_stopping :
    AttemptsPaused (sends :: failingTurns 0 15) pausedOnly (failingTurns 0 1) 1 ∧
      AttemptsPaused (sends :: failingTurns 0 10) resumedAndPaused (succeedingTurns 0 9) 2 :=
  ⟨attemptsPaused_resting, attemptsPaused_performing⟩

end Workflow
