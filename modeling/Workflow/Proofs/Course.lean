import Workflow.Run.Proc

/-!
# Courses of procedures

A world says which answers it may give to a request and what becomes of its state with each of
them.  A procedure in a world takes one of many courses: the requests it makes and the answers it
is given, one after the other.  A course that reaches a value has ended; every other one leaves
the rest of the procedure.

A protocol describes what a procedure does without its text: in which phase it makes which requests,
and to which phase an answer leads.  What holds in every phase of a protocol is proved move by move,
and then holds along every course of every procedure that the protocol governs.
-/

namespace Workflow

/-- A request and the answer that it was given. -/
structure Request.Answered where
  request : Request
  answer : request.Answer

/-- The instance that was saved by a request. -/
def Request.Answered.saved? (exchange : Request.Answered) : Option Instance :=
  match exchange.request with
  | .save inst => some inst
  | _ => none

/-- Whether an action was asked for leave or performed. -/
def Request.Answered.isUse (exchange : Request.Answered) : Bool :=
  match exchange.request with
  | .permits _ | .perform _ => true
  | _ => false

@[simp] theorem Request.Answered.saved?_save (inst : Instance) (kept : Except Failure Unit) :
    (⟨.save inst, kept⟩ : Request.Answered).saved? = some inst :=
  rfl

/-- How surroundings answer a request in a state, and the state that they go over to. -/
abbrev World (σ : Type) :=
  (request : Request) → σ → request.Answer → σ → Prop

namespace Proc

variable {α β σ : Type} {world : World σ}

@[simp] theorem pure_eq (value : α) : (pure value : Proc α) = .done value :=
  rfl

@[simp] theorem bind_eq (proc : Proc α) (next : α → Proc β) : proc >>= next = proc.bind next :=
  rfl

@[simp] theorem done_bind (value : α) (next : α → Proc β) : (done value).bind next = next value :=
  rfl

@[simp] theorem then_bind {γ : Type} (proc : Proc α) (first : α → Proc β) (second : β → Proc γ) :
    (proc >>= first).bind second = proc.bind fun value => (first value).bind second :=
  bind_assoc proc first second

/-- The exchanges that lead from a procedure in a state to what is left of it in another. -/
inductive Path (world : World σ) : Proc α → σ → List Request.Answered → Proc α → σ → Prop where
  | here {proc : Proc α} {state : σ} : Path world proc state [] proc state
  | ask {request : Request} {next : request.Answer → Proc α} {answer : request.Answer}
      {state middle final : σ} {exchanges : List Request.Answered} {last : Proc α} :
      world request state answer middle → Path world (next answer) middle exchanges last final →
      Path world (.ask request next) state (⟨request, answer⟩ :: exchanges) last final

/-- The exchanges with which a procedure reaches a value. -/
def Ends (world : World σ) (proc : Proc α) (state : σ) (exchanges : List Request.Answered)
    (value : α) (final : σ) : Prop :=
  Path world proc state exchanges (.done value) final

namespace Path

variable {proc middle last : Proc α} {next : α → Proc β} {state between final : σ}
variable {exchanges further : List Request.Answered}

theorem append (path : Path world proc state exchanges middle between)
    (rest : Path world middle between further last final) :
    Path world proc state (exchanges ++ further) last final := by
  induction path with
  | here => exact rest
  | ask answered _ ih => exact .ask answered (ih rest)

/-- Going on with the value of a procedure leaves its own course as it is. -/
theorem bind (path : Path world proc state exchanges last final) (next : α → Proc β) :
    Path world (proc.bind next) state exchanges (last.bind next) final := by
  induction path with
  | here => exact .here
  | ask answered _ ih => exact .ask answered ih

/-- A course is cut between its exchanges. -/
theorem of_append (path : Path world proc state (exchanges ++ further) last final) :
    ∃ middle between, Path world proc state exchanges middle between ∧
      Path world middle between further last final := by
  induction exchanges generalizing proc state with
  | nil => exact ⟨proc, state, .here, path⟩
  | cons exchange rest ih =>
      cases path with
      | ask answered tail =>
          rcases ih tail with ⟨middle, between, inner, onward⟩
          exact ⟨middle, between, .ask answered inner, onward⟩

theorem mono {wider : World σ} (path : Path world proc state exchanges last final)
    (widens : ∀ request state answer after, world request state answer after →
      wider request state answer after) : Path wider proc state exchanges last final := by
  induction path with
  | here => exact .here
  | ask answered _ ih => exact .ask (widens _ _ _ _ answered) ih

theorem of_done {value : α} (path : Path world (.done value) state exchanges last final) :
    exchanges = [] ∧ last = .done value ∧ final = state := by
  cases path
  exact ⟨rfl, rfl, rfl⟩

/-- A course of a procedure that goes on with the value of another one is a course of the other
one, or a whole one followed by a course of what comes after it. -/
theorem of_bind {last : Proc β} (path : Path world (proc.bind next) state exchanges last final) :
    (∃ rest, Path world proc state exchanges rest final ∧ last = rest.bind next) ∨
      ∃ first value between second, exchanges = first ++ second ∧
        Ends world proc state first value between ∧
        Path world (next value) between second last final := by
  induction proc generalizing state exchanges with
  | done value => exact .inr ⟨[], value, state, exchanges, rfl, .here, path⟩
  | ask request rest ih =>
      cases path with
      | here => exact .inl ⟨.ask request rest, .here, rfl⟩
      | ask answered tail =>
          cases ih _ tail with
          | inl inside =>
              rcases inside with ⟨left, inner, rfl⟩
              exact .inl ⟨left, .ask answered inner, rfl⟩
          | inr through =>
              rcases through with ⟨first, value, between, second, rfl, ended, after⟩
              exact .inr ⟨_ :: first, value, between, second, rfl, .ask answered ended, after⟩

end Path

theorem ends_done {value given : α} {state final : σ} {exchanges : List Request.Answered} :
    Ends world (.done given) state exchanges value final ↔
      exchanges = [] ∧ value = given ∧ final = state := by
  constructor
  · intro ended
    rcases ended.of_done with ⟨rfl, given, rfl⟩
    cases given
    exact ⟨rfl, rfl, rfl⟩
  · rintro ⟨rfl, rfl, rfl⟩
    exact .here

theorem ends_ask {request : Request} {next : request.Answer → Proc α} {state final : σ}
    {exchanges : List Request.Answered} {value : α} :
    Ends world (.ask request next) state exchanges value final ↔
      ∃ answer middle rest, exchanges = ⟨request, answer⟩ :: rest ∧
        world request state answer middle ∧ Ends world (next answer) middle rest value final := by
  constructor
  · intro ended
    cases ended with
    | ask answered rest => exact ⟨_, _, _, rfl, answered, rest⟩
  · rintro ⟨answer, middle, rest, rfl, answered, ended⟩
    exact .ask answered ended

/-- A procedure that goes on with the value of another one ends when both have ended. -/
theorem ends_bind {proc : Proc α} {next : α → Proc β} {state final : σ}
    {exchanges : List Request.Answered} {value : β} :
    Ends world (proc.bind next) state exchanges value final ↔
      ∃ first middle between second, exchanges = first ++ second ∧
        Ends world proc state first middle between ∧
        Ends world (next middle) between second value final := by
  constructor
  · intro ended
    cases ended.of_bind with
    | inl inside =>
        rcases inside with ⟨rest, inner, equal⟩
        cases rest with
        | done middle =>
            refine ⟨exchanges, middle, final, [], by simp, inner, ?_⟩
            have equal : next middle = .done value := equal.symm
            rw [equal]
            exact .here
        | ask request further => cases equal
    | inr through => exact through
  · rintro ⟨first, middle, between, second, rfl, inner, after⟩
    exact (inner.bind next).append after

/-- Along every course of a procedure, what has to hold before a request holds before each of its
requests, and what has to hold of its value holds where it ends. -/
def Keeps (world : World σ) (before : Request → σ → Prop) (after : α → σ → Prop) :
    Proc α → σ → Prop
  | .done value, state => after value state
  | .ask request next, state =>
    before request state ∧
      ∀ answer middle, world request state answer middle →
        (next answer).Keeps world before after middle

theorem keeps_bind {before : Request → σ → Prop} {after : β → σ → Prop} {proc : Proc α}
    {next : α → Proc β} {state : σ} :
    (proc.bind next).Keeps world before after state ↔
      proc.Keeps world before (fun value middle => (next value).Keeps world before after middle)
        state := by
  induction proc generalizing state with
  | done value => exact Iff.rfl
  | ask request rest ih =>
      constructor
      · rintro ⟨here, onward⟩
        exact ⟨here, fun answer middle answered => (ih answer).mp (onward answer middle answered)⟩
      · rintro ⟨here, onward⟩
        exact ⟨here, fun answer middle answered => (ih answer).mpr (onward answer middle answered)⟩

theorem Keeps.mono {before : Request → σ → Prop} {after weaker : α → σ → Prop} {proc : Proc α}
    {state : σ} (weakens : ∀ value middle, after value middle → weaker value middle)
    (keeps : proc.Keeps world before after state) : proc.Keeps world before weaker state := by
  induction proc generalizing state with
  | done value => exact weakens value state keeps
  | ask request next ih =>
      exact ⟨keeps.1, fun answer middle answered => ih answer (keeps.2 answer middle answered)⟩

theorem keeps_trivial (proc : Proc α) (state : σ) :
    proc.Keeps world (fun _ _ => True) (fun _ _ => True) state := by
  induction proc generalizing state with
  | done value => trivial
  | ask request next ih => exact ⟨trivial, fun answer after _ => ih answer after⟩

/-- A procedure ends when the world has an answer to each of its requests. -/
theorem Keeps.exists_ends {before : Request → σ → Prop} {after : α → σ → Prop} {proc : Proc α}
    {state : σ}
    (answers : ∀ request middle, before request middle →
      ∃ answer final, world request middle answer final)
    (keeps : proc.Keeps world before after state) :
    ∃ exchanges value final, Ends world proc state exchanges value final ∧ after value final := by
  induction proc generalizing state with
  | done value => exact ⟨[], value, state, .here, keeps⟩
  | ask request next ih =>
      rcases answers request state keeps.1 with ⟨answer, middle, answered⟩
      rcases ih answer (keeps.2 answer middle answered) with ⟨exchanges, value, final, ended, kept⟩
      exact ⟨_ :: exchanges, value, final, .ask answered ended, kept⟩

/-- The one course of a procedure whose requests are answered by a function: its exchanges, its
value and the state that it leaves. -/
def course (serve : (request : Request) → σ → request.Answer × σ) :
    Proc α → σ → List Request.Answered × α × σ
  | .done value, state => ([], value, state)
  | .ask request next, state =>
    let (answer, after) := serve request state
    let (exchanges, value, final) := (next answer).course serve after
    (⟨request, answer⟩ :: exchanges, value, final)

theorem ends_course {serve : (request : Request) → σ → request.Answer × σ}
    (serves : ∀ request state, world request state (serve request state).1 (serve request state).2)
    (proc : Proc α) (state : σ) :
    Ends world proc state (proc.course serve state).1 (proc.course serve state).2.1
      (proc.course serve state).2.2 := by
  induction proc generalizing state with
  | done value => exact .here
  | ask request next ih => exact .ask (serves request state) (ih _ _)

/-- The first so many exchanges of that course, what is left of the procedure after them, and the
state that they lead to. -/
def courseTo (serve : (request : Request) → σ → request.Answer × σ) :
    Nat → Proc α → σ → List Request.Answered × Proc α × σ
  | count + 1, .ask request next, state =>
    let (answer, after) := serve request state
    let (exchanges, rest, final) := (next answer).courseTo serve count after
    (⟨request, answer⟩ :: exchanges, rest, final)
  | _, proc, state => ([], proc, state)

theorem path_courseTo {serve : (request : Request) → σ → request.Answer × σ}
    (serves : ∀ request state, world request state (serve request state).1 (serve request state).2)
    (count : Nat) (proc : Proc α) (state : σ) :
    Path world proc state (proc.courseTo serve count state).1
      (proc.courseTo serve count state).2.1 (proc.courseTo serve count state).2.2 := by
  induction count generalizing proc state with
  | zero => cases proc <;> exact .here
  | succ count ih =>
      cases proc with
      | done value => exact .here
      | ask request next => exact .ask (serves request state) (ih _ _)

/-- The use of an action that a procedure stands before. -/
def invocation? : Proc α → Option Invocation
  | .ask (.perform invocation) _ => some invocation
  | _ => none

theorem of_invocation? {proc : Proc α} {invocation : Invocation}
    (performs : proc.invocation? = some invocation) :
    ∃ next, proc = .ask (.perform invocation) next := by
  simp only [invocation?] at performs
  split at performs
  · cases performs
    exact ⟨_, rfl⟩
  · cases performs

end Proc

/-- What is done in phases: the answers that lead from phase to phase, the phases that are left
without any request, and the values that are given in the end. -/
structure Protocol (Phase α : Type) where
  Moves : Phase → (request : Request) → request.Answer → Phase → Prop
  Shifts : Phase → Phase → Prop
  Ends : Phase → α → Prop

namespace Protocol

variable {Phase α β σ : Type} {protocol : Protocol Phase α} {world : World σ}

/-- A procedure does from a phase on what the protocol says. -/
inductive Governs (protocol : Protocol Phase α) : Phase → Proc α → Prop where
  | done {phase : Phase} {value : α} :
      protocol.Ends phase value → Governs protocol phase (.done value)
  | ask {phase : Phase} {request : Request} {next : request.Answer → Proc α}
      (after : request.Answer → Phase) :
      (∀ answer, protocol.Moves phase request answer (after answer)) →
      (∀ answer, Governs protocol (after answer) (next answer)) →
      Governs protocol phase (.ask request next)
  | shift {phase after : Phase} {proc : Proc α} :
      protocol.Shifts phase after → Governs protocol after proc → Governs protocol phase proc

/-- A property of the exchanges so far, the phase and the state that every step of a protocol in a
world preserves. -/
structure Invariant (protocol : Protocol Phase α) (world : World σ)
    (holds : List Request.Answered → Phase → σ → Prop) : Prop where
  move : ∀ {exchanges phase state request answer after final},
    holds exchanges phase state → protocol.Moves phase request answer after →
    world request state answer final → holds (exchanges ++ [⟨request, answer⟩]) after final
  shift : ∀ {exchanges phase state after},
    holds exchanges phase state → protocol.Shifts phase after → holds exchanges after state

namespace Invariant

variable {holds : List Request.Answered → Phase → σ → Prop}

/-- An invariant goes along with every course of a governed procedure. -/
theorem along (invariant : protocol.Invariant world holds) {phase : Phase} {proc last : Proc α}
    {state final : σ} {before exchanges : List Request.Answered}
    (governed : protocol.Governs phase proc)
    (start : holds before phase state) (path : Proc.Path world proc state exchanges last final) :
    ∃ after, protocol.Governs after last ∧ holds (before ++ exchanges) after final := by
  induction governed generalizing state before exchanges with
  | done ends =>
      rcases path.of_done with ⟨rfl, rfl, rfl⟩
      exact ⟨_, .done ends, by simpa using start⟩
  | ask after moves rest ih =>
      cases path with
      | here => exact ⟨_, .ask after moves rest, by simpa using start⟩
      | ask answered tail =>
          have step := invariant.move start (moves _) answered
          rcases ih _ step tail with ⟨reached, governs, kept⟩
          exact ⟨reached, governs, by simpa using kept⟩
  | shift shifts _ ih => exact ih (invariant.shift start shifts) path

/-- A governed procedure stands before a request in a phase that makes it. -/
theorem at_ask (invariant : protocol.Invariant world holds) {phase : Phase} {state : σ}
    {exchanges : List Request.Answered} {request : Request} {next : request.Answer → Proc α}
    (governed : protocol.Governs phase (.ask request next)) (start : holds exchanges phase state) :
    ∃ standing, holds exchanges standing state ∧
      ∀ answer, ∃ after, protocol.Moves standing request answer after ∧
        protocol.Governs after (next answer) := by
  generalize whole : Proc.ask request next = proc at governed
  induction governed with
  | done => cases whole
  | ask after moves rest =>
      cases whole
      exact ⟨_, start, fun answer => ⟨after answer, moves answer, rest answer⟩⟩
  | shift shifts _ ih => exact ih (invariant.shift start shifts) whole

/-- A governed procedure ends in a phase that gives its value. -/
theorem at_done (invariant : protocol.Invariant world holds) {phase : Phase} {state : σ}
    {exchanges : List Request.Answered} {value : α}
    (governed : protocol.Governs phase (.done value)) (start : holds exchanges phase state) :
    ∃ standing, holds exchanges standing state ∧ protocol.Ends standing value := by
  generalize whole : Proc.done value = proc at governed
  induction governed with
  | done ends =>
      cases whole
      exact ⟨_, start, ends⟩
  | ask => cases whole
  | shift shifts _ ih => exact ih (invariant.shift start shifts) whole

/-- A governed procedure keeps what an invariant gives before every request and at the end. -/
theorem keeps (invariant : protocol.Invariant world holds) {before : Request → σ → Prop}
    {last : α → σ → Prop}
    (asks : ∀ {exchanges phase state request}, holds exchanges phase state →
      (∀ answer, ∃ after, protocol.Moves phase request answer after) → before request state)
    (ends : ∀ {exchanges phase state value}, holds exchanges phase state →
      protocol.Ends phase value → last value state)
    {phase : Phase} {proc : Proc α} {state : σ} (governed : protocol.Governs phase proc)
    (exchanges : List Request.Answered) (start : holds exchanges phase state) :
    proc.Keeps world before last state := by
  induction governed generalizing state exchanges with
  | done gives => exact ends start gives
  | ask after moves rest ih =>
      refine ⟨asks start fun answer => ⟨_, moves answer⟩, fun answer middle answered => ?_⟩
      exact ih answer _ (invariant.move start (moves answer) answered)
  | shift shifts _ ih => exact ih _ (invariant.shift start shifts)

/-- What holds at the end of a governed procedure, in the phase that gives its value. -/
theorem at_end (invariant : protocol.Invariant world holds) {phase : Phase} {proc : Proc α}
    {state final : σ} {exchanges : List Request.Answered} {value : α}
    (governed : protocol.Governs phase proc) (start : holds [] phase state)
    (ended : Proc.Ends world proc state exchanges value final) :
    ∃ last, holds exchanges last final ∧ protocol.Ends last value := by
  rcases invariant.along governed start ended with ⟨reached, governs, kept⟩
  exact invariant.at_done governs kept

/-- What holds before a request of a governed procedure, in the phase that makes it. -/
theorem at_request (invariant : protocol.Invariant world holds) {phase : Phase} {proc : Proc α}
    {state final : σ} {exchanges : List Request.Answered} {request : Request}
    {next : request.Answer → Proc α} (governed : protocol.Governs phase proc)
    (start : holds [] phase state)
    (path : Proc.Path world proc state exchanges (.ask request next) final) :
    ∃ standing, holds exchanges standing final ∧
      ∀ answer, ∃ after, protocol.Moves standing request answer after ∧
        protocol.Governs after (next answer) := by
  rcases invariant.along governed start path with ⟨reached, governs, kept⟩
  exact invariant.at_ask governs kept

end Invariant

end Protocol

end Workflow
