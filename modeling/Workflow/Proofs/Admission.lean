import Workflow.Proofs.Retention

/-!
# Starts under one id

A call that starts an instance asks whether the id is taken before it saves anything.  When it is
told so, it fails and has saved nothing.  The test and the save are two requests, though, and saving
an instance replaces the one that is there.  So of several calls under one id all but one are turned
away, unless they have all asked before any of them has saved.
-/

namespace Workflow

/-! ## What a call that starts an instance asks first -/

/-- Whether a call starts an instance under a given id. -/
def EngineCall.Starts (id : String) (call : EngineCall) : Prop :=
  ∃ source context, call = .start (some id) source context

/-- The failure to start an instance under an id that is taken. -/
def Instance.taken (existing : Instance) (id : String) : Failure :=
  .transition ⟨.alreadyExists, existing.state, .pending, some id⟩

/-- What is left of a call that was told that its id is taken. -/
def refusal (id : String) : Proc (Except Failure Unit) :=
  .ask (.load id) fun
    | .error failure => .done (.error failure)
    | .ok existing => .done (.error (existing.taken id))

/-- A procedure asks whether an id is taken before it does anything but tell warnings, and has
nothing left but to fail when it is.  It does not come to ask when the definition is refused. -/
inductive Proc.Inquires (id : String) (source : Definition.Source) :
    Proc (Except Failure Unit) → Prop where
  | refused {failure : Failure} : Definition.parse source = .error failure →
      Inquires id source (.done (.error failure))
  | log {record : LogRecord} {next : Unit → Proc (Except Failure Unit)} :
      Inquires id source (next ()) → Inquires id source (.ask (.log record) next)
  | asks {next : Except Failure Bool → Proc (Except Failure Unit)} :
      next (.ok true) = refusal id → Inquires id source (.ask (.contains id) next)

theorem inquires_logWarnings {id : String} {source : Definition.Source} {warnings : List String}
    {next : Unit → Proc (Except Failure Unit)} (inquires : (next ()).Inquires id source) :
    ((logWarnings warnings).bind next).Inquires id source :=
  logWarnings_bind (Proc.Inquires id source) (fun _ => .log) inquires

theorem newId_named {id : String} (named : id ≠ "") : Runner.newId (some id) = .done id := by
  unfold Runner.newId
  split
  · next empty => exact absurd (Option.some.inj empty) named
  · next missing => cases missing
  · next same =>
      cases same
      rfl

/-- A call that starts an instance asks for its id first. -/
theorem start_inquires {runner : Runner} {id : String} (named : id ≠ "")
    (source : Definition.Source) (context : Value) :
    ((EngineCall.start (some id) source context).proc runner).Inquires id source := by
  simp only [EngineCall.proc, Runner.start, Runner.readDefinition, newId_named named]
  simp only [map_eq_pure_bind, Proc.bind_eq, Proc.bind_assoc]
  apply inquires_logWarnings
  simp only [Proc.pure_eq, Proc.done_bind]
  cases reads : Definition.parse source with
  | error failure => exact .refused reads
  | ok definition =>
      apply Proc.Inquires.asks
      simp only [refusal, Proc.done_bind]
      refine congrArg (Proc.ask (.load id)) (funext fun loaded => ?_)
      cases loaded with
      | error failure => rfl
      | ok existing => rfl

/-! ## Stages of a call -/

/-- Whether a request leaves everything but the log as it is. -/
def Request.looks : Request → Bool
  | .log _ | .contains _ | .load _ => true
  | _ => false

/-- No request of a trace has changed the record of an id. -/
def Unaltered (id : String) (trace : List (Nat × Request.Answered)) : Prop :=
  ∀ entry ∈ trace, alters id entry.2.request = false

/-- A call has asked whether an id is taken, and was told that it is not, before any call had
changed the record of the id. -/
def AskedEarly (id : String) (trace : List (Nat × Request.Answered)) (caller : Nat) : Prop :=
  ∃ before after, trace = before ++ (caller, ⟨.contains id, .ok false⟩) :: after ∧
    Unaltered id before

/-- How far a call under an id has come that was begun as one of some calls. -/
inductive Stage (id : String) (begun : List EngineCall) (trace : List (Nat × Request.Answered))
    (caller : Nat) : Proc (Except Failure Unit) → Prop where
  | unasked {source : Definition.Source} {context : Value} {rest : Proc (Except Failure Unit)} :
      begun[caller]? = some (.start (some id) source context) → rest.Inquires id source →
      (∀ exchange, (caller, exchange) ∈ trace → ∃ record, exchange.request = .log record) →
      Stage id begun trace caller rest
  | early {rest : Proc (Except Failure Unit)} : AskedEarly id trace caller →
      Stage id begun trace caller rest
  /-- It was told that the id is taken, and is about to look who has taken it. -/
  | refused : ¬ Unaltered id trace →
      (caller, (⟨.contains id, .ok true⟩ : Request.Answered)) ∈ trace →
      (∀ exchange, (caller, exchange) ∈ trace → exchange.request.looks = true) →
      Stage id begun trace caller (refusal id)
  | failed {existing : Instance} :
      (caller, (⟨.contains id, .ok true⟩ : Request.Answered)) ∈ trace →
      (∀ exchange, (caller, exchange) ∈ trace → exchange.request.looks = true) →
      (caller, (⟨.load id, .ok existing⟩ : Request.Answered)) ∈ trace →
      Stage id begun trace caller (.done (.error (existing.taken id)))

/-- What holds of a situation in which all calls start an instance under an id. -/
structure Situation.Competes {σ : Type} (records : Records σ) (id : String)
    (begun : List EngineCall) (situation : Situation σ) (trace : List (Nat × Request.Answered)) :
    Prop where
  counted : situation.calls.length = begun.length
  present : ∀ caller exchange, (caller, exchange) ∈ trace → caller < begun.length
  free_iff : records.record? situation.state id = none ↔ Unaltered id trace
  grows : ∀ caller rest, situation.rest? caller = some rest → ∃ basis, rest.Grows id basis
  stage : ∀ caller rest, situation.rest? caller = some rest → Stage id begun trace caller rest

section Competing

variable {σ : Type} {records : Records σ} {id : String} {begun : List EngineCall}
variable {situation : Situation σ} {trace : List (Nat × Request.Answered)} {caller other : Nat}
variable {rest : Proc (Except Failure Unit)} {exchange : Request.Answered}

theorem unaltered_concat :
    Unaltered id (trace ++ [(other, exchange)]) ↔
      Unaltered id trace ∧ alters id exchange.request = false := by
  simp [Unaltered, or_imp, forall_and]

theorem AskedEarly.append {more : List (Nat × Request.Answered)}
    (asked : AskedEarly id trace caller) : AskedEarly id (trace ++ more) caller := by
  rcases asked with ⟨before, after, rfl, unaltered⟩
  exact ⟨before, after ++ more, by simp, unaltered⟩

/-- What the exchanges of a call have in common, they have with one more of them, too. -/
theorem forall_mem_concat {holds : Request.Answered → Prop}
    (each : ∀ exchange, (caller, exchange) ∈ trace → holds exchange)
    (last : other = caller → holds exchange) :
    ∀ made, (caller, made) ∈ trace ++ [(other, exchange)] → holds made := by
  intro made member
  cases List.mem_append.mp member with
  | inl earlier => exact each made earlier
  | inr same =>
      cases List.mem_singleton.mp same
      exact last rfl

/-- How far a call has come does not change by what others ask. -/
theorem Stage.bystands (different : other ≠ caller) (stage : Stage id begun trace caller rest) :
    Stage id begun (trace ++ [(other, exchange)]) caller rest := by
  cases stage with
  | unasked started inquires logs =>
      exact .unasked started inquires (forall_mem_concat logs fun same => absurd same different)
  | early asked => exact .early asked.append
  | refused altered told looks =>
      refine .refused (fun unaltered => altered (unaltered_concat.mp unaltered).1)
        (List.mem_append_left _ told) ?_
      exact forall_mem_concat looks fun same => absurd same different
  | failed told looks loaded =>
      refine .failed (List.mem_append_left _ told) ?_ (List.mem_append_left _ loaded)
      exact forall_mem_concat looks fun same => absurd same different

theorem Stage.begins (call : EngineCall) (stage : Stage id begun trace caller rest) :
    Stage id (begun ++ [call]) trace caller rest := by
  cases stage with
  | @unasked source context _ started inquires logs =>
      have still : (begun ++ [call])[caller]? = some (.start (some id) source context) := by
        rw [List.getElem?_append_left (List.getElem?_eq_some_iff.mp started).1]
        exact started
      exact .unasked still inquires logs
  | early asked => exact .early asked
  | refused altered told looks => exact .refused altered told looks
  | failed told looks loaded => exact .failed told looks loaded

/-! ## Moments -/

variable {others : (request : Request) → request.Answer} {request : Request}
variable {next : request.Answer → Proc (Except Failure Unit)}

/-- What the turn of a call that is at some stage leads to. -/
theorem Stage.turns {state : σ}
    (free_iff : records.record? state id = none ↔ Unaltered id trace)
    (stage : Stage id begun trace caller (.ask request next)) :
    let reply := records.reply others request state
    Stage id begun (trace ++ [(caller, ⟨request, reply.1⟩)]) caller (next reply.1) := by
  intro reply
  cases stage with
  | unasked started inquires logs =>
      cases inquires with
      | log inquires => exact .unasked started inquires (forall_mem_concat logs fun _ => ⟨_, rfl⟩)
      | asks refuses =>
          have lookedOnly : ∀ made, (caller, made) ∈ trace → made.request.looks = true := by
            intro made member
            rcases logs made member with ⟨record, same⟩
            rw [same]
            rfl
          have looks : ∀ made, (caller, made) ∈ trace ++ [(caller, ⟨.contains id, reply.1⟩)] →
              made.request.looks = true :=
            forall_mem_concat lookedOnly fun _ => rfl
          cases held : records.record? state id with
          | none =>
              have answer : reply.1 = .ok false := by
                simp only [reply, Records.reply, held]
                rfl
              rw [answer]
              exact .early ⟨trace, [], rfl, free_iff.mp held⟩
          | some stored =>
              have answer : reply.1 = .ok true := by
                simp only [reply, Records.reply, held]
                rfl
              rw [answer] at looks ⊢
              rw [refuses]
              refine .refused (fun unaltered => ?_) (by simp) looks
              rw [free_iff.mpr (unaltered_concat.mp unaltered).1] at held
              cases held
  | early asked => exact .early asked.append
  | refused altered told looks =>
      rcases Option.ne_none_iff_exists'.mp (mt free_iff.mp altered) with ⟨existing, held⟩
      have answer : reply.1 = .ok existing := records.load_eq_ok.mpr held
      rw [answer]
      exact .failed (List.mem_append_left _ told) (forall_mem_concat looks fun _ => rfl) (by simp)

/-- Whether the record is there is told by the trace, also after a turn. -/
theorem free_iff_turn {state : σ} {basis : Basis}
    (free_iff : records.record? state id = none ↔ Unaltered id trace)
    (allows : basis.Allows id request) :
    records.record? (records.reply others request state).2 id = none ↔
      Unaltered id (trace ++ [(caller, ⟨request, (records.reply others request state).1⟩)]) := by
  rw [unaltered_concat]
  rcases allows.save_or_keeps with ⟨inst, rfl, same, _⟩ | unaltered
  · have held : records.record? (records.reply others (.save inst) state).2 id = some inst :=
      (records.record?_save state inst id).trans (if_pos same)
    simp [held, alters, same]
  · rw [record?_reply unaltered, free_iff]
    simp [unaltered]

theorem Situation.Competes.turn (competes : situation.Competes records id begun trace)
    (asks : situation.rest? caller = some (.ask request next)) :
    (situation.after records id (.turn caller others)).Competes records id begun
      (trace ++ [(caller, ⟨request, (records.reply others request situation.state).1⟩)]) := by
  rcases situation.after_turn id others asks with ⟨sameState, sameLength, rests, _⟩
  rcases competes.grows caller _ asks with ⟨basis, grows⟩
  refine ⟨sameLength.trans competes.counted, ?_, ?_, ?_, ?_⟩
  · intro made exchange member
    cases List.mem_append.mp member with
    | inl earlier => exact competes.present made exchange earlier
    | inr same =>
        cases List.mem_singleton.mp same
        rcases Option.map_eq_some_iff.mp asks with ⟨call, found, _⟩
        rw [← competes.counted]
        exact (List.getElem?_eq_some_iff.mp found).1
  · rw [sameState]
    exact free_iff_turn competes.free_iff grows.1
  · intro made rest left
    rw [rests] at left
    by_cases same : made = caller
    · rw [if_pos same] at left
      cases left
      exact ⟨_, grows.2 _ _ ⟨Basis.admits_reply, rfl⟩⟩
    · rw [if_neg same] at left
      exact competes.grows made rest left
  · intro made rest left
    rw [rests] at left
    by_cases same : made = caller
    · subst same
      rw [if_pos rfl] at left
      cases left
      exact (competes.stage made _ asks).turns competes.free_iff
    · rw [if_neg same] at left
      exact (competes.stage made rest left).bystands (Ne.symm same)

theorem Situation.Competes.begins (runner : Runner) {call : EngineCall} (named : id ≠ "")
    (starts : call.Starts id) (competes : situation.Competes records id begun trace) :
    (situation.after records id (.begins runner call)).Competes records id (begun ++ [call])
      trace := by
  have rests : ∀ made, (situation.after records id (.begins runner call)).rest? made =
      if made = situation.calls.length then some (call.proc runner)
      else situation.rest? made :=
    situation.rest?_after_begins runner call
  refine ⟨by simp [after, competes.counted], ?_, competes.free_iff, ?_, ?_⟩
  · intro made exchange member
    have inside := competes.present made exchange member
    rw [List.length_append]
    exact Nat.lt_add_right _ inside
  · intro made rest left
    rw [rests] at left
    split at left
    · cases left
      rcases starts with ⟨source, context, rfl⟩
      exact ⟨_, EngineCall.proc_grows trivial⟩
    · exact competes.grows made rest left
  · intro made rest left
    rw [rests] at left
    split at left
    · next same =>
        cases left
        rcases starts with ⟨source, context, rfl⟩
        have last : (begun ++ [EngineCall.start (some id) source context])[made]? =
            some (.start (some id) source context) := by
          rw [same, competes.counted, List.getElem?_concat_length]
        refine .unasked last (start_inquires named source context) ?_
        intro exchange member
        have inside := competes.present made exchange member
        rw [same, competes.counted] at inside
        exact absurd inside (Nat.lt_irrefl _)
    · exact (competes.stage made rest left).begins call

/-- Whatever calls that start an instance under an id do, they compete. -/
theorem competes_play (records : Records σ) {start : σ} (named : id ≠ "")
    (free : records.record? start id = none) {schedule : List Moment}
    (starts : ∀ runner call, .begins runner call ∈ schedule → call.Starts id) :
    (Situation.play records id ⟨start, []⟩ schedule).Competes records id
      (schedule.filterMap Moment.begun?) (Situation.trace records id ⟨start, []⟩ schedule) := by
  induction schedule using List.reverseRecOn with
  | nil =>
      refine ⟨rfl, by simp [Situation.trace], ?_, by simp [Situation.rest?, Situation.play],
        by simp [Situation.rest?, Situation.play]⟩
      simp [Situation.play, Situation.trace, Unaltered, free]
  | append_singleton earlier moment ih =>
      have competes := ih fun runner call member =>
        starts runner call (List.mem_append_left _ member)
      rw [Situation.play_concat, Situation.trace_concat, List.filterMap_append]
      generalize Situation.play records id ⟨start, []⟩ earlier = situation at competes ⊢
      cases moment with
      | begins runner call =>
          have begins := competes.begins runner named (starts runner call (by simp))
          simpa [Situation.exchange?, Moment.begun?] using begins
      | turn caller others =>
          have unbegun : [Moment.turn caller others].filterMap Moment.begun? = [] := rfl
          rw [unbegun, List.append_nil]
          by_cases asking : ∃ request next, situation.rest? caller = some (.ask request next)
          · rcases asking with ⟨request, next, asks⟩
            rw [(situation.after_turn id others asks).2.2.2]
            exact competes.turn asks
          · have idle : ∀ request next, situation.rest? caller ≠ some (.ask request next) :=
              fun request next asks => asking ⟨request, next, asks⟩
            rcases situation.after_turn_idle id others idle with ⟨unchanged, silent⟩
            rw [unchanged, silent, Option.toList_none, List.append_nil]
            exact competes

end Competing

/-! ## Calls that are turned away -/

/-- A call under an id has changed nothing, and fails: when it has asked for the id, it has failed
with its next turn at the latest, since there is an instance already; and it has failed without
asking only if its definition was refused. -/
structure TurnedAway {σ : Type} (records : Records σ) (id : String) (start : σ)
    (schedule : List Moment) (caller : Nat) : Prop where
  looks : ∀ exchange, (caller, exchange) ∈ Situation.trace records id ⟨start, []⟩ schedule →
    exchange.request.looks = true
  told : ∀ answer others,
    (caller, (⟨.contains id, answer⟩ : Request.Answered)) ∈
      Situation.trace records id ⟨start, []⟩ schedule →
    ∃ existing,
      (caller, (⟨.load id, .ok existing⟩ : Request.Answered)) ∈
        Situation.trace records id ⟨start, []⟩ (schedule ++ [.turn caller others]) ∧
      (Situation.play records id ⟨start, []⟩ (schedule ++ [.turn caller others])).rest? caller =
        some (.done (.error (existing.taken id)))
  untold : ∀ value,
    (∀ answer, (caller, (⟨.contains id, answer⟩ : Request.Answered)) ∉
      Situation.trace records id ⟨start, []⟩ schedule) →
    (Situation.play records id ⟨start, []⟩ schedule).rest? caller = some (.done value) →
    ∃ source context failure,
      (schedule.filterMap Moment.begun?)[caller]? = some (.start (some id) source context) ∧
      Definition.parse source = .error failure ∧ value = .error failure

section Starting

variable {σ : Type} {records : Records σ} {id : String} {start : σ} {schedule : List Moment}

/-- A call has asked before any call had saved, or is turned away. -/
theorem early_or_turnedAway
    (competes : (Situation.play records id ⟨start, []⟩ schedule).Competes records id
      (schedule.filterMap Moment.begun?) (Situation.trace records id ⟨start, []⟩ schedule))
    (caller : Nat) :
    AskedEarly id (Situation.trace records id ⟨start, []⟩ schedule) caller ∨
      TurnedAway records id start schedule caller := by
  cases left : (Situation.play records id ⟨start, []⟩ schedule).rest? caller with
  | none =>
      have absent : ∀ exchange,
          (caller, exchange) ∉ Situation.trace records id ⟨start, []⟩ schedule := by
        intro exchange member
        have inside := competes.present caller exchange member
        rw [← competes.counted] at inside
        simp [Situation.rest?, inside] at left
      refine .inr ⟨fun exchange member => absurd member (absent exchange),
        fun answer _ member => absurd member (absent _), fun value _ ended => ?_⟩
      rw [left] at ended
      cases ended
  | some rest =>
      cases competes.stage caller rest left with
      | early asked => exact .inl asked
      | unasked started inquires logs =>
          refine .inr ⟨fun exchange member => ?_, fun answer _ member => ?_, ?_⟩
          · rcases logs exchange member with ⟨record, same⟩
            rw [same]
            rfl
          · rcases logs _ member with ⟨record, same⟩
            cases same
          · intro value _ ended
            rw [left] at ended
            cases ended
            cases inquires with
            | refused unread => exact ⟨_, _, _, started, unread, rfl⟩
      | refused altered told looks =>
          refine .inr ⟨looks, fun answer others _ => ?_, fun value untold => ?_⟩
          · rcases Option.ne_none_iff_exists'.mp (mt competes.free_iff.mp altered) with
              ⟨existing, held⟩
            have loads := records.load_eq_ok.mpr held
            rcases Situation.after_turn id others left with ⟨_, _, rests, exchanges⟩
            refine ⟨existing, ?_, ?_⟩
            · rw [Situation.trace_concat, exchanges]
              simp [Records.reply, loads]
            · rw [Situation.play_concat, rests, if_pos rfl]
              simp only [Records.reply, loads]
          · exact absurd told (untold _)
      | @failed existing told looks loaded =>
          refine .inr ⟨looks, fun answer others _ => ⟨existing, ?_, ?_⟩, fun value untold => ?_⟩
          · rw [Situation.trace_concat]
            exact List.mem_append_left _ loaded
          · have idle : ∀ request next,
                (Situation.play records id ⟨start, []⟩ schedule).rest? caller ≠
                  some (.ask request next) := by
              rw [left]
              rintro request next ⟨⟩
            rw [Situation.play_concat, (Situation.after_turn_idle id others idle).1]
            exact left
          · exact absurd told (untold _)

/-- However calls are interleaved that start an instance under the same id, when the store has none:
of two of them at least one is turned away and has changed nothing, unless both have asked for the
id before any call had saved an instance under it. -/
theorem one_start_turned_away (records : Records σ) (named : id ≠ "")
    (starts : ∀ runner call, .begins runner call ∈ schedule → call.Starts id)
    (free : records.record? start id = none) (caller other : Nat) :
    (AskedEarly id (Situation.trace records id ⟨start, []⟩ schedule) caller ∧
        AskedEarly id (Situation.trace records id ⟨start, []⟩ schedule) other) ∨
      ∃ loser, (loser = caller ∨ loser = other) ∧
        TurnedAway records id start schedule loser := by
  have competes := competes_play records named free starts
  rcases early_or_turnedAway competes caller with asked | turned
  · rcases early_or_turnedAway competes other with askedToo | turned
    · exact .inl ⟨asked, askedToo⟩
    · exact .inr ⟨other, .inr rfl, turned⟩
  · exact .inr ⟨caller, .inl rfl, turned⟩

end Starting

/-! ## Two calls -/

/-- Two calls start an instance under the same id, and then get turns in some order. -/
def twoStarts (turns : List Nat) : List Moment :=
  let start := EngineCall.start (some "w") (.document Definition.reversibleDocument) .null
  .begins .plain start :: .begins .plain start ::
    turns.map fun caller => .turn caller (Reply.result (.succeed [])).everywhere

theorem starts_twoStarts {turns : List Nat} {runner : Runner} {call : EngineCall}
    (member : .begins runner call ∈ twoStarts turns) : call.Starts "w" := by
  simp only [twoStarts, List.mem_cons, List.mem_map, Moment.begins.injEq, reduceCtorEq, and_false,
    exists_false, or_false] at member
  rcases member with ⟨_, rfl⟩ | ⟨_, rfl⟩ <;> exact ⟨_, _, rfl⟩

/-- The calls of a schedule that have changed the record of an id. -/
def changers (id : String) (schedule : List Moment) : List Nat :=
  ((Situation.trace MemoryStore.records id ⟨.empty, []⟩ schedule).filter
    fun entry => alters id entry.2.request).map (·.1)

/-- The calls of a schedule that were told that an id is not taken. -/
def toldFree (id : String) (schedule : List Moment) : List Nat :=
  (Situation.trace MemoryStore.records id ⟨.empty, []⟩ schedule).filterMap fun
    | (caller, ⟨.contains asked, .ok false⟩) => if asked = id then some caller else none
    | _ => none

theorem AskedEarly.mem_toldFree {id : String} {schedule : List Moment} {caller : Nat}
    (asked : AskedEarly id (Situation.trace MemoryStore.records id ⟨.empty, []⟩ schedule) caller) :
    caller ∈ toldFree id schedule := by
  rcases asked with ⟨before, after, same, _⟩
  rw [toldFree, same]
  exact List.mem_filterMap.mpr ⟨_, List.mem_append_right _ List.mem_cons_self, if_pos rfl⟩

theorem TurnedAway.not_mem_changers {id : String} {schedule : List Moment} {caller : Nat}
    (turned : TurnedAway MemoryStore.records id .empty schedule caller) :
    caller ∉ changers id schedule := by
  intro changed
  rcases List.mem_map.mp changed with ⟨⟨made, exchange⟩, member, rfl⟩
  rcases List.mem_filter.mp member with ⟨inside, alters⟩
  have looks := turned.looks exchange inside
  cases exchange with
  | mk request answer => cases request <;> simp_all [Request.looks, Workflow.alters]

/-- The first call has asked and saved before the second one asks. -/
theorem one_start_turned_away_later :
    TurnedAway MemoryStore.records "w" .empty (twoStarts [0, 0, 1]) 1 := by
  have changed : changers "w" (twoStarts [0, 0, 1]) = [0] := by decide +kernel
  have told : toldFree "w" (twoStarts [0, 0, 1]) = [0] := by decide +kernel
  have starts : ∀ runner call, .begins runner call ∈ twoStarts [0, 0, 1] → call.Starts "w" :=
    fun _ _ => starts_twoStarts
  have free : MemoryStore.records.record? .empty "w" = none := by decide
  rcases one_start_turned_away MemoryStore.records (by decide) starts free 0 1 with
    ⟨_, asked⟩ | ⟨loser, rfl | rfl, turned⟩
  · have member := asked.mem_toldFree
    rw [told] at member
    cases List.mem_singleton.mp member
  · exact absurd (by simp [changed]) turned.not_mem_changers
  · exact turned

/-- Two calls may both find the id free, and both save an instance under it. -/
theorem not_one_start : ¬ ∀ (schedule : List Moment),
    (∀ runner call, .begins runner call ∈ schedule → call.Starts "w") →
    ∀ caller ∈ changers "w" schedule, ∀ other ∈ changers "w" schedule, caller = other := by
  intro unique
  have changed : changers "w" (twoStarts [0, 1, 0, 1]) = [0, 1] := by decide +kernel
  have same := unique (twoStarts [0, 1, 0, 1]) (fun _ _ => starts_twoStarts) 0 (by simp [changed])
    1 (by simp [changed])
  cases same

end Workflow
