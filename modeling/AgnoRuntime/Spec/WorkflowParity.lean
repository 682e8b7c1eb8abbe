import AgnoRuntime.ForStd.Doubled
import AgnoRuntime.Spec.WorkflowEnds

/-!
# Streamed and plain runs of a workflow

`run` takes one copy of an answer that is doubled, `run_stream` one copy of each
piece of it that is. The two give the same output exactly where that comes to the
same thing for how the answer is cut, and every later step depends on it.
-/

namespace AgnoRuntime

open Svc Prog WorkflowExecutionService

/-! ## One answer -/

/-- `_dedupe_self_concatenated` undoubles a text. -/
theorem toList_dedupeSelfConcatenated (text : String) :
    (dedupeSelfConcatenated text).toList = text.toList.undouble := by
  rw [dedupeSelfConcatenated, List.undouble]
  split
  · rw [String.toList_ofList]
  · rfl

/-- The characters of joined texts. -/
theorem toList_join (texts : List String) :
    (String.join texts).toList = (texts.map String.toList).flatten := by
  rw [String.toList_join, List.flatMap_def]

/-- The deltas of an answer: neither they nor the whole are doubled, or all of them are and the
    whole is their halves twice over. -/
def KeepsCut (deltas : List String) : Prop :=
  (¬(String.join deltas).toList.Doubled ∧ ∀ delta ∈ deltas, ¬delta.toList.Doubled) ∨
    ∃ halves : List String, deltas = halves.map (fun half => half ++ half) ∧
      String.join deltas = String.join halves ++ String.join halves

private theorem doubles_iff (deltas : List String) :
    (∃ halves : List (List Char), deltas.map String.toList = halves.map (fun u => u ++ u) ∧
      (deltas.map String.toList).flatten = halves.flatten ++ halves.flatten) ↔
    ∃ halves : List String, deltas = halves.map (fun half => half ++ half) ∧
      String.join deltas = String.join halves ++ String.join halves := by
  constructor
  -- From characters to strings,
  · intro h
    obtain ⟨halves, hdoubles, htwice⟩ := h
    have hchars : (halves.map String.ofList).map String.toList = halves := by
      rw [List.map_map]
      conv_rhs => rw [← List.map_id halves]
      exact List.map_congr_left fun u _ => String.toList_ofList
    refine ⟨halves.map String.ofList, ?_, ?_⟩
    · apply List.map_injective_iff.mpr fun _ _ h => String.toList_inj.mp h
      rw [hdoubles, List.map_map, List.map_map]
      refine List.map_congr_left fun u _ => ?_
      simp only [Function.comp_apply, String.toList_append, String.toList_ofList]
    · apply String.toList_inj.mp
      rw [String.toList_append, toList_join, toList_join, hchars, htwice]
  -- and back.
  · intro h
    obtain ⟨halves, rfl, htwice⟩ := h
    refine ⟨halves.map String.toList, ?_, ?_⟩
    · rw [List.map_map, List.map_map]
      exact List.map_congr_left fun half _ => String.toList_append
    · rw [← toList_join, htwice, String.toList_append, toList_join]

/-- The whole is undoubled as its deltas are exactly where they are cut so. -/
theorem dedupe_join_iff {deltas : List String} (hne : ∀ delta ∈ deltas, delta ≠ "") :
    dedupeSelfConcatenated (String.join deltas) =
        String.join (deltas.map dedupeSelfConcatenated) ↔ KeepsCut deltas := by
  have hpieces : ∀ piece ∈ deltas.map String.toList, piece ≠ [] := by
    intro piece hpiece
    obtain ⟨delta, hdelta, rfl⟩ := List.mem_map.mp hpiece
    exact fun hnil => hne delta hdelta (String.toList_eq_nil_iff.mp hnil)
  have hmapped : (deltas.map dedupeSelfConcatenated).map String.toList =
      (deltas.map String.toList).map List.undouble := by
    rw [List.map_map, List.map_map]
    exact List.map_congr_left fun delta _ => toList_dedupeSelfConcatenated delta
  rw [← String.toList_inj, toList_dedupeSelfConcatenated, toList_join, toList_join, hmapped,
    List.undouble_flatten_iff hpieces, KeepsCut, ← doubles_iff, toList_join, List.forall_mem_map]

/-! ## What Agno streams -/

/-- The deltas among the events of a run: the contents of `RunResponseContent` that are not
    empty. -/
def deltasOf (events : List AgnoEvent) : List String :=
  events.filterMap fun event =>
    if event.event = "RunResponseContent" ∧ truthy event.content then event.content else none

/-- What Agno keeps to when it runs an agent. -/
structure StreamsAnswers (call : AgnoCall) : Prop where
  /-- The content of the response is what the deltas of the stream make up. -/
  content : ∀ agent args events, call.arunStream (.agent agent) args = (events, none) →
    ∃ text, call.arun (.agent agent) args = .ok ⟨some (String.join (deltasOf events)), text⟩
  /-- Where the stream ends with an exception, the run does. -/
  failure : ∀ agent args events exc, call.arunStream (.agent agent) args = (events, some exc) →
    ∃ exc', call.arun (.agent agent) args = .error exc'
  /-- The contents of teams are streamed by teams. -/
  noTeamContent : ∀ agent args, ∀ event ∈ (call.arunStream (.agent agent) args).1,
    event.event ≠ "TeamRunResponseContent"

/-- A delta is not empty. -/
theorem ne_empty_of_mem_deltasOf {events : List AgnoEvent} :
    ∀ delta ∈ deltasOf events, delta ≠ "" := by
  intro delta hdelta
  obtain ⟨event, -, hevent⟩ := List.mem_filterMap.mp hdelta
  split at hevent
  · next hcontent =>
    obtain ⟨-, htruthy⟩ := hcontent
    rw [hevent] at htruthy
    exact of_decide_eq_true htruthy
  · cases hevent

/-- The content that is collected from an event of an agent. -/
private theorem join_assistantContent_agentEvent {event : AgnoEvent}
    (h : event.event ≠ "TeamRunResponseContent") :
    String.join (assistantContent (mapEvent agnoEventMap agentEventPayload event)) =
      String.join ((deltasOf [event]).map dedupeSelfConcatenated) := by
  -- The event of an agent is the assistant's where it is `RunResponseContent`.
  have hassistant : (agentEventPayload event).isAssistantContent =
      some (event.event = "RunResponseContent" : Bool) := by
    show some (isAssistantContentEvent event.event) = _
    rw [isAssistantContentEvent, decide_eq_false h, Bool.or_false]
  have hcontent : (agentEventPayload event).content = event.text := by
    show ((if isAssistantContentEvent event.event then event.text else none).or event.text) = _
    split
    · exact Option.or_self
    · exact Option.none_or
  simp only [assistantContent, mapEvent, hassistant, hcontent, Option.getD_some, deltasOf,
    List.filterMap_cons, List.filterMap_nil]
  -- Only such an event with a content counts, on both sides.
  by_cases hname : event.event = "RunResponseContent"
  · simp only [hname, decide_true, if_true, true_and, AgnoEvent.text]
    cases hevent : event.content with
    | none => rfl
    | some content =>
      by_cases htruthy : truthy (some content)
      · simp only [htruthy, if_true]
        rfl
      · simp only [htruthy, Bool.false_eq_true, if_false]
        rfl
  · simp only [hname, decide_false, Bool.false_eq_true, if_false, false_and]
    rfl

/-- The content that is collected from the events of an agent: its deltas, undoubled one by
    one. -/
theorem answerOf_agentEvents {events : List AgnoEvent}
    (h : ∀ event ∈ events, event.event ≠ "TeamRunResponseContent") :
    answerOf (events.map (mapEvent agnoEventMap agentEventPayload)) =
      String.join ((deltasOf events).map dedupeSelfConcatenated) := by
  induction events with
  | nil => rfl
  | cons event events ih =>
    have hcontent : assistantContents
        ((event :: events).map (mapEvent agnoEventMap agentEventPayload)) =
          assistantContent (mapEvent agnoEventMap agentEventPayload event) ++
            assistantContents (events.map (mapEvent agnoEventMap agentEventPayload)) :=
      List.flatMap_cons
    have hdeltas : deltasOf (event :: events) = deltasOf [event] ++ deltasOf events :=
      List.filterMap_append (l := [event])
    rw [answerOf, hcontent, hdeltas, List.map_append, String.join_append, String.join_append,
      join_assistantContent_agentEvent (h event List.mem_cons_self)]
    congr 1
    exact ih fun event' hevent' => h event' (List.mem_cons_of_mem _ hevent')

/-- What follows a stream is no content. -/
theorem assistantContents_trailingEvents (call : AgnoCall) (dispatch : Dispatch) :
    assistantContents (AgnoRuntimeEngine.trailingEvents call dispatch) = [] := by
  have hnothing {p : Prop} [Decidable p] {event : StreamEvent}
      (hevent : event.payload.isAssistantContent = some false) :
      assistantContents (if p then [] else [event]) = [] := by
    have hnone : assistantContent event = [] := by
      rw [assistantContent, hevent]
      rfl
    split
    · rfl
    · rw [assistantContents, List.flatMap_singleton, hnone]
  rw [AgnoRuntimeEngine.trailingEvents]
  dsimp only
  rw [assistantContents, List.flatMap_append]
  refine List.append_eq_nil_iff.mpr ⟨?_, hnothing rfl⟩
  split
  · rfl
  · rfl
  · rfl

/-! ## One step -/

section Step

variable (env : Env) (m : Metadata) (context : WorkflowContext)

/-- The deltas Agno streams for a step, if its stream ends. -/
def deltasAnswered (n : Nat) (step : WorkflowStep) (stepInput : String) : Option (List String) :=
  match WorkflowRunner.resolveStep env.hierarchyScan m step with
  | .ok dispatch =>
    let args := WorkflowRunner.args stepInput context
    match (AgnoRuntimeEngine.buildRunnable (env.call n) m args dispatch []).1 with
    | .ok runnable =>
      match (env.call n).arunStream runnable args with
      | (events, none) => some (deltasOf events)
      | (_, some _) => none
    | .error _ => none
  | .error _ => none

end Step

section Agent

variable {env : Env} {m : Metadata} {context : WorkflowContext} {step : WorkflowStep}

/-- A stream that failed ends with an exception. -/
private theorem exists_error_failedStream (message : String) (events : List StreamEvent)
    (exc : PyError) :
    ∃ exc', (AgnoRuntimeEngine.failedStream message events exc).error = some exc' := by
  rw [AgnoRuntimeEngine.failedStream]
  split
  · exact ⟨_, rfl⟩
  · exact ⟨_, rfl⟩

/-- What is built for an agent is an agent. -/
private theorem buildRunnable_runtime {call : AgnoCall} {args : RunArgs}
    {ctx : ResolvedRuntimeContext} {runnable : AgnoRunnable} {s s' : List (Agent × MCPSession)}
    (h : AgnoRuntimeEngine.buildRunnable call m args (.runtime ctx) s = (.ok runnable, s')) :
    ∃ agent, runnable = .agent agent := by
  rw [AgnoRuntimeEngine.buildRunnable, map_apply, Prod.mk.injEq] at h
  cases hopen : (AgnoRuntimeEngine.openAgent call m ctx args s).1 with
  | error exc =>
    rw [hopen] at h
    cases h.1
  | ok agent =>
    rw [hopen] at h
    exact ⟨agent, (Except.ok.inj h.1).symm⟩

section Built

variable {call : AgnoCall} {args : RunArgs} {ctx : ResolvedRuntimeContext}
  {runnable : AgnoRunnable} {s : List (Agent × MCPSession)} {events : List AgnoEvent}
  (hbuild : AgnoRuntimeEngine.buildRunnable call m args (.runtime ctx) [] = (.ok runnable, s))

include hbuild

private theorem attempt_buildRunnable :
    (AgnoRuntimeEngine.buildRunnable call m args (.runtime ctx)).attempt [] =
      (.ok (.ok runnable), s) := by
  rw [attempt_apply, hbuild]

/-- A stream that ends. -/
private theorem streamOutcome_of_ended (hevents : call.arunStream runnable args = (events, none)) :
    streamOutcome (.runtime ctx) args call m =
      ⟨events.map (mapEvent agnoEventMap agentEventPayload) ++
        AgnoRuntimeEngine.trailingEvents call (.runtime ctx), none⟩ := by
  rw [streamOutcome, streamMethod, AgnoRuntimeEngine.runStream, AgnoRuntimeEngine.executeStream,
    bind_apply_ok (attempt_buildRunnable hbuild)]
  simp only [hevents]
  rfl

/-- A stream that fails. -/
private theorem streamOutcome_of_failed {exc : PyError}
    (hevents : call.arunStream runnable args = (events, some exc)) :
    streamOutcome (.runtime ctx) args call m =
      AgnoRuntimeEngine.failedStream "Agno agent streaming execution failed: "
        (events.map (mapEvent agnoEventMap agentEventPayload)) exc := by
  rw [streamOutcome, streamMethod, AgnoRuntimeEngine.runStream, AgnoRuntimeEngine.executeStream,
    bind_apply_ok (attempt_buildRunnable hbuild)]
  simp only [hevents]
  rfl

end Built

/-- A step of an agent is executed by the agent. -/
private theorem resolveStep_agent {scan : HierarchyScan} {dispatch : Dispatch}
    (hagent : step.stepType = .agent)
    (h : WorkflowRunner.resolveStep scan m step = .ok dispatch) : ∃ ctx, dispatch = .runtime ctx := by
  rw [WorkflowRunner.resolveStep, hagent] at h
  dsimp only at h
  split at h
  · cases h
  · next agentId _ =>
    cases hctx : AgnoRuntimeEngine.resolveContextById m agentId with
    | error exc =>
      rw [hctx] at h
      cases h
    | ok ctx =>
      rw [hctx] at h
      exact ⟨ctx, (Except.ok.inj h).symm⟩

variable (hcall : ∀ n, StreamsAnswers (env.call n)) (hagent : step.stepType = .agent)

include hcall hagent

/-- `run_step` undoubles the whole answer. -/
theorem toOption_ranAnswer (n : Nat) (stepInput : String) :
    (ranAnswer env m context n step stepInput).toOption =
      (deltasAnswered env m context n step stepInput).map fun deltas =>
        dedupeSelfConcatenated (String.join deltas) := by
  rw [ranAnswer, deltasAnswered]
  rcases hresolve : WorkflowRunner.resolveStep env.hierarchyScan m step with exc | dispatch
  -- The agent is not found, and there is no answer either way.
  · rfl
  · obtain ⟨ctx, rfl⟩ := resolveStep_agent hagent hresolve
    dsimp only
    rw [runOutcome, runMethod, AgnoRuntimeEngine.run, AgnoRuntimeEngine.execute]
    rcases hbuild : AgnoRuntimeEngine.buildRunnable (env.call n) m
      (WorkflowRunner.args stepInput context) (.runtime ctx) [] with ⟨exc | runnable, s⟩
    -- The agent cannot be built.
    · rw [bind_apply_congr (handleError_apply_error (bind_apply_error hbuild))]
      rfl
    · obtain ⟨agent, rfl⟩ := buildRunnable_runtime hbuild
      dsimp only
      rcases hstream : (env.call n).arunStream (.agent agent)
        (WorkflowRunner.args stepInput context) with ⟨events, failure⟩
      cases failure with
      -- The stream ends, and the content of the response is all of its deltas.
      | none =>
        obtain ⟨text, harun⟩ := (hcall n).content agent _ events hstream
        have hran : ((AgnoRuntimeEngine.buildRunnable (env.call n) m
            (WorkflowRunner.args stepInput context) (.runtime ctx) >>= fun runnable =>
              Prog.lift ((env.call n).arun runnable (WorkflowRunner.args stepInput context))) []) =
                (.ok ⟨some (String.join (deltasOf events)), text⟩, s) := by
          rw [bind_apply_ok hbuild, harun]
          rfl
        rw [bind_apply_ok (handleError_apply_ok hran)]
        rfl
      -- The stream breaks off, and so does the run.
      | some exc =>
        obtain ⟨exc', harun⟩ := (hcall n).failure agent _ events exc hstream
        have hran : ((AgnoRuntimeEngine.buildRunnable (env.call n) m
            (WorkflowRunner.args stepInput context) (.runtime ctx) >>= fun runnable =>
              Prog.lift ((env.call n).arun runnable (WorkflowRunner.args stepInput context))) []) =
                (.error exc', s) := by
          rw [bind_apply_ok hbuild, harun]
          rfl
        rw [bind_apply_congr (handleError_apply_error hran)]
        rfl

/-- `run_step_stream` undoubles each delta. -/
theorem toOption_streamedAnswer (n : Nat) (stepInput : String) :
    (streamedAnswer env m context n step stepInput).toOption =
      (deltasAnswered env m context n step stepInput).map fun deltas =>
        String.join (deltas.map dedupeSelfConcatenated) := by
  rw [streamedAnswer, deltasAnswered]
  rcases hresolve : WorkflowRunner.resolveStep env.hierarchyScan m step with exc | dispatch
  -- The agent is not found, and there is no answer either way.
  · rfl
  · obtain ⟨ctx, rfl⟩ := resolveStep_agent hagent hresolve
    dsimp only
    rcases hbuild : AgnoRuntimeEngine.buildRunnable (env.call n) m
      (WorkflowRunner.args stepInput context) (.runtime ctx) [] with ⟨exc | runnable, s⟩
    -- The agent cannot be built, and the error ends the stream.
    · have hstream : streamOutcome (.runtime ctx) (WorkflowRunner.args stepInput context)
          (env.call n) m = AgnoRuntimeEngine.failedStream
            "Agno agent streaming execution failed: " [] exc := by
        rw [streamOutcome, streamMethod, AgnoRuntimeEngine.runStream,
          AgnoRuntimeEngine.executeStream, bind_apply_ok (attempt_apply _ _), hbuild]
        rfl
      obtain ⟨exc', herror⟩ := exists_error_failedStream
        "Agno agent streaming execution failed: " [] exc
      simp only [hstream, herror]
      rfl
    · obtain ⟨agent, rfl⟩ := buildRunnable_runtime hbuild
      dsimp only
      rcases hevents : (env.call n).arunStream (.agent agent)
        (WorkflowRunner.args stepInput context) with ⟨events, failure⟩
      cases failure with
      -- The events of the agent are followed by others, which say nothing.
      | none =>
        have hteam := (hcall n).noTeamContent agent (WorkflowRunner.args stepInput context)
        rw [hevents] at hteam
        have hanswer : answerOf (events.map (mapEvent agnoEventMap agentEventPayload) ++
            AgnoRuntimeEngine.trailingEvents (env.call n) (.runtime ctx)) =
              String.join ((deltasOf events).map dedupeSelfConcatenated) := by
          rw [← answerOf_agentEvents hteam, answerOf, answerOf, assistantContents,
            List.flatMap_append]
          show String.join (_ ++ assistantContents _) = _
          rw [assistantContents_trailingEvents, List.append_nil]
          rfl
        simp only [streamOutcome_of_ended hbuild hevents, hanswer]
        rfl
      -- The stream breaks off, and there is no answer.
      | some exc =>
        obtain ⟨exc', herror⟩ := exists_error_failedStream
          "Agno agent streaming execution failed: "
          (events.map (mapEvent agnoEventMap agentEventPayload)) exc
        simp only [streamOutcome_of_failed hbuild hevents, herror]
        rfl

end Agent

/-! ## Whole runs -/

/-- The outputs of a run, by the orders of its steps, and its result. -/
def outputsOf (runId : Uuid) (db : Db) : List (Int × Option String) × Option String :=
  ((stepsOf runId db).map fun record => (record.stepOrder, record.output),
    (db.workflowRuns.find? runId).bind (·.result))

/-- The two runs of a request from `w` have the same outputs. -/
def SameOutputs (env : Env) (workflowId : Uuid) (request : WorkflowRunRequest) (w : World)
    (runId : Uuid) : Prop :=
  outputsOf runId (runWorkflow env workflowId request w).2.working =
    outputsOf runId (runWorkflowStream env workflowId request w).2.working

/-- At each step that is got to, the deltas Agno streams for the input of the step are cut so that
    it makes no difference where they are undoubled. -/
def CutCleanly (env : Env) (m : Metadata) (opened : OpenRun) (input : String) :
    List WorkflowStep → WorkflowContext → Nat → Prop
  | [], _, _ => True
  | step :: steps, context, n =>
    match deltasAnswered env m opened.context n step
      (context.previousOutput step.stepOrder input) with
    | some deltas =>
      KeepsCut deltas ∧
        CutCleanly env m opened input steps
          (context.recordResult step.stepOrder (dedupeSelfConcatenated (String.join deltas)))
          (n + 1)
    | none => True

/-- The order of a step that was executed, and its output. -/
private def executedOutput (e : StepExecution) : Int × Option String :=
  (e.step.stepOrder, e.outcome.toOption)

/-- Executions with the same outputs have the same result. -/
private theorem toOption_resultOf_congr {es es' : List StepExecution} (current : String)
    (h : es.map executedOutput = es'.map executedOutput) :
    (resultOf current es).toOption = (resultOf current es').toOption := by
  induction es generalizing es' current with
  | nil =>
    rw [List.map_nil, eq_comm, List.map_eq_nil_iff] at h
    rw [h]
  | cons e es ih =>
    cases es' with
    -- There are as many executions on both sides.
    | nil => cases h
    | cons e' es' =>
      rw [List.map_cons, List.map_cons, List.cons.injEq] at h
      obtain ⟨hfirst, hrest⟩ := h
      have houtput : e.outcome.toOption = e'.outcome.toOption := congrArg Prod.snd hfirst
      rw [resultOf, resultOf, StepExecution.result, StepExecution.result]
      -- They fail at the same step, or the next ones follow the same output.
      rcases houtcome : e.outcome with exc | output
      · rcases houtcome' : e'.outcome with exc' | output'
        · rfl
        · rw [houtcome, houtcome'] at houtput
          cases houtput
      · rcases houtcome' : e'.outcome with exc' | output'
        · rw [houtcome, houtcome'] at houtput
          cases houtput
        · rw [houtcome, houtcome'] at houtput
          obtain rfl : output = output' := Option.some.inj houtput
          exact ih output hrest

section Executions

variable {env : Env} {m : Metadata} {opened : OpenRun} {input : String}
  (hcall : ∀ n, StreamsAnswers (env.call n))

include hcall

/-- The outputs are the same exactly where every answer is cut cleanly: up to the first that is
    not, both runs give every step the same input. -/
theorem outputs_eq_iff {steps : List WorkflowStep} (hagents : ∀ step ∈ steps, step.stepType = .agent)
    (context : WorkflowContext) (n : Nat) :
    (executionsFrom (ranAnswer env m opened.context) input steps context n).map executedOutput =
        (executionsFrom (streamedAnswer env m opened.context) input steps context n).map
          executedOutput ↔
      CutCleanly env m opened input steps context n := by
  induction steps generalizing context n with
  | nil => exact iff_of_true rfl trivial
  | cons step steps ih =>
    have hagent := hagents step List.mem_cons_self
    have hran : (executionOf (ranAnswer env m opened.context) step
        (context.previousOutput step.stepOrder input) n).outcome.toOption = _ :=
      toOption_ranAnswer hcall hagent n (context.previousOutput step.stepOrder input)
    have hstreamed : (executionOf (streamedAnswer env m opened.context) step
        (context.previousOutput step.stepOrder input) n).outcome.toOption = _ :=
      toOption_streamedAnswer hcall hagent n (context.previousOutput step.stepOrder input)
    rw [executionsFrom, executionsFrom, CutCleanly]
    -- The two executions of the step, of which only the outcomes matter.
    generalize hexecuted : executionOf (ranAnswer env m opened.context) step
      (context.previousOutput step.stepOrder input) n = e at hran
    generalize hexecuted' : executionOf (streamedAnswer env m opened.context) step
      (context.previousOutput step.stepOrder input) n = e' at hstreamed
    have hstep : e.step.stepOrder = e'.step.stepOrder := by
      rw [← hexecuted, ← hexecuted']
      rfl
    cases hdeltas : deltasAnswered env m opened.context n step
        (context.previousOutput step.stepOrder input) with
    -- the call of the engine fails in both, and the runs end here
    | none =>
      rw [hdeltas, Option.map_none] at hran hstreamed
      rcases houtcome : e.outcome with exc | output
      · rcases houtcome' : e'.outcome with exc' | output'
        · simp only [List.map_cons, List.map_nil, executedOutput, hstep, houtcome, houtcome']
          exact iff_of_true rfl trivial
        · rw [houtcome'] at hstreamed
          cases hstreamed
      · rw [houtcome] at hran
        cases hran
    -- both succeed: one dedupes the joined text, the other joins the deduped deltas
    | some deltas =>
      have hne : ∀ delta ∈ deltas, delta ≠ "" := by
        rw [deltasAnswered] at hdeltas
        split at hdeltas
        · dsimp only at hdeltas
          split at hdeltas
          · split at hdeltas
            · rw [← Option.some.inj hdeltas]
              exact ne_empty_of_mem_deltasOf
            · cases hdeltas
          · cases hdeltas
        · cases hdeltas
      rw [hdeltas, Option.map_some] at hran hstreamed
      rcases houtcome : e.outcome with exc | output
      · rw [houtcome] at hran
        cases hran
      · rcases houtcome' : e'.outcome with exc' | output'
        · rw [houtcome'] at hstreamed
          cases hstreamed
        · rw [houtcome] at hran
          rw [houtcome'] at hstreamed
          obtain rfl : output = dedupeSelfConcatenated (String.join deltas) := Option.some.inj hran
          obtain rfl : output' = String.join (deltas.map dedupeSelfConcatenated) :=
            Option.some.inj hstreamed
          -- with the same output the next steps have the same input
          have hrest := ih fun step' hstep' => hagents step' (List.mem_cons_of_mem _ hstep')
          simp only [List.map_cons, List.cons.injEq, executedOutput, hstep, houtcome, houtcome']
          constructor
          · intro h
            obtain ⟨hfirst, hlater⟩ := h
            have hcut : dedupeSelfConcatenated (String.join deltas) =
                String.join (deltas.map dedupeSelfConcatenated) :=
              Option.some.inj (Prod.mk.inj hfirst).2
            rw [← hcut] at hlater
            exact ⟨(dedupe_join_iff hne).mp hcut, (hrest _ _).mp hlater⟩
          · intro h
            obtain ⟨hkeeps, hlater⟩ := h
            have hcut := (dedupe_join_iff hne).mpr hkeeps
            rw [← hcut]
            exact ⟨rfl, (hrest _ _).mpr hlater⟩

end Executions

/-- What a run that has ended shows of its outputs. -/
private theorem outputsOf_ended {opened : OpenRun} {workflowId : Uuid}
    {request : WorkflowRunRequest} {w w' : World} {outcome : Except PyError String}
    {es : List StepExecution} {records : List WorkflowRunStep} {calls : Nat}
    (hrecords : List.Forall₂
      (fun e record => ∃ id, record = e.record opened.context.workflowRunId id) es records)
    (hw' : InRun ((startedView opened workflowId request w).ended outcome records calls) w') :
    outputsOf opened.context.workflowRunId w'.working =
      (es.map executedOutput, outcome.toOption) := by
  -- The row of the run has the result, whatever the reason it has failed for.
  have hrow : (endedRow { openedRun opened workflowId request with status := .running } outcome).id =
      opened.context.workflowRunId ∧
      (endedRow { openedRun opened workflowId request with status := .running } outcome).result =
        outcome.toOption := by
    cases outcome with
    | ok output => exact ⟨rfl, rfl⟩
    | error exc =>
      rw [endedRow]
      split
      · exact ⟨rfl, rfl⟩
      · exact ⟨rfl, rfl⟩
  -- The rows of the steps have their outputs.
  have hmapped : records.map (fun record => (record.stepOrder, record.output)) =
      es.map executedOutput := by
    clear hw'
    induction hrecords with
    | nil => rfl
    | cons hfirst _ ih =>
      obtain ⟨id, rfl⟩ := hfirst
      rw [List.map_cons, List.map_cons, ih]
      rfl
  have hsteps : stepsOf opened.context.workflowRunId w'.working = records := by
    rw [← hrow.1]
    exact hw'.steps.trans (List.nil_append _)
  have hfound : w'.working.workflowRuns.find? opened.context.workflowRunId = some
      -- There is one run, and its row is found.
      (endedRow { openedRun opened workflowId request with status := .running } outcome) := by
    rw [← hrow.1]
    exact hw'.run
  rw [outputsOf, hsteps, hmapped, hfound]
  exact congrArg (Prod.mk _) hrow.2

/-- For every workflow of agents and every request that opens a run of it, where Agno streams what
    it answers: the two ways to run the workflow give the same outputs and the same result exactly
    where every answer is cut cleanly. -/
theorem sameOutputs_iff {env : Env} (henv : env.Healthy)
    (hcall : ∀ n, StreamsAnswers (env.call n)) {workflowId : Uuid} {request : WorkflowRunRequest}
    {w₀ w : World} {opened : OpenRun} (hforeign : w₀.working.StepsHaveRuns)
    (hagents : ∀ step ∈ w₀.working.workflowSteps.rows, step.workflowId = workflowId →
      step.stepType = .agent)
    (hopen : openRun env workflowId request w₀ = (.ok opened, w)) :
    SameOutputs env workflowId request w₀ opened.context.workflowRunId ↔
      CutCleanly env w₀.working.metadata opened request.input
        (WorkflowExecutor.ordered opened.steps) opened.context w₀.engineCalls.length := by
  obtain ⟨-, -, hsteps⟩ := openRun_inRun hforeign hopen
  have hordered : ∀ step ∈ WorkflowExecutor.ordered opened.steps, step.stepType = .agent := by
    intro step hstep
    have hlisted := (List.perm_insertionSort _ opened.steps).mem_iff.mp hstep
    rw [hsteps] at hlisted
    obtain ⟨hmem, hworkflow⟩ :=
      List.mem_filter.mp ((List.perm_insertionSort _ _).mem_iff.mp hlisted)
    exact hagents step hmem (of_decide_eq_true hworkflow)
  obtain ⟨w₁, records, calls, hrun, hrecords, hended⟩ :=
    runWorkflow_executes hforeign hopen henv.accepts rfl
  obtain ⟨run, records', calls', hrun', -, hrecords', hended'⟩ :=
    runWorkflowStream_executes hforeign hopen henv rfl
  rw [SameOutputs, hrun, hrun', outputsOf_ended hrecords hended,
    outputsOf_ended hrecords' hended', ← outputs_eq_iff hcall hordered, Prod.mk.injEq]
  constructor
  · exact fun h => h.1
  · exact fun h => ⟨h, toOption_resultOf_congr _ h⟩

section Examples

open Deployment

/-- The word "Book", in three pieces. -/
def Deployment.pieces : List AgnoEvent :=
  [⟨"RunResponseContent", some "B", [], none⟩, ⟨"RunResponseContent", some "oo", [], none⟩,
    ⟨"RunResponseContent", some "k", [], none⟩]

/-- An Agno that answers so. -/
def Deployment.spelling : AgnoCall := agno (.ok ⟨some "Book", "Book"⟩) pieces none

private theorem streamsAnswers_spelling : StreamsAnswers spelling where
  content := by
    intro agent args events hevents
    have hwhole : String.join (deltasOf pieces) = "Book" := by decide +kernel
    rw [← (Prod.mk.inj hevents).1, hwhole]
    exact ⟨"Book", rfl⟩
  failure := by
    intro agent args events exc hevents
    cases (Prod.mk.inj hevents).2
  noTeamContent := by
    have hnames : ∀ event ∈ pieces, event.event ≠ "TeamRunResponseContent" := by decide +kernel
    exact fun _ _ => hnames

private theorem outputs_spelling :
    ¬SameOutputs (Deployment.env .trustClientUserId none spelling) 1 ⟨"Hello", none, none⟩
      (World.start store) 1 := by
  intro hsame
  have hplain : outputsOf 1 (runWorkflow (Deployment.env .trustClientUserId none spelling) 1
      ⟨"Hello", none, none⟩ (World.start store)).2.working =
        ([(0, some "Book")], some "Book") := by
    decide +kernel
  have hstreamed : outputsOf 1 (runWorkflowStream (Deployment.env .trustClientUserId none spelling)
      1 ⟨"Hello", none, none⟩ (World.start store)).2.working =
        ([(0, some "Bok")], some "Bok") := by
    decide +kernel
  rw [SameOutputs, hplain, hstreamed] at hsame
  exact absurd hsame (by decide)

/-- The theorem at the run of the workflow with that answer, which is not cut cleanly. -/
theorem sameOutputs_iff_example : ∃ opened w,
    openRun (Deployment.env .trustClientUserId none spelling) 1 ⟨"Hello", none, none⟩
        (World.start store) = (.ok opened, w) ∧
      (SameOutputs (Deployment.env .trustClientUserId none spelling) 1 ⟨"Hello", none, none⟩
          (World.start store) opened.context.workflowRunId ↔
        CutCleanly (Deployment.env .trustClientUserId none spelling) store.db.metadata opened
          "Hello" (WorkflowExecutor.ordered opened.steps) opened.context 0) ∧
      ¬CutCleanly (Deployment.env .trustClientUserId none spelling) store.db.metadata opened
        "Hello" (WorkflowExecutor.ordered opened.steps) opened.context 0 := by
  have hopens : (openRun (Deployment.env .trustClientUserId none spelling) 1
      ⟨"Hello", none, none⟩ (World.start store)).1.toOption.map (·.context.workflowRunId) =
        some 1 := by
    decide +kernel
  rcases hopen : openRun (Deployment.env .trustClientUserId none spelling) 1
    -- The run is opened, and it is number 1.
    ⟨"Hello", none, none⟩ (World.start store) with ⟨exc | opened, w⟩
  · rw [hopen] at hopens
    cases hopens
  · rw [hopen] at hopens
    have hid : opened.context.workflowRunId = 1 := Option.some.inj hopens
    have hhealthy : (Deployment.env .trustClientUserId none spelling).Healthy :=
      ⟨fun _ _ _ => rfl, fun _ => rfl, fun _ => rfl⟩
    have hsame := sameOutputs_iff hhealthy (fun _ => streamsAnswers_spelling)
      (fun _ h => by cases h) (by decide) hopen
    refine ⟨opened, w, rfl, hsame, fun hclean => ?_⟩
    have houtputs := hsame.mpr hclean
    -- The outputs differ, so the answer is not cut cleanly.
    rw [hid] at houtputs
    exact outputs_spelling houtputs

/-- The plain run answers "Book", the streamed one "Bok". -/
theorem outputs_differ_where_a_delta_is_doubled :
    (∀ n, StreamsAnswers ((Deployment.env .trustClientUserId none spelling).call n)) ∧
      ¬SameOutputs (Deployment.env .trustClientUserId none spelling) 1 ⟨"Hello", none, none⟩
        (World.start store) 1 :=
  ⟨fun _ => streamsAnswers_spelling, outputs_spelling⟩

end Examples

end AgnoRuntime
