import AgnoRuntime.Model.WorkflowTrigger
import AgnoRuntime.Spec.RequestSteps
import AgnoRuntime.Spec.ResolvedCalls

/-!
# Workflows that run within a call of the engine

An agent's tool `trigger_workflow` runs a workflow in the session of the request, for
the chat session and the user of the call in which the agent uses it. What the run
writes, decides and calls is no more than `ToolWrites` allows, so whatever holds in
every `Env` holds of requests whose agents trigger workflows, with agents that trigger
workflows in turn.

## Key results

- `KeptByRuns.of_reaches`: what a workflow run leaves alone
- `ToolWrites.trigger`: the tool, as the guard of nested triggers lets it run
- `Env.triggering_fuel`: the guard bounds the depth, so the depth that is modelled does
  not matter
-/

namespace AgnoRuntime

open Except Svc Prog

/-! ## What a run leaves alone -/

namespace KeptByRuns

variable {base db db' : Db}

theorem trans (h : KeptByRuns base db) (h' : KeptByRuns db db') : KeptByRuns base db' := by
  -- The logs grow twice; the other tables stay twice.
  obtain ⟨messages, hmessages, hnone⟩ := h.chatMessages
  obtain ⟨messages', hmessages', hnone'⟩ := h'.chatMessages
  obtain ⟨steps, hsteps, hothers⟩ := h.workflowRunSteps
  obtain ⟨steps', hsteps', hothers'⟩ := h'.workflowRunSteps
  obtain ⟨events, hevents, hlog⟩ := h.workflowEvents
  obtain ⟨events', hevents', hlog'⟩ := h'.workflowEvents
  exact {
    metadata := h'.metadata.trans h.metadata
    agentRuns := h'.agentRuns.trans h.agentRuns
    agentEvents := h'.agentEvents.trans h.agentEvents
    workflows := h'.workflows.trans h.workflows
    workflowSteps := h'.workflowSteps.trans h.workflowSteps
    executionPlanRuns := h'.executionPlanRuns.trans h.executionPlanRuns
    executionPlanStepRuns := h'.executionPlanStepRuns.trans h.executionPlanStepRuns
    quotaPolicies := h'.quotaPolicies.trans h.quotaPolicies
    quotaUsageEvents := h'.quotaUsageEvents.trans h.quotaUsageEvents
    chatSessions := fun s hs => h'.chatSessions s (h.chatSessions s hs)
    workflowRuns := fun r hr => h'.workflowRuns r (h.workflowRuns r hr)
    chatMessages := ⟨messages ++ messages', by rw [hmessages', hmessages, List.append_assoc],
      fun m hm => (List.mem_append.mp hm).elim (hnone m) (hnone' m)⟩
    workflowRunSteps := ⟨steps ++ steps', by rw [hsteps', hsteps, List.append_assoc],
      fun s hs r hr => (List.mem_append.mp hs).elim (hothers s · r hr)
        (hothers' s · r (h.workflowRuns r hr))⟩
    workflowEvents := ⟨events ++ events', by rw [hevents', hevents, List.append_assoc],
      fun e he r hr => (List.mem_append.mp he).elim (hlog e · r hr)
        (hlog' e · r (h.workflowRuns r hr))⟩ }

/-- One step of a workflow's request. -/
theorem step (h : KeptByRuns base db) (hstep : RequestStep base .workflow db db') :
    KeptByRuns base db' := by
  cases hstep with
  | tools kind args writes db => exact h.trans (writes.kept db).toKeptByRuns
  | session kind db row table hinsert =>
    exact { h with
      chatSessions := fun s hs => by
        show s ∈ table.rows
        rw [(KeyedTable.rows_of_insert? hinsert).2]
        exact List.mem_append_left _ (h.chatSessions s hs) }
  | message kind db m hrun =>
    obtain ⟨new, hnew, hnone⟩ := h.chatMessages
    have hnoRun : m.runId = none := Option.eq_none_iff_forall_ne_some.mpr fun id hid =>
      nomatch (hrun id hid).1
    refine { h with chatMessages := ⟨new ++ [m], ?_, fun m' hm' => ?_⟩ }
    · rw [Db.withMessage, hnew, List.append_assoc]
    · exact (List.mem_append.mp hm').elim (hnone m') fun hlast =>
        List.mem_singleton.mp hlast ▸ hnoRun
  | newWorkflowRun db workflowId sessionId inputText createdBy =>
    exact { h with
      workflowRuns := fun r hr => KeyedTable.mem_insertFresh_of_mem (h.workflowRuns r hr) _ _ }
  | workflowEvent db e hrun =>
    obtain ⟨new, hnew, hothers⟩ := h.workflowEvents
    refine { h with workflowEvents := ⟨new ++ [e], ?_, fun e' he' r hr => ?_⟩ }
    · rw [Db.withWorkflowEvent, hnew, List.append_assoc]
    · rcases List.mem_append.mp he' with hold | hlast
      · exact hothers e' hold r hr
      · rw [List.mem_singleton.mp hlast]
        exact fun heq => hrun r hr heq.symm
  | workflowRun db id status f hf hrun =>
    exact { h with
      workflowRuns := KeyedTable.mem_update_of_lacks hrun (fun r => { f r with status := status })
        hf h.workflowRuns }
  | newStep db runId step stepInput hrun =>
    obtain ⟨new, hnew, hothers⟩ := h.workflowRunSteps
    have hrows := (KeyedTable.rows_insertFresh _ _ _ :
      (db.withNewStep runId step stepInput).workflowRunSteps.rows = _)
    rw [hnew, List.append_assoc] at hrows
    refine { h with workflowRunSteps := ⟨_, hrows, fun s hs r hr => ?_⟩ }
    · rcases List.mem_append.mp hs with hold | hlast
      · exact hothers s hold r hr
      · rw [List.mem_singleton.mp hlast]
        exact fun heq => hrun r hr heq.symm
  | step db id status f hf hrun hlacks =>
    obtain ⟨new, hnew, hothers⟩ := h.workflowRunSteps
    refine { h with workflowRunSteps :=
      ⟨new.map fun s => if s.id = id then { f s with status := status } else s, ?_, ?_⟩ }
    · show db.workflowRunSteps.rows.map _ = _
      rw [hnew, List.map_append]
      congr 1
      -- none of the steps that were there is the one that is changed
      exact (List.map_congr_left fun s hs => if_neg (hlacks s hs)).trans (List.map_id' _)
    · intro s hs r hr
      obtain ⟨s', hs', rfl⟩ := List.mem_map.mp hs
      split
      · exact (hrun s').symm ▸ hothers s' hs' r hr
      · exact hothers s' hs' r hr

/-- However many steps are taken. -/
theorem of_reaches (h : RequestReaches base .workflow db) : KeptByRuns base db := by
  induction h with
  | refl => exact .refl base
  | tail _ hstep ih => exact ih.step hstep

end KeptByRuns

/-! ## A triggered run -/

/-- A run of the workflow that is triggered in a call with these arguments. -/
def runTriggered (env : Env) (workflowId : Uuid) (input : String) (args : RunArgs) (db : Db) :
    World :=
  (WorkflowExecutionService.runWorkflow env workflowId
    ⟨input, some args.sessionId, args.userId⟩ (World.start ⟨db, .empty⟩)).2

section Triggered

variable (env : Env) (workflowId : Uuid) (input : String) (args : RunArgs) (db : Db)

theorem reaches_runTriggered :
    RequestReaches db .workflow (runTriggered env workflowId input args db).working := by
  have hrunning : Keeps (Keeping (RequestReaches db .workflow))
      (WorkflowExecutionService.runWorkflow env workflowId
        ⟨input, some args.sessionId, args.userId⟩) := running_runWorkflow _ _
  exact (hrunning (World.start ⟨db, .empty⟩) ⟨.refl, .refl⟩).working

theorem resolved_runTriggered :
    ∀ call ∈ (runTriggered env workflowId input args db).allCalls, ResolvedBy db.metadata call := by
  have hcalls : Keeps (CallsResolved db.metadata)
      (WorkflowExecutionService.runWorkflow env workflowId
        ⟨input, some args.sessionId, args.userId⟩) := callsResolved_runWorkflow _ _
  have hresolved := (hcalls (World.start ⟨db, .empty⟩) ⟨rfl, rfl⟩).2
  exact fun call hcall => (hresolved call hcall).elim (fun hold => by cases hold) id

/-- The session of the call is looked for as in every request, and the run is for it. -/
theorem deciding_runTriggered :
    Deciding db (SessionDecision.On args.sessionId args.userId) (World.start ⟨db, .empty⟩)
      (runTriggered env workflowId input args db) := by
  refine entryFrame_deciding.runWorkflow_rel (fun found _ => ?_) fun w w₁ opened _ hopen => ?_
  · exact {
      continued := fun s _ hnamed _ _ => .inl (congrArg _ (Option.some.inj hnamed).symm)
      refused := fun id hnamed => .inr (.inl (congrArg _ (Option.some.inj hnamed).symm))
      created := fun id hid => .inr (.inr (by rw [hid _ rfl])) }
  · obtain ⟨-, huser, hid, -⟩ := openRun_owner hopen
    intro dispatch stepInput d hd
    rw [huser, hid _ rfl] at hd
    exact hd

end Triggered

/-- A decision that creates a session is about that session and its owner. -/
theorem SessionDecision.on_created {id id' : Uuid} {userId userId' : Option String}
    (h : (SessionDecision.created id' userId').On id userId) : id' = id ∧ userId' = userId := by
  rcases h with h | h | h
  · cases h
  · cases h
  · cases h
    exact ⟨rfl, rfl⟩

namespace ToolWrites

variable {args : RunArgs}

/-- A workflow is run. What a run has written whose statement is refused is rolled back with the
    session; what it decided and called is not undone. -/
def ofRun (env : Env) (workflowId : Uuid) (input : String) : ToolWrites args where
  apply db :=
    if (runTriggered env workflowId input args db).failed then db
    else (runTriggered env workflowId input args db).working
  decisions db := (runTriggered env workflowId input args db).allDecisions
  calls db := (runTriggered env workflowId input args db).allCalls
  kept db := by
    split
    · exact { KeptByRuns.refl db with newSessions := fun _ h => .inl h }
    · have hdeciding := deciding_runTriggered env workflowId input args db
      refine { KeptByRuns.of_reaches (reaches_runTriggered env workflowId input args db) with
        newSessions := fun s hs => ?_ }
      exact ((hdeciding.sessions ⟨fun _ hr => .inl hr, fun _ hr => .inl hr⟩).2 s hs).imp_right
        SessionDecision.on_created
  decided db d hd :=
    ((deciding_runTriggered env workflowId input args db).decisions d hd).elim
      (fun hold => by cases hold) id
  nested db call hcall := by
    rcases (deciding_runTriggered env workflowId input args db).calls call hcall with hold | hown
    · cases hold
    · have hsame := SessionDecision.on_created (hown (.created _ _) (.inr (.inr rfl)))
      exact ⟨hsame.1, hsame.2, resolved_runTriggered env workflowId input args db call hcall⟩

/-- Tools that are used one after the other. -/
def andThen (first second : ToolWrites args) : ToolWrites args where
  apply db := second.apply (first.apply db)
  decisions db := first.decisions db ++ second.decisions (first.apply db)
  calls db := first.calls db ++ second.calls (first.apply db)
  kept db := {
    (first.kept db).toKeptByRuns.trans (second.kept (first.apply db)).toKeptByRuns with
    newSessions := fun s hs =>
      ((second.kept (first.apply db)).newSessions s hs).elim ((first.kept db).newSessions s) .inr }
  decided db d hd := (List.mem_append.mp hd).elim (first.decided db d) (second.decided _ d)
  nested db call hcall := by
    rcases List.mem_append.mp hcall with hfirst | hsecond
    · exact first.nested db call hfirst
    · have hnested := second.nested _ call hsecond
      rw [(first.kept db).metadata] at hnested
      exact hnested

/-- However many. -/
def all (writes : List (ToolWrites args)) : ToolWrites args := writes.foldr andThen .none

@[simp] theorem none_andThen (writes : ToolWrites args) : none.andThen writes = writes := rfl

end ToolWrites

/-! ## The tool -/

/-- What an agent calls `trigger_workflow` with. -/
structure TriggerUse where
  tool : TriggerTool
  input : String

/-- `trigger_workflow`: what the guard refuses is answered with a text; else the workflow is run, and
    its agents use their tools under the values that the guard has set. -/
def ToolWrites.trigger {args : RunArgs} (inside : TriggerContext → Env) (ctx : TriggerContext)
    (use : TriggerUse) : ToolWrites args :=
  match enterWorkflowTrigger ctx use.tool.workflowCode use.tool.maxDepth with
  | .error _ => .none
  | .ok ctx' => .ofRun (inside ctx') use.tool.workflowId use.input

namespace Env

/-- The surroundings in which agents use their tools: `outside` and `uses` say what they meet and
    which tools they use, at each depth. The agents of a workflow that was triggered `fuel` levels
    deep use none. -/
def triggering (outside : TriggerContext → Env)
    (uses : TriggerContext → Nat → RunArgs → Nat → List TriggerUse) : Nat → TriggerContext → Env
  | 0, ctx => { outside ctx with tools := fun _ _ _ => .none }
  | fuel + 1, ctx =>
    let inside := triggering outside uses fuel
    { outside ctx with
      tools := fun n args i => .all ((uses ctx n args i).map fun use => .trigger inside ctx use) }

variable (outside : TriggerContext → Env)
  (uses : TriggerContext → Nat → RunArgs → Nat → List TriggerUse)

variable {outside uses}

/-- What a trigger does depends on the surroundings one level deeper only. -/
theorem trigger_congr {args : RunArgs} {inside inside' : TriggerContext → Env}
    {ctx : TriggerContext} (h : ctx.depth < maxGlobalDepth →
      ∀ ctx', ctx'.depth = ctx.depth + 1 → inside ctx' = inside' ctx') (use : TriggerUse) :
    (ToolWrites.trigger inside ctx use : ToolWrites args) = .trigger inside' ctx use := by
  rw [ToolWrites.trigger, ToolWrites.trigger]
  cases henter : enterWorkflowTrigger ctx use.tool.workflowCode use.tool.maxDepth with
  | error exc => rfl
  | ok ctx' =>
    obtain ⟨hdepth, -, rfl⟩ := enterWorkflowTrigger_eq_ok.mp henter
    have hsame := h (lt_min_iff.mp hdepth).2
      ⟨ctx.depth + 1, insert use.tool.workflowCode ctx.visited⟩ rfl
    simp only [hsame]

/-- At its limit the guard refuses every trigger. -/
theorem trigger_deep {args : RunArgs} {inside : TriggerContext → Env} {ctx : TriggerContext}
    (h : maxGlobalDepth ≤ ctx.depth) (use : TriggerUse) :
    (ToolWrites.trigger inside ctx use : ToolWrites args) = .none := by
  rw [ToolWrites.trigger]
  cases henter : enterWorkflowTrigger ctx use.tool.workflowCode use.tool.maxDepth with
  | error exc => rfl
  | ok ctx' =>
    have hdepth := (lt_min_iff.mp (enterWorkflowTrigger_eq_ok.mp henter).1).2
    omega

/-- There no tools are used. -/
theorem triggering_deep {ctx : TriggerContext} (h : maxGlobalDepth ≤ ctx.depth) (fuel : Nat) :
    triggering outside uses fuel ctx = { outside ctx with tools := fun _ _ _ => .none } := by
  cases fuel with
  | zero => rfl
  | succ fuel =>
    have hnone {args : RunArgs} (list : List TriggerUse) :
        (ToolWrites.all (list.map fun use =>
          .trigger (triggering outside uses fuel) ctx use) : ToolWrites args) = .none := by
      induction list with
      | nil => rfl
      | cons use list ih =>
        rw [List.map_cons, trigger_deep h]
        exact ih
    simp only [triggering, hnone]

/-- The guard bounds the depth: however many levels more are modelled than it allows, the
    surroundings are the same. -/
theorem triggering_fuel {fuel fuel' : Nat} {ctx : TriggerContext}
    (h : maxGlobalDepth ≤ ctx.depth + fuel) (h' : maxGlobalDepth ≤ ctx.depth + fuel') :
    triggering outside uses fuel ctx = triggering outside uses fuel' ctx := by
  induction fuel generalizing fuel' ctx with
  | zero =>
    have hdeep : maxGlobalDepth ≤ ctx.depth := by omega
    rw [triggering_deep hdeep, triggering_deep hdeep]
  | succ fuel ih =>
    cases fuel' with
    | zero =>
      have hdeep : maxGlobalDepth ≤ ctx.depth := by omega
      rw [triggering_deep hdeep, triggering_deep hdeep]
    | succ fuel' =>
      -- each trigger leads one level deeper, where one level less is needed
      have htrigger {args : RunArgs} (use : TriggerUse) :
          (ToolWrites.trigger (triggering outside uses fuel) ctx use : ToolWrites args) =
            .trigger (triggering outside uses fuel') ctx use :=
        trigger_congr (fun _ ctx' hctx' => ih (by push_cast at h; omega)
          (by push_cast at h'; omega)) use
      simp only [triggering, htrigger]

end Env

end AgnoRuntime
