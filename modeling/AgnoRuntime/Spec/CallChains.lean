import AgnoRuntime.Spec.SkillConfigs
import AgnoRuntime.Spec.WorkflowTables
import AgnoRuntime.Model.WorkflowTrigger
import AgnoRuntime.Model.Requests
import AgnoRuntime.ForStd.Runs

/-!
# Workflows run once in a call chain

The guard knows the workflows that triggers have started: each frame above the entry
has put the code of its workflow into the variables of every frame above it. It does not
know the workflow that a route, a webhook or the scheduler runs itself.

In a call chain no workflow executes twice at the same time, and every trigger of a
workflow that is executing is refused, exactly when no trigger names the workflow of the
entry at a depth that is allowed and before another trigger has.
-/

namespace AgnoRuntime

open Except KeyedTable

variable {lib : Pydantic} {entry : Entry} {db : Db} {c c' : CallChain}

/-- A trigger of the entry's workflow that the guard takes for a first one. -/
def Reenters (entry : Entry) (c : CallChain) (tool : TriggerTool) : Prop :=
  entry.workflowId? = some tool.workflowId ∧
    c.top.context.depth < min tool.maxDepth maxGlobalDepth ∧
      tool.workflowCode ∉ c.top.context.visited

/-- The guard refuses the trigger. -/
def Refused (c : CallChain) (tool : TriggerTool) : Prop :=
  ∃ e, enterWorkflowTrigger c.top.context tool.workflowCode tool.maxDepth = .error e

/-- The guard refuses a trigger exactly where the depth is used up or the code is known. -/
theorem refused_iff {tool : TriggerTool} :
    Refused c tool ↔ ¬ (c.top.context.depth < min tool.maxDepth maxGlobalDepth ∧
      tool.workflowCode ∉ c.top.context.visited) := by
  rw [Refused, enterWorkflowTrigger]
  by_cases hdepth : c.top.context.depth < min tool.maxDepth maxGlobalDepth
  · by_cases hvisited : tool.workflowCode ∈ c.top.context.visited
    · simp [raiseUnless, hdepth, hvisited, bind, Except.bind]
    · simp [raiseUnless, hdepth, hvisited, bind, Except.bind, pure, Except.pure]
  · simp [raiseUnless, hdepth, bind, Except.bind]

/-- Inside of the `with` block the code is known, and so are the codes known before. -/
theorem enterWorkflowTrigger_ok {ctx ctx' : TriggerContext} {code : String} {maxDepth : Int}
    (h : enterWorkflowTrigger ctx code maxDepth = .ok ctx') :
    code ∈ ctx'.visited ∧ ctx.visited ⊆ ctx'.visited := by
  obtain ⟨-, -, rfl⟩ := enterWorkflowTrigger_eq_ok.mp h
  exact ⟨Finset.mem_insert_self _ _, Finset.subset_insert _ _⟩

/-! ## Ids and codes -/

/-- A workflow with this id and code is stored, deleted or not. -/
def Names (db : Db) (workflowId : Uuid) (code : String) : Prop :=
  ∃ w ∈ db.workflows.rows, w.id = workflowId ∧ w.code = code

/-- A workflow has one code. -/
private theorem Names.code_eq {workflowId : Uuid} {code code' : String}
    (h : Names db workflowId code) (h' : Names db workflowId code') : code = code' := by
  obtain ⟨w, hw, hid, rfl⟩ := h
  obtain ⟨w', hw', hid', rfl⟩ := h'
  rw [db.workflows.eq_of_key_eq hw hw' (hid.trans hid'.symm)]

/-- No request changes the code of a workflow. -/
private theorem Names.kept {workflowId : Uuid} {code : String} (h : Names db workflowId code)
    (req : DefinitionRequest) : Names (req.apply db) workflowId code := by
  rw [DefinitionRequest.apply]
  split
  · rename_i db' hok
    obtain ⟨w, hw, hid, hcode⟩ := h
    obtain ⟨w', hw', hid', hcode'⟩ := (definitionsChange_of_handle hok).2.exists_kept hw
    exact ⟨w', hw', hid'.trans hid, (Prod.mk.inj hcode').2.trans hcode⟩
  · exact h

/-- A tool has the id and the code of a stored workflow. -/
private theorem names_of_buildTriggerTools {scan : ScanOrder Skill} {agentId agentOsId : Uuid}
    {tools : List TriggerTool}
    (h : WorkflowSkillService.buildTriggerTools lib scan db agentId agentOsId = .ok tools)
    {tool : TriggerTool} (htool : tool ∈ tools) : Names db tool.workflowId tool.workflowCode := by
  simp only [WorkflowSkillService.buildTriggerTools, bind_eq_ok, pure_eq_ok] at h
  obtain ⟨found, hfound, rfl⟩ := h
  rw [List.reduceOption_mem_iff] at htool
  obtain ⟨skill, -, hskill⟩ := exists_of_mem_mapM hfound htool
  rw [WorkflowSkillService.triggerTool] at hskill
  split at hskill
  · cases hskill
  · simp only [bind_eq_ok, pure_eq_ok] at hskill
    obtain ⟨workflow, hworkflow, hskill⟩ := hskill
    rw [Option.map_eq_some_iff] at hskill
    obtain ⟨w, hw, rfl⟩ := hskill
    obtain ⟨rfl, -⟩ := Option.filter_eq_some_iff.mp hw
    exact ⟨w, (List.mem_filter.mp (mem_of_scalarOneOrNone hworkflow)).1, rfl, rfl⟩

/-! ## The frames -/

/-- Each frame over the entry knows the code of its workflow and the codes its caller knew. -/
def Registered (entry : Entry) (db : Db) : ChainFrame → List ChainFrame → Prop
  | frame, [] => frame.workflowId? = entry.workflowId?
  | frame, caller :: below =>
    (∃ workflowId code, frame.workflowId? = some workflowId ∧ Names db workflowId code ∧
      code ∈ frame.context.visited) ∧
    caller.context.visited ⊆ frame.context.visited ∧ Registered entry db caller below

/-- The tools in the frames name stored workflows, and the frames are registered. -/
structure ChainInvariant (entry : Entry) (c : CallChain) : Prop where
  tools : ∀ frame ∈ c.top :: c.below, ∀ tool ∈ frame.tools,
    Names c.db tool.workflowId tool.workflowCode
  registered : Registered entry c.db c.top c.below

/-- A workflow that executes is the entry's, or the top frame knows its code. -/
private theorem Registered.of_running {frame : ChainFrame} {below : List ChainFrame} {workflowId : Uuid}
    (h : Registered entry db frame below)
    (hrunning : workflowId ∈ (frame :: below).filterMap (·.workflowId?)) :
    entry.workflowId? = some workflowId ∨
      ∃ code, Names db workflowId code ∧ code ∈ frame.context.visited := by
  induction below generalizing frame with
  | nil =>
    rw [List.mem_filterMap] at hrunning
    obtain ⟨f, hf, hid⟩ := hrunning
    obtain rfl := List.mem_singleton.mp hf
    exact .inl (h.symm.trans hid)
  | cons caller below ih =>
    obtain ⟨⟨id, code, hid, hnames, hcode⟩, hsubset, hbelow⟩ := h
    rw [List.filterMap_cons_some hid, List.mem_cons] at hrunning
    rcases hrunning with rfl | hrunning
    · exact .inr ⟨code, hnames, hcode⟩
    · rcases ih hbelow hrunning with hentry | ⟨code', hnames', hcode'⟩
      · exact .inl hentry
      · exact .inr ⟨code', hnames', hsubset hcode'⟩

/-- The entry's workflow executes as long as the call chain is active. -/
private theorem Registered.entry_running {frame : ChainFrame} {below : List ChainFrame}
    {workflowId : Uuid}
    (h : Registered entry db frame below) (hentry : entry.workflowId? = some workflowId) :
    workflowId ∈ (frame :: below).filterMap (·.workflowId?) := by
  induction below generalizing frame with
  | nil =>
    rw [List.mem_filterMap]
    exact ⟨frame, List.mem_singleton_self frame, h.trans hentry⟩
  | cons caller below ih =>
    have hcaller := ih h.2.2
    rw [List.mem_filterMap] at hcaller ⊢
    obtain ⟨f, hf, hid⟩ := hcaller
    exact ⟨f, List.mem_cons_of_mem _ hf, hid⟩

/-- A request leaves the frames registered. -/
private theorem Registered.kept {frame : ChainFrame} {below : List ChainFrame}
    (h : Registered entry db frame below) (req : DefinitionRequest) :
    Registered entry (req.apply db) frame below := by
  induction below generalizing frame with
  | nil => exact h
  | cons caller below ih =>
    obtain ⟨⟨id, code, hid, hnames, hcode⟩, hsubset, hbelow⟩ := h
    exact ⟨⟨id, code, hid, hnames.kept req, hcode⟩, hsubset, ih hbelow⟩

/-- The tools of the top frame take no part in this. -/
private theorem Registered.congr {frame frame' : ChainFrame} {below : List ChainFrame}
    (h : Registered entry db frame below) (hid : frame'.workflowId? = frame.workflowId?)
    (hcontext : frame'.context = frame.context) : Registered entry db frame' below := by
  cases below with
  | nil => exact hid.trans h
  | cons caller below =>
    rw [Registered, hid, hcontext]
    exact h

/-! ## One event -/

/-- What an event does to a call chain. -/
private inductive ChainStep (lib : Pydantic) (c : CallChain) : ChainEvent → CallChain → Prop where
  | defined (req : DefinitionRequest) : ChainStep lib c (.define req) { c with db := req.apply c.db }
  | ranAgent (scan : ScanOrder Skill) (agentId agentOsId : Uuid) (tools : List TriggerTool)
      (htools : WorkflowSkillService.buildTriggerTools lib scan c.db agentId agentOsId = .ok tools) :
      ChainStep lib c (.runAgent scan agentId agentOsId)
        { c with top := { c.top with tools := c.top.tools ++ tools } }
  | unchanged (ev : ChainEvent) : ChainStep lib c ev c
  | entered (tool : TriggerTool) (ctx : TriggerContext) (htool : tool ∈ c.top.tools)
      (hctx : enterWorkflowTrigger c.top.context tool.workflowCode tool.maxDepth = .ok ctx) :
      ChainStep lib c (.trigger tool)
        { c with top := ⟨some tool.workflowId, ctx, []⟩, below := c.top :: c.below }
  | ended (frame : ChainFrame) (below : List ChainFrame) (hbelow : c.below = frame :: below) :
      ChainStep lib c .ended { c with top := frame, below := below }

/-- Every event does one of these. -/
private theorem chainStep_of_step {ev : ChainEvent} (h : c.step lib ev = some c') :
    ChainStep lib c ev c' := by
  cases ev with
  | define req =>
    cases h
    exact .defined req
  | runAgent scan agentId agentOsId =>
    rw [CallChain.step] at h
    split at h
    · rename_i tools htools
      cases h
      exact .ranAgent scan agentId agentOsId tools htools
    · cases h
      exact .unchanged _
  | trigger tool =>
    rw [CallChain.step] at h
    split at h
    · rename_i htool
      cases h
      rw [CallChain.trigger]
      split
      -- what the guard refuses, and a workflow that cannot run, is answered with a text
      · exact .unchanged _
      · rename_i ctx hctx
        split
        · exact .entered tool ctx htool hctx
        · exact .unchanged _
    · cases h
  | ended =>
    rw [CallChain.step] at h
    split at h
    · cases h
    · rename_i frame below hbelow
      cases h
      exact .ended frame below hbelow

/-- Every event keeps the invariant. -/
private theorem chainInvariant_step {ev : ChainEvent} (hc : ChainInvariant entry c)
    (h : c.step lib ev = some c') : ChainInvariant entry c' := by
  cases chainStep_of_step h with
  -- A registry may only retire what was registered.
  | defined req =>
    exact ⟨fun frame hframe tool htool => (hc.tools frame hframe tool htool).kept req,
      hc.registered.kept req⟩
  | ranAgent scan agentId agentOsId tools htools =>
    constructor
    -- The tools of an agent that runs are built from the registry.
    · intro frame hframe tool htool
      rcases List.mem_cons.mp hframe with rfl | hbelow
      · rcases List.mem_append.mp htool with hold | hnew
        · exact hc.tools c.top List.mem_cons_self tool hold
        · exact names_of_buildTriggerTools htools hnew
      · exact hc.tools frame (List.mem_cons_of_mem _ hbelow) tool htool
    · exact hc.registered.congr rfl rfl
  -- The step leaves frames and registry alone.
  | unchanged => exact hc
  | entered tool ctx htool hctx =>
    have hnames := hc.tools c.top List.mem_cons_self tool htool
    obtain ⟨hcode, hsubset⟩ := enterWorkflowTrigger_ok hctx
    constructor
    -- The frame of the workflow has no tools yet.
    · intro frame hframe tool' htool'
      rcases List.mem_cons.mp hframe with rfl | hbelow
      · cases htool'
      · exact hc.tools frame hbelow tool' htool'
    -- The guard let the workflow in, so it is none of those on the chain.
    · exact ⟨⟨tool.workflowId, tool.workflowCode, rfl, hnames, hcode⟩, hsubset, hc.registered⟩
  | ended frame below hbelow =>
    -- What holds of all frames holds of those below.
    have htools := hc.tools
    have hregistered := hc.registered
    rw [hbelow] at htools hregistered
    exact ⟨fun f hf => htools f (List.mem_cons_of_mem _ hf), hregistered.2.2⟩

/-- A trigger of a workflow that executes is refused, unless it enters the entry's workflow
    again. -/
private theorem refused_of_running (hc : ChainInvariant entry c) {tool : TriggerTool}
    (htool : tool ∈ c.top.tools) (hrunning : tool.workflowId ∈ c.running)
    (hnot : ¬ Reenters entry c tool) : Refused c tool := by
  rw [refused_iff]
  intro hpass
  rcases hc.registered.of_running hrunning with hentry | ⟨code, hnames, hcode⟩
  · exact hnot ⟨hentry, hpass⟩
  · have hsame := hnames.code_eq (hc.tools c.top List.mem_cons_self tool htool)
    exact hpass.2 (hsame ▸ hcode)

/-- An event that does not enter the entry's workflow again keeps every workflow from executing
    twice. -/
private theorem nodup_running_step {ev : ChainEvent} (hc : ChainInvariant entry c)
    (hnodup : c.running.Nodup) (h : c.step lib ev = some c')
    (hnot : ∀ tool, ev = .trigger tool → ¬ Reenters entry c tool) : c'.running.Nodup := by
  cases chainStep_of_step h with
  | defined => exact hnodup
  | ranAgent => exact hnodup
  | unchanged => exact hnodup
  | entered tool ctx htool hctx =>
    refine List.nodup_cons.mpr ⟨fun hrunning => ?_, hnodup⟩
    obtain ⟨e, he⟩ := refused_of_running hc htool hrunning (hnot tool rfl)
    rw [hctx] at he
    cases he
  | ended frame below hbelow =>
    refine hnodup.sublist ?_
    rw [CallChain.running, CallChain.running, hbelow]
    exact (List.sublist_cons_self _ _).filterMap _

/-! ## Whole call chains -/

/-- A call chain at its entry. -/
private theorem chainInvariant_start (db : Db) (entry : Entry) :
    ChainInvariant entry (.start db entry) := by
  constructor
  · intro frame hframe tool htool
    obtain rfl := List.mem_singleton.mp hframe
    cases htool
  · rfl

/-- No workflow executes twice at the same time, and the triggers of executing workflows are
    refused, as long as the call chain is active. -/
structure RunsOnce (lib : Pydantic) (db : Db) (entry : Entry) (evs : List ChainEvent) : Prop where
  once : ∀ before c, before <+: evs →
    Runs.run (CallChain.step lib) (.start db entry) before = some c → c.running.Nodup
  refused : ∀ before tool c, before ++ [.trigger tool] <+: evs →
    Runs.run (CallChain.step lib) (.start db entry) before = some c →
      tool.workflowId ∈ c.running → Refused c tool

/-- In a call chain from any entry, whatever the tables are and however they change, workflows
    run once exactly when no trigger enters the workflow of the entry again. -/
theorem runsOnce_iff (lib : Pydantic) (db : Db) (entry : Entry) (evs : List ChainEvent)
    (final : CallChain) (hrun : Runs.run (CallChain.step lib) (.start db entry) evs = some final) :
    RunsOnce lib db entry evs ↔
      ∀ before tool c, before ++ [.trigger tool] <+: evs →
        Runs.run (CallChain.step lib) (.start db entry) before = some c →
          ¬ Reenters entry c tool := by
  have hinvariant : ∀ before c, Runs.run (CallChain.step lib) (.start db entry) before = some c →
      ChainInvariant entry c := fun before c h =>
    Runs.invariant (fun _ _ _ hc hstep => chainInvariant_step hc hstep)
      (chainInvariant_start db entry) h
  constructor
  · intro honce before tool c hinit hbefore hreenters
    -- The entry's workflow executes, so its trigger is refused, though the guard lets it pass.
    have hrunning := (hinvariant before c hbefore).registered.entry_running hreenters.1
    exact refused_iff.mp (honce.refused before tool c hinit hbefore hrunning) hreenters.2
  · intro hnot
    constructor
    · intro before c hinit hbefore
      refine (Runs.throughout (P := fun c => ChainInvariant entry c ∧ c.running.Nodup)
        (Q := fun c ev => ∀ tool, ev = .trigger tool → ¬ Reenters entry c tool)
        ⟨chainInvariant_start db entry, ?_⟩ (fun c ev c' hc hstep hev => ?_) ?_
        before c hinit hbefore).2
      · cases entry with
        | chat => exact List.nodup_nil
        | run workflowId | webhook workflowId | schedule workflowId =>
          exact List.nodup_singleton workflowId
      · exact ⟨chainInvariant_step hc.1 hstep, nodup_running_step hc.1 hc.2 hstep hev⟩
      · intro before' ev c' hinit' hbefore' tool htool
        subst htool
        exact hnot before' tool c' hinit' hbefore'
    · intro before tool c hinit hbefore hrunning
      obtain ⟨c', hafter⟩ := Runs.exists_run_of_prefix hrun hinit
      obtain ⟨c₁, hbefore₁, hstep⟩ := Runs.run_concat.mp hafter
      obtain rfl : c = c₁ := Option.some.inj (hbefore.symm.trans hbefore₁)
      have htool : tool ∈ c.top.tools := by
        by_contra hnone
        rw [CallChain.step, if_neg hnone] at hstep
        cases hstep
      exact refused_of_running (hinvariant before c hbefore) htool hrunning
        (hnot before tool c hinit hbefore)

/-! ## A workflow that its own route started -/

namespace SelfTrigger

/-- The skill that triggers the workflow of the deployment. -/
def onboardingSkill : Skill where
  id := 1
  code := "start-onboarding"
  name := "Start onboarding"
  skillType := .workflow
  config := some {
    members := [("workflowCode", .str "onboarding")]
    wellFormed := by simp [Json.membersWellFormed_iff, Json.WellFormed] }
  deletedAt := none

/-- The deployment, whose agent has the skill. -/
def start : Db :=
  { Deployment.db with metadata := { Deployment.metadata with
      skills := .singleton onboardingSkill
      agentSkills := {(1, 1)} } }

/-- The agent runs and triggers the workflow. -/
def evs : List ChainEvent := [.runAgent .stored 1 1, .trigger ⟨1, "onboarding", 1⟩]

end SelfTrigger

open SelfTrigger in
/-- From a chat turn the agent may trigger the workflow. -/
theorem runsOnce_example :
    RunsOnce StoredConfig.pydantic start .chat evs ↔
      ∀ before tool c, before ++ [.trigger tool] <+: evs →
        Runs.run (CallChain.step StoredConfig.pydantic) (.start start .chat) before = some c →
          ¬ Reenters .chat c tool := by
  have hruns : (Runs.run (CallChain.step StoredConfig.pydantic) (.start start .chat) evs).isSome := by
    decide +kernel
  obtain ⟨final, hfinal⟩ := Option.isSome_iff_exists.mp hruns
  exact runsOnce_iff StoredConfig.pydantic start .chat evs final hfinal

open SelfTrigger in
/-- The workflow that `POST /workflows/{id}/run` has started is triggered by the agent of its own
    step, and executes twice. -/
theorem triggered_twice :
    (Runs.run (CallChain.step StoredConfig.pydantic) (.start start (.run 1)) evs).map
      CallChain.running = some [1, 1] ∧
    ¬ RunsOnce StoredConfig.pydantic start (.run 1) evs := by
  have htwice : (Runs.run (CallChain.step StoredConfig.pydantic) (.start start (.run 1)) evs).map
      CallChain.running = some [1, 1] := by
    decide +kernel
  refine ⟨htwice, fun honce => ?_⟩
  obtain ⟨c, hc, hrunning⟩ := Option.map_eq_some_iff.mp htwice
  have hnodup := honce.once evs c List.prefix_rfl hc
  rw [hrunning] at hnodup
  revert hnodup
  decide

end AgnoRuntime
