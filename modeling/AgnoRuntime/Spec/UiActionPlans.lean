import AgnoRuntime.ForStd.OwnCounters
import AgnoRuntime.Model.EngineRun
import AgnoRuntime.Spec.TeamMembers

/-!
# The order of a UI action plan

Every agent of a team proposes its UI actions to a collector of its own, and the collector numbers
them. The plan of the turn puts the collectors together and sorts by number, so
when two agents have proposed actions their numbers clash, and the order is lost.

## Key results

- `collectorAfter_actions`: a collector numbers the accepted proposals of its agent
- `nodup_agents_of_resolves`: no agent is twice in what is executed
- `uiActionPlan_once`: no accepted action is lost or doubled
- `uiActionPlan_inOrder_iff`: when the plan tells the order of the proposals
-/

namespace AgnoRuntime

open Except Prog AgnoRuntimeEngine UIActionSkillService OwnCounters Deployment

/-- The action with another number. -/
def UIAction.at (action : UIAction) (executionOrder : Nat) : UIAction :=
  { action with executionOrder := executionOrder }

/-- The action that a call adds to a plan, but for its number; `none` where it adds nothing. -/
def UIActionArgs.action? (args : UIActionArgs) : Option UIAction := do
  let actionType ← ActionType.ofValue (ActionType.upper args.actionType)
  let confidence ← (checkConfidence args.confidence).toOption
  return ⟨actionType, args.target, args.businessMeaning, args.value, args.reason, confidence, 0⟩

/-- The calls of the tool during an execution, in the order in which they are made, each with its
    agent: one that takes part and that has the tool. -/
structure ActionCalls (featureUiSkills : Bool) (scan : ScanOrder Skill) (m : Metadata)
    (dispatch : Dispatch) where
  calls : List (Agent × UIActionArgs)
  member : ∀ call ∈ calls, call.1 ∈ dispatch.agentContexts.map (·.agent)
  offered : ∀ call ∈ calls, buildsActionTool featureUiSkills scan m call.1.id = true

/-- The collector of an agent after the calls. -/
def collectorAfter (calls : List (Agent × UIActionArgs)) (agent : Agent) :
    UIActionPlanCollector :=
  ((calls.filter (·.1 = agent)).map (·.2)).foldl
    (fun collector args => (proposeUiAction args collector).2) .empty

/-- The accepted proposals, in the order in which they were made, each with its agent. -/
def accepted (calls : List (Agent × UIActionArgs)) : List (Agent × UIAction) :=
  calls.filterMap fun call => call.2.action?.map (call.1, ·)

/-- An Agno whose agents make these calls. -/
def AgnoCall.collecting (call : AgnoCall) (calls : List (Agent × UIActionArgs)) : AgnoCall :=
  { call with collected := fun agent => (collectorAfter calls agent).actions }

/-- The plan has each of the actions once, under numbers of their own, which sort it into their
    order. -/
structure InProposedOrder (proposed plan : List UIAction) : Prop where
  once : (plan.map (·.at 0)).Perm proposed
  distinct : (plan.map (·.executionOrder)).Nodup
  sorted : (sortedActions plan).map (·.at 0) = proposed

/-! ## Collectors -/

/-- An accepted call appends its action, under the next number; any other changes nothing. -/
theorem proposeUiAction_state (args : UIActionArgs) (collector : UIActionPlanCollector) :
    (proposeUiAction args collector).2 = match args.action? with
      | some action => collector.append (action.at collector.actions.length)
      | none => collector := by
  rw [proposeUiAction.eq_def, UIActionArgs.action?]
  cases ActionType.ofValue (ActionType.upper args.actionType) with
  | none => rfl
  | some actionType =>
    cases hconfidence : checkConfidence args.confidence with
    | error exc => rfl
    | ok confidence => rfl

/-- One more call. -/
theorem collectorAfter_concat (calls : List (Agent × UIActionArgs)) (call : Agent × UIActionArgs)
    (agent : Agent) :
    collectorAfter (calls ++ [call]) agent =
      if call.1 = agent then (proposeUiAction call.2 (collectorAfter calls agent)).2
      else collectorAfter calls agent := by
  rw [collectorAfter, List.filter_append, List.map_append, List.foldl_append]
  by_cases hagent : call.1 = agent
  · rw [if_pos hagent, List.filter_cons_of_pos (by simpa using hagent)]
    rfl
  · rw [if_neg hagent, List.filter_cons_of_neg (by simpa using hagent)]
    rfl

/-- One more call may be accepted. -/
theorem accepted_concat (calls : List (Agent × UIActionArgs)) (call : Agent × UIActionArgs) :
    accepted (calls ++ [call]) =
      accepted calls ++ (call.2.action?.map (call.1, ·)).toList := by
  rw [accepted, List.filterMap_append, accepted, List.filterMap_cons]
  cases call.2.action? with
  | none => rfl
  | some action => rfl

/-- A collector holds the accepted proposals of its agent, numbered. -/
theorem collectorAfter_actions (calls : List (Agent × UIActionArgs)) (agent : Agent) :
    (collectorAfter calls agent).actions =
      (numbered (accepted calls) agent).map fun p => p.1.at p.2 := by
  induction calls using List.reverseRecOn with
  | nil => rfl
  | append_singleton calls call ih =>
    rw [collectorAfter_concat, accepted_concat, proposeUiAction_state]
    cases call.2.action? with
    | none =>
      rw [ite_self]
      exact ih.trans (by rw [Option.map_none, Option.toList_none, List.append_nil])
    | some action =>
      rw [Option.map_some, Option.toList_some, numbered_concat]
      by_cases hagent : call.1 = agent
      · rw [if_pos hagent, if_pos hagent, List.map_append, ← ih]
        show _ ++ [action.at _] = _ ++ [action.at _]
        rw [ih, List.length_map]
      · rw [if_neg hagent, if_neg hagent, List.append_nil]
        exact ih

/-- What is proposed has no number yet. -/
theorem at_zero_of_accepted {calls : List (Agent × UIActionArgs)} {p : Agent × UIAction}
    (h : p ∈ accepted calls) : p.2.at 0 = p.2 := by
  obtain ⟨call, -, hcall⟩ := List.mem_filterMap.mp h
  obtain ⟨action, haction, rfl⟩ := Option.map_eq_some_iff.mp hcall
  simp only [UIActionArgs.action?, bind, Option.bind_eq_some_iff] at haction
  obtain ⟨actionType, -, confidence, -, hreturned⟩ := haction
  obtain rfl := Option.some.inj hreturned
  rfl

/-! ## The agents of an execution -/

/-- The members of a team that is resolved are different agents of it. -/
theorem nodup_agents_of_buildTeamContext {scan : HierarchyScan} {m : Metadata} {os : AgentOS}
    {team : Team} {ctx : ResolvedTeamContext} (h : buildTeamContext scan m os team = .ok ctx) :
    ctx.agents.Nodup ∧ ∀ agent ∈ ctx.agents, agent.teamId = team.id := by
  rw [agents_of_buildTeamContext h]
  refine ⟨BaseRepository.nodup_list.filter _, fun agent hagent => ?_⟩
  exact (usableMember_of_listed hagent).member

/-- Nor is an agent in two of the teams that are listed. -/
theorem nodup_agents_of_teams {scan : HierarchyScan} {m : Metadata} {os : AgentOS}
    {contexts : List ResolvedTeamContext}
    (h : ((listedTeams scan m os).filter (·.enabled)).mapM (buildTeamContext scan m os) =
      .ok contexts) :
    ((contexts.flatMap (·.memberContexts)).map (·.agent)).Nodup := by
  have hteams : contexts.map (·.team) = (listedTeams scan m os).filter (·.enabled) :=
    map_of_mapM_eq_ok (fun _ _ => team_of_buildTeamContext) h
  have hbuilt : ∀ ctx ∈ contexts, ctx.team ∈ m.teams.rows ∧ ctx.agents.Nodup ∧
      ∀ agent ∈ ctx.agents, agent.teamId = ctx.team.id := by
    intro ctx hctx
    obtain ⟨team, hteam, hbuild⟩ := exists_of_mem_mapM h hctx
    have hlisted := BaseRepository.mem_of_mem_list (List.mem_filter.mp hteam).1
    rw [team_of_buildTeamContext hbuild]
    exact ⟨hlisted.1, nodup_agents_of_buildTeamContext hbuild⟩
  have hdistinct : (contexts.map (·.team)).Nodup := by
    rw [hteams]
    exact BaseRepository.nodup_list.filter _
  rw [List.map_flatMap, List.nodup_flatMap]
  refine ⟨fun ctx hctx => (hbuilt ctx hctx).2.1, ?_⟩
  refine (List.pairwise_map.mp hdistinct).imp_of_mem fun hctx hctx' hne => ?_
  obtain ⟨hstored, -, hteam⟩ := hbuilt _ hctx
  obtain ⟨hstored', -, hteam'⟩ := hbuilt _ hctx'
  intro agent hagent hagent'
  -- an agent has one team, and a team one row
  exact hne (m.teams.eq_of_key_eq hstored hstored' ((hteam agent hagent).symm.trans
    (hteam' agent hagent')))

/-- No agent takes part in an execution twice. -/
theorem nodup_agents_of_resolves {scan : HierarchyScan} {m : Metadata} {dispatch : Dispatch}
    (h : Resolves scan m dispatch) : (dispatch.agentContexts.map (·.agent)).Nodup := by
  cases h with
  | context agentOsCode teamCode agentCode ctx h => exact List.nodup_singleton _
  | contextById agentId ctx h => exact List.nodup_singleton _
  | teamContextById teamId ctx h =>
    simp only [resolveTeamContextById, Except.bind_eq_ok] at h
    obtain ⟨team, -, agentOs, -, h⟩ := h
    exact (nodup_agents_of_buildTeamContext h).1
  | teamContextByCode agentOsCode teamCode ctx h =>
    simp only [resolveTeamContextByCode, Except.bind_eq_ok] at h
    obtain ⟨agentOs, -, team, -, h⟩ := h
    exact (nodup_agents_of_buildTeamContext h).1
  | rootContext agentOsCode ctx h =>
    simp only [resolveRootContext, Except.bind_eq_ok, pure_eq_ok] at h
    obtain ⟨agentOs, -, -, -, contexts, hcontexts, rfl⟩ := h
    exact nodup_agents_of_teams hcontexts

/-! ## The plan -/

variable {featureUiSkills : Bool} {skillScan : ScanOrder Skill} {m : Metadata}
  {dispatch : Dispatch}

/-- The plan is what the collectors hold, sorted by number. -/
theorem aggregateUiActionPlan_collecting (call : AgnoCall) (calls : List (Agent × UIActionArgs)) :
    aggregateUiActionPlan (call.collecting calls) dispatch =
      sortedActions ((merged (dispatch.agentContexts.map (·.agent)) (accepted calls)).map
        fun p => p.1.at p.2) := by
  rw [aggregateUiActionPlan, sortedActions, merged, List.map_flatMap, List.flatMap_map]
  simp only [← collectorAfter_actions]
  rfl

/-- Actions that are numbered in order are sorted. -/
theorem sortedActions_zipIdx (actions : List UIAction) :
    sortedActions (actions.zipIdx.map fun p => p.1.at p.2) =
      actions.zipIdx.map fun p => p.1.at p.2 := by
  refine List.mergeSort_of_pairwise (List.pairwise_map.mpr ?_)
  have hnumbers : (actions.zipIdx.map Prod.snd).Pairwise (· < ·) := by
    rw [List.zipIdx_map_snd]
    exact List.pairwise_lt_range' ..
  exact (List.pairwise_map.mp hnumbers).imp fun hlt => decide_eq_true (Nat.le_of_lt hlt)

/-- The number that an action is given last is the one it has. -/
theorem map_at_zero (actions : List (UIAction × ℕ)) :
    (actions.map fun p => p.1.at p.2).map (·.at 0) = (actions.map Prod.fst).map (·.at 0) := by
  rw [List.map_map, List.map_map]
  rfl

/-- Accepted actions have no number to forget. -/
theorem forget_accepted (calls : List (Agent × UIActionArgs)) :
    ((accepted calls).map (·.2)).map (·.at 0) = (accepted calls).map (·.2) := by
  rw [List.map_map]
  exact List.map_congr_left fun _ => at_zero_of_accepted

/-- Without their numbers, the proposals are what they were. -/
theorem forget_zipIdx (calls : List (Agent × UIActionArgs)) :
    (((accepted calls).map (·.2)).zipIdx.map fun p => p.1.at p.2).map (·.at 0) =
      (accepted calls).map (·.2) := by
  rw [map_at_zero, List.zipIdx_map_fst, forget_accepted]

/-- What was accepted was proposed by agents that take part. -/
theorem ActionCalls.member_of_accepted
    (proposals : ActionCalls featureUiSkills skillScan m dispatch) {p : Agent × UIAction}
    (h : p ∈ accepted proposals.calls) : p.1 ∈ dispatch.agentContexts.map (·.agent) := by
  obtain ⟨args, hargs, haccepted⟩ := List.mem_filterMap.mp h
  obtain ⟨action, -, rfl⟩ := Option.map_eq_some_iff.mp haccepted
  exact proposals.member args hargs

/-- No accepted action is lost or doubled: but for the numbers, the plan has each once. -/
theorem uiActionPlan_once {scan : HierarchyScan} (call : AgnoCall)
    (hresolves : Resolves scan m dispatch)
    (proposals : ActionCalls featureUiSkills skillScan m dispatch) :
    ((aggregateUiActionPlan (call.collecting proposals.calls) dispatch).map (·.at 0)).Perm
      ((accepted proposals.calls).map (·.2)) := by
  have hmerged := merged_perm (nodup_agents_of_resolves hresolves)
    fun p hp => proposals.member_of_accepted hp
  rw [aggregateUiActionPlan_collecting]
  -- sorting moves the actions only
  refine ((List.mergeSort_perm _ _).map _).trans ?_
  rw [map_at_zero, ← forget_accepted]
  exact hmerged.map _

/-- The plan of an execution has every accepted action once, under a number of its own, and in
    the order in which they were proposed, exactly if one agent at most had an action accepted. -/
theorem uiActionPlan_inOrder_iff {scan : HierarchyScan} (call : AgnoCall)
    (hresolves : Resolves scan m dispatch)
    (proposals : ActionCalls featureUiSkills skillScan m dispatch) :
    InProposedOrder ((accepted proposals.calls).map (·.2))
        (aggregateUiActionPlan (call.collecting proposals.calls) dispatch) ↔
      ∀ p ∈ accepted proposals.calls, ∀ q ∈ accepted proposals.calls, p.1 = q.1 := by
  have hagents := nodup_agents_of_resolves hresolves
  have hmembers : ∀ p ∈ accepted proposals.calls,
      p.1 ∈ dispatch.agentContexts.map (·.agent) := fun p hp => proposals.member_of_accepted hp
  have honce := uiActionPlan_once call hresolves proposals
  rw [aggregateUiActionPlan_collecting] at honce ⊢
  constructor
  · -- every agent counts from 0: two that had an action accepted share a number
    intro horder
    refine (numbers_nodup_iff hagents hmembers).mp ?_
    have hnumbers := ((List.mergeSort_perm _ _).map UIAction.executionOrder).nodup_iff.mp
      horder.distinct
    rwa [List.map_map] at hnumbers
  · -- the counter of a single agent numbers the proposals in their order
    intro hone
    rw [merged_of_oneKey hagents hmembers hone, sortedActions_zipIdx] at honce ⊢
    constructor
    · exact honce
    · rw [List.map_map]
      exact List.nodup_zipIdx_map_snd _
    · rw [sortedActions_zipIdx, forget_zipIdx]

/-! ## Two agents that propose -/

namespace TwoProposals

open Civil

/-- A call of the tool. -/
def fill (target : String) : UIActionArgs := ⟨"SET_VALUE", target, some "x", none, none, some 1⟩

/-- The metadata: both agents of the team have the same UI skill. -/
def metadata : Metadata :=
  { Deployment.metadata with
    agents := ⟨[crm, { crm with id := 2, code := "billing" }], by decide⟩
    skills := .singleton ⟨1, "form", "Form", .ui, none, none⟩
    agentSkills := {(1, 1), (2, 1)} }

/-- The context of an agent. -/
def member (agent : Agent) : ResolvedRuntimeContext where
  agentOs := LargeTeam.enterprise
  team := LargeTeam.sales
  agent := agent
  finalPrompt :=
    PromptCompositionService.compose metadata LargeTeam.enterprise LargeTeam.sales agent
  effectiveCapabilities := CapabilityService.sorted (CapabilityService.effective metadata 1 1 agent.id)

/-- The context of the team. -/
def team : ResolvedTeamContext where
  agentOs := LargeTeam.enterprise
  team := LargeTeam.sales
  teamPrompt :=
    PromptCompositionService.composeTeamOnly metadata LargeTeam.enterprise LargeTeam.sales
  memberContexts := [member crm, member { crm with id := 2, code := "billing" }]

/-- It is resolved. -/
theorem resolves : Resolves ⟨.stored, .stored⟩ metadata (.team team) :=
  .teamContextById 1 team rfl

/-- An agent with the skill has the tool. -/
theorem offersTool {agentId : Uuid} (h : (agentId, 1) ∈ metadata.agentSkills) :
    buildsActionTool true .stored metadata agentId = true :=
  List.any_eq_true.mpr ⟨⟨1, "form", "Form", .ui, none, none⟩,
    SkillRepository.mem_listSkillsForAgent.mpr ⟨List.mem_singleton_self _, h, rfl⟩, rfl⟩

/-- The second agent proposes an action, and then the first one does. -/
def calls : ActionCalls true .stored metadata (.team team) where
  calls := [({ crm with id := 2, code := "billing" }, fill "leave.from"), (crm, fill "leave.to")]
  member := by decide
  offered := List.forall_mem_cons.mpr ⟨offersTool (by decide),
    List.forall_mem_singleton.mpr (offersTool (by decide))⟩

end TwoProposals

/-- What is asked of the plan of these two. -/
theorem uiActionPlan_inOrder_iff_twoProposals :
    InProposedOrder ((accepted TwoProposals.calls.calls).map (·.2))
        (aggregateUiActionPlan ((answering "Done").collecting TwoProposals.calls.calls)
          (.team TwoProposals.team)) ↔
      ∀ p ∈ accepted TwoProposals.calls.calls, ∀ q ∈ accepted TwoProposals.calls.calls,
        p.1 = q.1 :=
  uiActionPlan_inOrder_iff (answering "Done") TwoProposals.resolves TwoProposals.calls

/-- Both actions are number 0, and the one that was proposed first comes last. -/
theorem uiActionPlan_twoProposals :
    (accepted TwoProposals.calls.calls).map (·.2.target) = ["leave.from", "leave.to"] ∧
    (aggregateUiActionPlan ((answering "Done").collecting TwoProposals.calls.calls)
      (.team TwoProposals.team)).map (fun action => (action.target, action.executionOrder)) =
        [("leave.to", 0), ("leave.from", 0)] ∧
    ¬InProposedOrder ((accepted TwoProposals.calls.calls).map (·.2))
      (aggregateUiActionPlan ((answering "Done").collecting TwoProposals.calls.calls)
        (.team TwoProposals.team)) := by
  have hplan : (aggregateUiActionPlan ((answering "Done").collecting TwoProposals.calls.calls)
      (.team TwoProposals.team)).map (fun action => (action.target, action.executionOrder)) =
        [("leave.to", 0), ("leave.from", 0)] := by
    rw [aggregateUiActionPlan, List.mergeSort_of_pairwise (by decide)]
    rfl
  refine ⟨by decide, hplan, fun horder => ?_⟩
  have hclash := congrArg (List.map Prod.snd) hplan
  rw [List.map_map] at hclash
  have hnumbers := hclash ▸ horder.distinct
  exact absurd hnumbers (by decide)

end AgnoRuntime
