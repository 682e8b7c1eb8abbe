import AgnoRuntime.Spec.RequestSteps
import AgnoRuntime.Spec.NestedRuns
import AgnoRuntime.Spec.RunRecords

/-!
# What is deleted or taken away stays out of reach

No request brings a deleted AgentOS, team or agent back, and no request but an
assignment changes which capabilities an AgentOS or a team has. Every call of the
engine is for what the metadata resolve then. So what was deleted is never executed
again, and a capability that was taken from an AgentOS or a team is not offered to any
agent below, however the history goes on.

## Key results

- `entityChange_of_handle`: what a metadata request can do to the hierarchy and its capabilities
- `deleted_never_executed`: a deleted entity is in no later call of the engine
- `revoked_never_offered`: a capability that was taken away is in no later tool catalog
-/

namespace AgnoRuntime

open Except CapabilityRepository AgnoRuntimeEngine

/-! ## What a request does to the hierarchy -/

/-- Rows that are deleted stay so. -/
def StaysDeleted {α : Type} [SoftDelete α] {key : α → Uuid} (t t' : KeyedTable key) : Prop :=
  ∀ r ∈ t.rows, isLive r = false → ∃ r' ∈ t'.rows, key r' = key r ∧ isLive r' = false

namespace StaysDeleted

variable {α : Type} [SoftDelete α] {key : α → Uuid}

theorem refl (t : KeyedTable key) : StaysDeleted t t := fun r hr hdead => ⟨r, hr, rfl, hdead⟩

/-- A new row is another row. -/
theorem inserted (t : KeyedTable key) (mk : Uuid → α) (hmk : ∀ id, key (mk id) = id) :
    StaysDeleted t (t.insertFresh mk hmk) :=
  fun r hr hdead => ⟨r, KeyedTable.mem_insertFresh_of_mem hr mk hmk, rfl, hdead⟩

/-- An update that does not clear `deleted_at`. -/
theorem updated (t : KeyedTable key) (id : Uuid) (f : α → α) (hf : ∀ r, key (f r) = key r)
    (hdead : ∀ r, isLive r = false → isLive (f r) = false) :
    StaysDeleted t (t.update id f hf) := by
  intro r hr hr'
  refine ⟨if key r = id then f r else r, KeyedTable.mem_rows_update.mpr ⟨r, hr, rfl⟩, ?_, ?_⟩
  · split
    · exact hf r
    · rfl
  · split
    · exact hdead r hr'
    · exact hr'

end StaysDeleted

/-- The assigned capabilities of a level. -/
def Metadata.capabilitiesAt (m : Metadata) : CapabilityLevel → Finset (Uuid × String)
  | .agentOs => m.agentOsCapabilities
  | .team => m.teamCapabilities
  | .agent => m.agentCapabilities

/-- How a request changes the hierarchy and its capabilities. -/
structure EntityChange (m m' : Metadata) (req : MetadataRequest) : Prop where
  agentOs : StaysDeleted m.agentOs m'.agentOs := by exact .refl _
  teams : StaysDeleted m.teams m'.teams := by exact .refl _
  agents : StaysDeleted m.agents m'.agents := by exact .refl _
  capabilities : ∀ level, m'.capabilitiesAt level = m.capabilitiesAt level ∨
    ∃ target codes, req = .setAssignment level target codes ∧
      m'.capabilitiesAt level = replaceLinks (m.capabilitiesAt level) target codes := by
    exact fun level => .inl (by cases level <;> rfl)

/-- Every successful request changes them so. -/
theorem entityChange_of_handle {m m' : Metadata} {req : MetadataRequest}
    (h : m.handle req = .ok m') : EntityChange m m' req := by
  cases req with
  | createAgentOs payload now =>
    simp only [Metadata.handle, Metadata.createAgentOs, bind_eq_ok, pure_eq_ok] at h
    obtain ⟨-, -, -, -, -, -, -, -, -, -, rfl⟩ := h
    exact { agentOs := .inserted _ _ _ }
  | updateAgentOs agentOsId payload =>
    simp only [Metadata.handle, Metadata.updateAgentOs, bind_eq_ok, pure_eq_ok] at h
    obtain ⟨obj, -, -, -, -, -, rfl⟩ := h
    exact { agentOs := .updated _ _ _ (fun _ => by rfl) fun _ hdead => hdead }
  | deleteAgentOs agentOsId now =>
    simp only [Metadata.handle, Metadata.deleteAgentOs, bind_eq_ok, pure_eq_ok] at h
    obtain ⟨obj, -, rfl⟩ := h
    exact { agentOs := .updated _ _ _ (fun _ => by rfl) fun _ _ => rfl }
  | createTeam payload now =>
    simp only [Metadata.handle, Metadata.createTeam, bind_eq_ok, pure_eq_ok] at h
    obtain ⟨-, -, -, -, -, -, -, -, -, -, rfl⟩ := h
    exact { teams := .inserted _ _ _ }
  | updateTeam teamId payload =>
    simp only [Metadata.handle, Metadata.updateTeam, bind_eq_ok, pure_eq_ok] at h
    obtain ⟨obj, -, -, -, rfl⟩ := h
    exact { teams := .updated _ _ _ (fun _ => by rfl) fun _ hdead => hdead }
  | deleteTeam teamId now =>
    simp only [Metadata.handle, Metadata.deleteTeam, bind_eq_ok, pure_eq_ok] at h
    obtain ⟨obj, -, rfl⟩ := h
    exact { teams := .updated _ _ _ (fun _ => by rfl) fun _ _ => rfl }
  | createAgent payload now =>
    simp only [Metadata.handle, Metadata.createAgent, bind_eq_ok, pure_eq_ok] at h
    obtain ⟨-, -, -, -, -, -, -, -, -, -, -, -, rfl⟩ := h
    exact { agents := .inserted _ _ _ }
  | updateAgent agentId payload =>
    simp only [Metadata.handle, Metadata.updateAgent, bind_eq_ok, pure_eq_ok] at h
    obtain ⟨obj, -, -, -, -, -, rfl⟩ := h
    exact { agents := .updated _ _ _ (fun _ => by rfl) fun _ hdead => hdead }
  | deleteAgent agentId now =>
    simp only [Metadata.handle, Metadata.deleteAgent, bind_eq_ok, pure_eq_ok] at h
    obtain ⟨obj, -, rfl⟩ := h
    exact { agents := .updated _ _ _ (fun _ => by rfl) fun _ _ => rfl }
  | setAssignment level targetId codes =>
    -- the tables of the two other levels stay
    cases level with
    | agentOs =>
      simp only [Metadata.handle, Metadata.setAssignment, setAgentOsCapabilities, bind_eq_ok,
        pure_eq_ok] at h
      obtain ⟨-, -, rfl⟩ := h
      refine { capabilities := fun level => ?_ }
      cases level with
      | agentOs => exact .inr ⟨targetId, codes, rfl, rfl⟩
      | team | agent => exact .inl rfl
    | team =>
      simp only [Metadata.handle, Metadata.setAssignment, setTeamCapabilities, bind_eq_ok,
        pure_eq_ok] at h
      obtain ⟨-, -, rfl⟩ := h
      refine { capabilities := fun level => ?_ }
      cases level with
      | team => exact .inr ⟨targetId, codes, rfl, rfl⟩
      | agentOs | agent => exact .inl rfl
    | agent =>
      simp only [Metadata.handle, Metadata.setAssignment, setAgentCapabilities, bind_eq_ok,
        pure_eq_ok] at h
      obtain ⟨-, -, rfl⟩ := h
      refine { capabilities := fun level => ?_ }
      cases level with
      | agent => exact .inr ⟨targetId, codes, rfl, rfl⟩
      | agentOs | team => exact .inl rfl
  | createSkill payload =>
    simp only [Metadata.handle, Metadata.createSkill, bind_eq_ok, pure_eq_ok] at h
    obtain ⟨-, -, -, -, -, -, rfl⟩ := h
    exact {}
  | updateSkill skillId payload =>
    simp only [Metadata.handle, Metadata.updateSkill, bind_eq_ok] at h
    obtain ⟨obj, -, h⟩ := h
    split at h
    · cases h
      exact {}
    · cases h
      exact {}
  | deleteSkill skillId now =>
    simp only [Metadata.handle, Metadata.deleteSkill, bind_eq_ok, pure_eq_ok] at h
    obtain ⟨obj, -, rfl⟩ := h
    exact {}
  | assignSkill agentId skillId =>
    obtain ⟨-, rfl⟩ := Metadata.assignSkill_ok h
    exact {}
  | unassignSkill agentId skillId =>
    cases h
    exact {}

/-! ## Histories -/

/-- The metadata change by metadata requests only. -/
theorem metadata_of_happen {store store' : Store} {activity : Activity}
    (h : activity.happen store = some store') :
    store'.db.metadata = store.db.metadata ∨
      ∃ req, activity = .define (.metadata req) ∧
        store.db.metadata.handle req = .ok store'.db.metadata := by
  cases activity with
  | serve env request =>
    -- No request that runs something writes metadata.
    rw [Activity.happen, Option.some.injEq] at h
    exact .inl (h ▸ (Request.served_reaches env store request).kept.metadata)
  | define req =>
    rw [Activity.happen, Option.map_eq_some_iff] at h
    obtain ⟨db, hdb, rfl⟩ := h
    have hhandle := DefinitionRequest.handle_of_succeed hdb
    cases req with
    | metadata req =>
      simp only [DefinitionRequest.handle, bind_eq_ok, pure_eq_ok] at hhandle
      obtain ⟨m, hm, rfl⟩ := hhandle
      exact .inr ⟨req, rfl, hm⟩
    -- A workflow's definition is none of the metadata.
    | createWorkflow scan payload =>
      obtain ⟨steps, -, -, -, rfl⟩ := createWorkflow_ok hhandle
      exact .inl rfl
    | updateWorkflow scan workflowId payload =>
      obtain ⟨-, -, -, -, ⟨-, rfl⟩ | ⟨steps, resolved, -, -, rfl⟩⟩ := updateWorkflow_ok hhandle
      · exact .inl rfl
      · exact .inl rfl
    | deleteWorkflow workflowId now =>
      obtain rfl := deleteWorkflow_ok hhandle
      exact .inl rfl

/-- The id of the entity that a context has at a level. -/
def ResolvedRuntimeContext.idAt (ctx : ResolvedRuntimeContext) : CapabilityLevel → Uuid
  | .agentOs => ctx.agentOs.id
  | .team => ctx.team.id
  | .agent => ctx.agent.id

/-! ## Deletion -/

/-- `DELETE` of an entity of a level. -/
def deletion (now : Civil.DateTime) (id : Uuid) : CapabilityLevel → MetadataRequest
  | .agentOs => .deleteAgentOs id now
  | .team => .deleteTeam id now
  | .agent => .deleteAgent id now

/-- The entity is stored, and deleted. -/
def Metadata.Retired (m : Metadata) (id : Uuid) : CapabilityLevel → Prop
  | .agentOs => ∃ r ∈ m.agentOs.rows, r.id = id ∧ isLive r = false
  | .team => ∃ r ∈ m.teams.rows, r.id = id ∧ isLive r = false
  | .agent => ∃ r ∈ m.agents.rows, r.id = id ∧ isLive r = false

section Deletion

variable {m m' : Metadata} {level : CapabilityLevel} {id : Uuid}

/-- What was looked up and marked is deleted. -/
private theorem exists_marked {α : Type} [SoftDelete α] {key : α → Uuid} {t : KeyedTable key}
    {entity : String} {obj : α} (f : α → α) (hf : ∀ r, key (f r) = key r)
    (hdead : ∀ r, isLive (f r) = false) (h : BaseRepository.getOr404 t entity id = .ok obj) :
    ∃ r ∈ (t.update (key obj) f hf).rows, key r = id ∧ isLive r = false := by
  obtain ⟨hmem, hkey, -⟩ := BaseRepository.getOr404_ok h
  exact ⟨f obj, KeyedTable.mem_rows_update.mpr ⟨obj, hmem, (if_pos rfl).symm⟩,
    (hf obj).trans hkey, hdead obj⟩

theorem retired_of_deletion {now : Civil.DateTime}
    (h : m.handle (deletion now id level) = .ok m') : m'.Retired id level := by
  cases level with
  | agentOs =>
    simp only [deletion, Metadata.handle, Metadata.deleteAgentOs, bind_eq_ok, pure_eq_ok] at h
    obtain ⟨obj, hobj, rfl⟩ := h
    exact exists_marked (fun r => { r with deletedAt := some now }) (fun _ => rfl)
      (fun _ => rfl) hobj
  | team =>
    simp only [deletion, Metadata.handle, Metadata.deleteTeam, bind_eq_ok, pure_eq_ok] at h
    obtain ⟨obj, hobj, rfl⟩ := h
    exact exists_marked (fun r => { r with deletedAt := some now }) (fun _ => rfl)
      (fun _ => rfl) hobj
  | agent =>
    simp only [deletion, Metadata.handle, Metadata.deleteAgent, bind_eq_ok, pure_eq_ok] at h
    obtain ⟨obj, hobj, rfl⟩ := h
    exact exists_marked (fun r => { r with deletedAt := some now }) (fun _ => rfl)
      (fun _ => rfl) hobj

private theorem StaysDeleted.exists_dead {α : Type} [SoftDelete α] {key : α → Uuid}
    {t t' : KeyedTable key} (hstays : StaysDeleted t t')
    (h : ∃ r ∈ t.rows, key r = id ∧ isLive r = false) :
    ∃ r ∈ t'.rows, key r = id ∧ isLive r = false := by
  obtain ⟨r, hr, rfl, hdead⟩ := h
  exact hstays r hr hdead

/-- No request brings it back. -/
theorem EntityChange.retired {req : MetadataRequest} (hchange : EntityChange m m' req)
    (h : m.Retired id level) : m'.Retired id level := by
  cases level with
  | agentOs => exact hchange.agentOs.exists_dead h
  | team => exact hchange.teams.exists_dead h
  | agent => exact hchange.agents.exists_dead h

/-- However the history goes on. -/
theorem retired_of_run {store store' : Store} {later : List Activity}
    (hlater : Runs.run Activity.happen store later = some store')
    (h : store.db.metadata.Retired id level) : store'.db.metadata.Retired id level := by
  refine Runs.invariant (P := fun s : Store => s.db.metadata.Retired id level)
    (fun s activity s' hs hstep => ?_) h hlater
  rcases metadata_of_happen hstep with hsame | ⟨req, -, hhandle⟩
  · rw [hsame]
    exact hs
  · exact (entityChange_of_handle hhandle).retired hs

/-- Keys are unique: a row that is found is not one that is deleted. -/
private theorem ne_of_usable {α : Type} [SoftDelete α] {key : α → Uuid} {t : KeyedTable key}
    {enabled : α → Bool} {r : α} (hr : Usable t enabled r)
    (h : ∃ r' ∈ t.rows, key r' = id ∧ isLive r' = false) : key r ≠ id := by
  intro hid
  obtain ⟨r', hr', hid', hdead⟩ := h
  have hsame : r = r' := t.eq_of_key_eq hr.stored hr' (hid.trans hid'.symm)
  rw [← hsame, hr.live] at hdead
  cases hdead

/-- A context that is resolved has no entity that is deleted. -/
theorem ResolvedRuntimeContext.Valid.idAt_ne {ctx : ResolvedRuntimeContext} (hctx : ctx.Valid m)
    (h : m.Retired id level) : ctx.idAt level ≠ id := by
  cases level with
  | agentOs =>
    show ctx.agentOs.id ≠ id
    exact ne_of_usable hctx.chain.usableOs h
  | team =>
    show ctx.team.id ≠ id
    exact ne_of_usable hctx.chain.usableTeam h
  | agent =>
    show ctx.agent.id ≠ id
    exact ne_of_usable hctx.usableAgent h

end Deletion

/-- Once an AgentOS, a team or an agent has been deleted, nothing brings it back into an execution:
    after any further requests, no call of the engine is for an agent that is it, or below it. -/
theorem deleted_never_executed {store deleted store' : Store} {level : CapabilityLevel} {id : Uuid}
    {now : Civil.DateTime} {later : List Activity}
    (hdelete : (Activity.define (.metadata (deletion now id level))).happen store = some deleted)
    (hlater : Runs.run Activity.happen deleted later = some store') (env : Env)
    (request : Request) :
    ∀ call ∈ (request.served env store').allCalls, ∀ ctx ∈ call.dispatch.agentContexts,
      ctx.idAt level ≠ id := by
  have hretired : deleted.db.metadata.Retired id level := by
    rw [Activity.happen, Option.map_eq_some_iff] at hdelete
    obtain ⟨db, hdb, rfl⟩ := hdelete
    have hhandle := DefinitionRequest.handle_of_succeed hdb
    simp only [DefinitionRequest.handle, bind_eq_ok, pure_eq_ok] at hhandle
    obtain ⟨m, hm, rfl⟩ := hhandle
    exact retired_of_deletion hm
  intro call hcall ctx hctx
  obtain ⟨scan, hresolves⟩ := calls_resolved env store' request call hcall
  exact (valid_of_resolves hresolves ctx hctx).idAt_ne (retired_of_run hlater hretired)

/-- The deployment, when the team's agents trigger the workflow as soon as they are called. -/
def TwoAgents.triggering : Env :=
  .triggering (fun _ => TwoAgents.deployment)
    (fun _ _ _ _ => [⟨⟨1, "onboarding", 1⟩, "Welcome alice"⟩]) 5 .default

/-- A team of two agents: after the second has been deleted and somebody has chatted, a chat is
    answered by two calls of the engine for other agents, one of them in a workflow that is
    triggered. -/
theorem deleted_never_executed_billing :
    ∃ store', Runs.run Activity.happen TwoAgents.store
        [.define (.metadata (.deleteAgent 2 Deployment.morning)),
          .serve TwoAgents.triggering (.chat TwoAgents.request)] = some store' ∧
      ((Request.chat TwoAgents.request).served TwoAgents.triggering store').allCalls.length = 2 ∧
      ∀ call ∈ ((Request.chat TwoAgents.request).served TwoAgents.triggering store').allCalls,
        ∀ ctx ∈ call.dispatch.agentContexts, ctx.agent.id ≠ 2 := by
  have hrun : (Runs.run Activity.happen TwoAgents.store
      [.define (.metadata (.deleteAgent 2 Deployment.morning)),
        .serve TwoAgents.triggering (.chat TwoAgents.request)]).map (fun store' =>
          ((Request.chat TwoAgents.request).served TwoAgents.triggering store').allCalls.length) =
      some 2 := by
    decide +kernel
  obtain ⟨store', hstore', hcalls⟩ := Option.map_eq_some_iff.mp hrun
  obtain ⟨deleted, hdelete, hlater⟩ := Runs.run_cons.mp hstore'
  exact ⟨store', hstore', hcalls,
    @deleted_never_executed _ _ _ .agent _ _ _ hdelete hlater TwoAgents.triggering _⟩

/-! ## Revocation -/

section Revocation

variable {m m' : Metadata} {level : CapabilityLevel} {target : Uuid} {code : String}

/-- An assignment gives the capability to the target. -/
def Activity.Grants (level : CapabilityLevel) (target : Uuid) (code : String) : Activity → Prop
  | .define (.metadata (.setAssignment level' target' codes)) =>
    level' = level ∧ target' = target ∧ code ∈ codes
  | _ => False

/-- After an assignment, the target has what was submitted. -/
theorem revoked_of_setAssignment {codes : List String} (hcode : code ∉ codes)
    (h : m.handle (.setAssignment level target codes) = .ok m') :
    (target, code) ∉ m'.capabilitiesAt level := by
  cases level with
  | agentOs =>
    simp only [Metadata.handle, Metadata.setAssignment, setAgentOsCapabilities, bind_eq_ok,
      pure_eq_ok] at h
    obtain ⟨-, -, rfl⟩ := h
    simp [Metadata.capabilitiesAt, hcode]
  | team =>
    simp only [Metadata.handle, Metadata.setAssignment, setTeamCapabilities, bind_eq_ok,
      pure_eq_ok] at h
    obtain ⟨-, -, rfl⟩ := h
    simp [Metadata.capabilitiesAt, hcode]
  | agent =>
    simp only [Metadata.handle, Metadata.setAssignment, setAgentCapabilities, bind_eq_ok,
      pure_eq_ok] at h
    obtain ⟨-, -, rfl⟩ := h
    simp [Metadata.capabilitiesAt, hcode]

/-- Only an assignment gives it back. -/
theorem EntityChange.revoked {req : MetadataRequest} (hchange : EntityChange m m' req)
    (hgrants : ¬(Activity.define (.metadata req)).Grants level target code)
    (h : (target, code) ∉ m.capabilitiesAt level) : (target, code) ∉ m'.capabilitiesAt level := by
  rcases hchange.capabilities level with hsame | ⟨target', codes, rfl, hset⟩
  · rw [hsame]
    exact h
  · rw [hset, mem_replaceLinks]
    split
    · next htarget => exact fun hcode => hgrants ⟨rfl, htarget.symm, hcode⟩
    · exact h

/-- However the history goes on, without such an assignment. -/
theorem revoked_of_run {store store' : Store} {later : List Activity}
    (hlater : Runs.run Activity.happen store later = some store')
    (hgrants : ∀ activity ∈ later, ¬activity.Grants level target code)
    (h : (target, code) ∉ store.db.metadata.capabilitiesAt level) :
    (target, code) ∉ store'.db.metadata.capabilitiesAt level := by
  refine Runs.throughout
    (P := fun s : Store => (target, code) ∉ s.db.metadata.capabilitiesAt level)
    (Q := fun _ activity => ¬activity.Grants level target code) h
    (fun s activity s' hs hstep hkept => ?_)
    (fun before activity s hinit _ => hgrants activity (hinit.subset (List.mem_append_right _
      (List.mem_singleton_self _)))) later store' (List.prefix_refl _) hlater
  rcases metadata_of_happen hstep with hsame | ⟨req, rfl, hhandle⟩
  · rw [hsame]
    exact hs
  · exact (entityChange_of_handle hhandle).revoked hkept hs

/-- The agent of a context determines the levels above it. -/
theorem ResolvedRuntimeContext.Valid.idAt_eq {ctx ctx' : ResolvedRuntimeContext}
    (hctx : ctx.Valid m) (hctx' : ctx'.Valid m) (hagent : ctx.agent = ctx'.agent) :
    ctx.idAt level = ctx'.idAt level := by
  have hteam : ctx.team = ctx'.team :=
    m.teams.eq_of_key_eq hctx.chain.usableTeam.stored hctx'.chain.usableTeam.stored
      (hctx.linked.symm.trans (hagent ▸ hctx'.linked))
  have hagentOs : ctx.agentOs = ctx'.agentOs :=
    m.agentOs.eq_of_key_eq hctx.chain.usableOs.stored hctx'.chain.usableOs.stored
      (hctx.chain.linked.symm.trans (hteam ▸ hctx'.chain.linked))
  cases level with
  | agentOs => exact congrArg AgentOS.id hagentOs
  | team => exact congrArg Team.id hteam
  | agent => exact congrArg Agent.id hagent

/-- What its AgentOS or its team does not have, an agent is not offered, whatever is assigned to
    itself and whatever its skills contribute. -/
theorem ResolvedRuntimeContext.Valid.notMem_effective {ctx : ResolvedRuntimeContext}
    (hctx : ctx.Valid m) (hlevel : level ≠ .agent) (htarget : ctx.idAt level = target)
    (h : (target, code) ∉ m.capabilitiesAt level) : code ∉ ctx.effectiveCapabilities := by
  intro hcode
  obtain ⟨hagentOs, hteam⟩ := hctx.mem_codes hcode
  subst htarget
  cases level with
  | agentOs => exact h (mem_linked.mp hagentOs)
  | team => exact h (mem_linked.mp hteam)
  | agent => exact hlevel rfl

end Revocation

/-- Once a capability has been taken from an AgentOS or a team, no agent below it is offered the
    tool: after any further requests, as long as no assignment gives it back, the MCP sessions of
    these agents that an execution enters are all filtered to other capabilities. -/
theorem revoked_never_offered {store revoked store' : Store} {level : CapabilityLevel}
    {target : Uuid} {codes : List String} {code : String} {later : List Activity}
    (hlevel : level ≠ .agent) (hcode : code ∉ codes)
    (hrevoke : (Activity.define (.metadata (.setAssignment level target codes))).happen store =
      some revoked)
    (hlater : Runs.run Activity.happen revoked later = some store')
    (hgrants : ∀ activity ∈ later, ¬activity.Grants level target code) (env : Env)
    (request : Request) :
    ∀ call ∈ (request.served env store').allCalls,
      ∀ agno m' streaming, ∀ entry ∈ sessionsEntered agno m' streaming call.args call.dispatch,
        ∀ ctx ∈ call.dispatch.agentContexts, ctx.agent = entry.1 → ctx.idAt level = target →
          ∃ offered, entry.2.includeTools = some offered ∧ code ∉ offered := by
  have hstart : (target, code) ∉ revoked.db.metadata.capabilitiesAt level := by
    rw [Activity.happen, Option.map_eq_some_iff] at hrevoke
    obtain ⟨db, hdb, rfl⟩ := hrevoke
    have hhandle := DefinitionRequest.handle_of_succeed hdb
    simp only [DefinitionRequest.handle, bind_eq_ok, pure_eq_ok] at hhandle
    obtain ⟨m, hm, rfl⟩ := hhandle
    exact revoked_of_setAssignment hcode hm
  have hkept := revoked_of_run hlater hgrants hstart
  intro call hcall agno m' streaming entry hentry ctx hctx hagent htarget
  obtain ⟨scan, hresolves⟩ := calls_resolved env store' request call hcall
  have hvalid := valid_of_resolves hresolves
  obtain ⟨own, hown, rfl⟩ := sessionsEntered_subset agno m' streaming call.args call.dispatch
    entry hentry
  have hsame : own.idAt level = target :=
    ((hvalid own hown).idAt_eq (hvalid ctx hctx) hagent.symm).trans htarget
  exact ⟨own.effectiveCapabilities, rfl, (hvalid own hown).notMem_effective hlevel hsame hkept⟩

/-- The team loses a capability that its AgentOS and its agents keep; then somebody chats, and the
    capability is assigned to an agent once more. -/
theorem revoked_never_offered_crm :
    ∃ store', Runs.run Activity.happen TwoAgents.store
        [.define (.metadata (.setAssignment .agentOs 1 ["crm.read", "crm.delete"])),
          .define (.metadata (.setAssignment .team 1 ["crm.read", "crm.delete"])),
          .define (.metadata (.setAssignment .team 1 ["crm.read"])),
          .serve TwoAgents.triggering (.chat TwoAgents.request),
          .define (.metadata (.setAssignment .agent 1 ["crm.delete"]))] = some store' ∧
      ((Request.chat TwoAgents.request).served TwoAgents.triggering store').allCalls.length = 2 ∧
      ∀ call ∈ ((Request.chat TwoAgents.request).served TwoAgents.triggering store').allCalls,
        ∀ agno m' streaming,
          ∀ entry ∈ sessionsEntered agno m' streaming call.args call.dispatch,
            ∀ ctx ∈ call.dispatch.agentContexts, ctx.agent = entry.1 → ctx.team.id = 1 →
              ∃ offered, entry.2.includeTools = some offered ∧ "crm.delete" ∉ offered := by
  -- The capability was granted, and offered, before it was taken from the team.
  have hrun : (Runs.run Activity.happen TwoAgents.store
      [.define (.metadata (.setAssignment .agentOs 1 ["crm.read", "crm.delete"])),
        .define (.metadata (.setAssignment .team 1 ["crm.read", "crm.delete"])),
        .define (.metadata (.setAssignment .team 1 ["crm.read"])),
        .serve TwoAgents.triggering (.chat TwoAgents.request),
        .define (.metadata (.setAssignment .agent 1 ["crm.delete"]))]).map (fun store' =>
          ((Request.chat TwoAgents.request).served TwoAgents.triggering store').allCalls.length) =
      some 2 := by
    decide +kernel
  obtain ⟨store', hstore', hcalls⟩ := Option.map_eq_some_iff.mp hrun
  obtain ⟨store₁, -, hrest⟩ := Runs.run_cons.mp hstore'
  obtain ⟨store₂, -, hrest⟩ := Runs.run_cons.mp hrest
  obtain ⟨revoked, hrevoke, hlater⟩ := Runs.run_cons.mp hrest
  -- What is assigned to the agent later does not bring it back.
  have hdropped : "crm.delete" ∉ ["crm.read"] := by decide
  have hteam : CapabilityLevel.team ≠ .agent := by decide
  refine ⟨store', hstore', hcalls, revoked_never_offered hteam hdropped hrevoke hlater
    (fun activity hactivity hgrants => ?_) TwoAgents.triggering _⟩
  rcases List.mem_pair.mp hactivity with rfl | rfl
  · exact hgrants
  · cases hgrants.1

end AgnoRuntime
