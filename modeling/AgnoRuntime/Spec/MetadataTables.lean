import AgnoRuntime.Model.MetadataApi

/-!
# What the metadata requests do to the tables

Each table of the hierarchy and of the skills has a code that is unique in a
scope: one request inserts a row with a new code, or edits rows without touching
their codes and scopes. No row is ever removed.
-/

namespace AgnoRuntime

open Except KeyedTable

/-- How a request changes the tables. -/
structure TablesChange (m m' : Metadata) : Prop where
  agentOs : TableChange AgentOS.code m.agentOs m'.agentOs := by exact .same
  teams : TableChange (fun r : Team => (r.agentOsId, r.code)) m.teams m'.teams := by exact .same
  agents : TableChange (fun r : Agent => (r.teamId, r.code)) m.agents m'.agents := by exact .same
  skills : TableChange Skill.code m.skills m'.skills := by exact .same

/-- A row whose scope and code no row has, deleted or not. -/
private theorem new_of_all {α β γ : Type} [DecidableEq β] [DecidableEq γ] {scope : α → β}
    {code : α → γ} {rows : List α} {b : β} {c : γ}
    (h : rows.all (fun r => scope r ≠ b || code r ≠ c) = true) (r : α) (hr : r ∈ rows) :
    (scope r, code r) ≠ (b, c) := by
  have hclash := List.all_eq_true.mp h r hr
  intro heq
  simp [(Prod.mk.inj heq).1, (Prod.mk.inj heq).2] at hclash

/-- Every successful request changes the tables so. -/
theorem tablesChange_of_handle {m m' : Metadata} {req : MetadataRequest}
    (h : m.handle req = .ok m') : TablesChange m m' := by
  -- A create inserts a row whose code the table does not have, the others change rows in place.
  cases req with
  | createAgentOs payload now =>
    simp only [Metadata.handle, Metadata.createAgentOs, bind_eq_ok, raiseUnless_eq_ok,
      pure_eq_ok] at h
    obtain ⟨-, -, -, -, -, hnew, -, -, -, -, rfl⟩ := h
    exact { agentOs := .inserted _ _ rfl fun r hr => by simpa using List.all_eq_true.mp hnew r hr }
  | updateAgentOs agentOsId payload =>
    simp only [Metadata.handle, Metadata.updateAgentOs, bind_eq_ok, pure_eq_ok] at h
    obtain ⟨obj, -, -, -, -, -, rfl⟩ := h
    exact { agentOs := .update _ _ _ (fun _ => by rfl) fun _ => by rfl }
  | deleteAgentOs agentOsId now =>
    simp only [Metadata.handle, Metadata.deleteAgentOs, bind_eq_ok, pure_eq_ok] at h
    obtain ⟨obj, -, rfl⟩ := h
    exact { agentOs := .update _ _ _ (fun _ => by rfl) fun _ => by rfl }
  | createTeam payload now =>
    simp only [Metadata.handle, Metadata.createTeam, bind_eq_ok, raiseUnless_eq_ok,
      pure_eq_ok] at h
    obtain ⟨-, -, -, -, -, -, -, hnew, -, -, rfl⟩ := h
    exact { teams := .inserted _ _ rfl (new_of_all hnew) }
  | updateTeam teamId payload =>
    simp only [Metadata.handle, Metadata.updateTeam, bind_eq_ok, pure_eq_ok] at h
    obtain ⟨obj, -, -, -, rfl⟩ := h
    exact { teams := .update _ _ _ (fun _ => by rfl) fun _ => by rfl }
  | deleteTeam teamId now =>
    simp only [Metadata.handle, Metadata.deleteTeam, bind_eq_ok, pure_eq_ok] at h
    obtain ⟨obj, -, rfl⟩ := h
    exact { teams := .update _ _ _ (fun _ => by rfl) fun _ => by rfl }
  | createAgent payload now =>
    simp only [Metadata.handle, Metadata.createAgent, bind_eq_ok, raiseUnless_eq_ok,
      pure_eq_ok] at h
    obtain ⟨-, -, -, -, -, -, -, hnew, -, -, -, -, rfl⟩ := h
    exact { agents := .inserted _ _ rfl (new_of_all hnew) }
  | updateAgent agentId payload =>
    simp only [Metadata.handle, Metadata.updateAgent, bind_eq_ok, pure_eq_ok] at h
    obtain ⟨obj, -, -, -, -, -, rfl⟩ := h
    exact { agents := .update _ _ _ (fun _ => by rfl) fun _ => by rfl }
  | deleteAgent agentId now =>
    simp only [Metadata.handle, Metadata.deleteAgent, bind_eq_ok, pure_eq_ok] at h
    obtain ⟨obj, -, rfl⟩ := h
    exact { agents := .update _ _ _ (fun _ => by rfl) fun _ => by rfl }
  | setAssignment level targetId codes =>
    cases level <;>
      simp only [Metadata.handle, Metadata.setAssignment,
        CapabilityRepository.setAgentOsCapabilities, CapabilityRepository.setTeamCapabilities,
        CapabilityRepository.setAgentCapabilities, bind_eq_ok, pure_eq_ok] at h <;>
      obtain ⟨-, -, rfl⟩ := h <;> exact {}
  | createSkill payload =>
    simp only [Metadata.handle, Metadata.createSkill, bind_eq_ok, raiseUnless_eq_ok,
      pure_eq_ok] at h
    obtain ⟨-, -, -, -, -, hnew, rfl⟩ := h
    exact { skills := .inserted _ _ rfl fun r hr => by simpa using List.all_eq_true.mp hnew r hr }
  | updateSkill skillId payload =>
    simp only [Metadata.handle, Metadata.updateSkill, bind_eq_ok] at h
    obtain ⟨obj, -, h⟩ := h
    split at h <;> cases h <;> exact { skills := .update _ _ _ (fun _ => by rfl) fun _ => by rfl }
  | deleteSkill skillId now =>
    simp only [Metadata.handle, Metadata.deleteSkill, bind_eq_ok, pure_eq_ok] at h
    obtain ⟨obj, -, rfl⟩ := h
    exact { skills := .update _ _ _ (fun _ => by rfl) fun _ => by rfl }
  | assignSkill agentId skillId =>
    obtain ⟨-, rfl⟩ := Metadata.assignSkill_ok h
    exact {}
  | unassignSkill agentId skillId =>
    cases h
    exact {}

end AgnoRuntime
