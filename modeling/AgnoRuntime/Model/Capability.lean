import AgnoRuntime.ForStd.Except
import AgnoRuntime.Model.Hierarchy
import Mathlib.Data.Finset.Sort
import Mathlib.Data.String.Basic

/-!
# Capability resolution

`app/services/capability_service.py`: the effective capabilities of an agent
are the codes of its AgentOS, of its Team and of the agent itself that all
three have in common, where the agent's own codes include the ones its skills
contribute.
-/

namespace AgnoRuntime

/-- `CapabilityResolutionResult`; each list is sorted. -/
structure CapabilityResolutionResult where
  agentOsCapabilities : List String
  teamCapabilities : List String
  agentCapabilities : List String
  effectiveCapabilities : List String
deriving DecidableEq

namespace CapabilityService

open CapabilityRepository SkillRepository

/-- `direct_agent_caps | skill_caps`. -/
def effectiveAgentCaps (m : Metadata) (agentId : Uuid) : Finset String :=
  getAgentCapabilities m agentId ∪ getCapabilityCodesForAgent m agentId

/-- `agent_os_caps & team_caps & effective_agent_caps`. -/
def effective (m : Metadata) (agentOsId teamId agentId : Uuid) : Finset String :=
  getAgentOsCapabilities m agentOsId ∩ getTeamCapabilities m teamId ∩ effectiveAgentCaps m agentId

/-- `sorted` of a set of codes. -/
abbrev sorted (codes : Finset String) : List String := codes.sort

/-- `CapabilityService.resolve`. The three rows are read before any of them is checked. -/
def resolve (m : Metadata) (agentOsId teamId agentId : Uuid) :
    Except PyError CapabilityResolutionResult := do
  let agentOs := BaseRepository.get m.agentOs agentOsId
  let team := BaseRepository.get m.teams teamId
  let agent := BaseRepository.get m.agents agentId
  Except.raiseUnless (agentOs.any (·.enabled))
    (.capabilityResolution ("AgentOS " ++ UuidText.text agentOsId ++ " not found or disabled"))
  Except.raiseUnless (team.any (·.enabled))
    (.capabilityResolution ("Team " ++ UuidText.text teamId ++ " not found or disabled"))
  Except.raiseUnless (agent.any (·.enabled))
    (.capabilityResolution ("Agent " ++ UuidText.text agentId ++ " not found or disabled"))
  return {
    agentOsCapabilities := sorted (getAgentOsCapabilities m agentOsId)
    teamCapabilities := sorted (getTeamCapabilities m teamId)
    agentCapabilities := sorted (effectiveAgentCaps m agentId)
    effectiveCapabilities := sorted (effective m agentOsId teamId agentId) }

/-- What a successful `resolve` returns. -/
theorem effectiveCapabilities_of_resolve {m : Metadata} {agentOsId teamId agentId : Uuid}
    {r : CapabilityResolutionResult} (h : resolve m agentOsId teamId agentId = .ok r) :
    r.effectiveCapabilities = sorted (effective m agentOsId teamId agentId) := by
  simp only [resolve, Except.bind_eq_ok, Except.pure_eq_ok] at h
  obtain ⟨-, -, -, -, -, -, rfl⟩ := h
  rfl

/-- For rows that are live and enabled, `resolve` succeeds with the sorted intersection. -/
theorem resolve_of_live {m : Metadata} {os : AgentOS} {team : Team} {agent : Agent}
    (hos : os ∈ m.agentOs.rows) (hosLive : isLive os = true) (hosOn : os.enabled = true)
    (hteam : team ∈ m.teams.rows) (hteamLive : isLive team = true) (hteamOn : team.enabled = true)
    (hagent : agent ∈ m.agents.rows) (hagentLive : isLive agent = true)
    (hagentOn : agent.enabled = true) :
    (resolve m os.id team.id agent.id).map (·.effectiveCapabilities) =
      .ok (sorted (effective m os.id team.id agent.id)) := by
  simp only [resolve, BaseRepository.get_of_mem hos hosLive,
    BaseRepository.get_of_mem hteam hteamLive, BaseRepository.get_of_mem hagent hagentLive,
    Option.any_some, hosOn, hteamOn, hagentOn, Except.raiseUnless_true_bind]
  rfl

/-- The effective capabilities lie within the AgentOS's codes. -/
theorem effective_subset_agentOs (m : Metadata) (agentOsId teamId agentId : Uuid) :
    effective m agentOsId teamId agentId ⊆ getAgentOsCapabilities m agentOsId :=
  fun _ h => (Finset.mem_inter.mp (Finset.mem_inter.mp h).1).1

/-- The effective capabilities lie within the Team's codes. -/
theorem effective_subset_team (m : Metadata) (agentOsId teamId agentId : Uuid) :
    effective m agentOsId teamId agentId ⊆ getTeamCapabilities m teamId :=
  fun _ h => (Finset.mem_inter.mp (Finset.mem_inter.mp h).1).2

end CapabilityService

end AgnoRuntime
