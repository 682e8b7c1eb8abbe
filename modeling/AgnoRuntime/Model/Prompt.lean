import AgnoRuntime.Model.Hierarchy

/-!
# Prompt composition

`app/services/prompt_service.py`: the final prompt is one section for each
level that has a prompt, from the AgentOS down to the agent.
-/

namespace AgnoRuntime

namespace PromptCompositionService

/-- `_resolve_prompt_content`. -/
def resolvePromptContent (m : Metadata) (promptId : Option Uuid) : Option String :=
  promptId.bind fun id => (BaseRepository.get m.prompts id).map (·.content)

/-- One section; an absent or empty prompt contributes none. -/
def promptSection (heading code : String) (content : Option String) : List String :=
  match content with
  | some text => if text = "" then [] else ["# " ++ heading ++ " (" ++ code ++ ")\n" ++ text]
  | none => []

/-- The sections joined, or the default text when there is none. -/
def finalPrompt (sections : List String) (default : String) : String :=
  if sections.isEmpty then default else "\n\n".intercalate sections

/-- The section of the AgentOS. -/
def agentOsSection (m : Metadata) (agentOs : AgentOS) : List String :=
  promptSection "Organization Context" agentOs.code (resolvePromptContent m agentOs.sharedPromptId)

/-- The section of the Team. -/
def teamSection (m : Metadata) (team : Team) : List String :=
  promptSection "Team Context" team.code (resolvePromptContent m team.teamPromptId)

/-- The section of the Agent. -/
def agentSection (m : Metadata) (agent : Agent) : List String :=
  promptSection "Agent Instructions" agent.code (resolvePromptContent m agent.promptId)

/-- `compose`. -/
def compose (m : Metadata) (agentOs : AgentOS) (team : Team) (agent : Agent) : String :=
  finalPrompt (agentOsSection m agentOs ++ teamSection m team ++ agentSection m agent)
    ("You are " ++ agent.name ++ ", an agent within team " ++ team.name ++ ".")

/-- `compose_team_only`. -/
def composeTeamOnly (m : Metadata) (agentOs : AgentOS) (team : Team) : String :=
  finalPrompt (agentOsSection m agentOs ++ teamSection m team)
    ("You are the coordinator for team " ++ team.name ++ ". " ++
      "Delegate to your team members as appropriate and synthesize their responses.")

/-- `compose_root_only`. -/
def composeRootOnly (m : Metadata) (agentOs : AgentOS) : String :=
  finalPrompt (agentOsSection m agentOs)
    ("You are the router for this AgentOS. " ++
      "Inspect the incoming request and delegate it to the most appropriate team.")

end PromptCompositionService

end AgnoRuntime
