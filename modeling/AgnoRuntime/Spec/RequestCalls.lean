import AgnoRuntime.Spec.FailedRuns
import AgnoRuntime.Spec.Openings

/-!
# What a request decides and calls

An entry point opens a turn or a run and then executes it: the decisions about its
session and the calls of the engine are those of what it opens, and of the workflows
that its agents trigger. `EntryFrame` collects what a relation must allow to hold
from the first statement of a request to its last; `CallsSatisfy` and `Deciding` are
the two that the claims about calls and sessions use.

## Key results

- `EntryFrame.chat`, `EntryFrame.runWorkflow`, `EntryFrame.runExecutionPlan` and their
  streaming twins: a request keeps the relation if what it opens does
- `entryFrame_deciding`: whatever tools do for a call concerns the session and the user
  of the call
-/

namespace AgnoRuntime

open Svc Prog

variable {env : Env} {P : EngineCall → Prop} {D : SessionDecision → Prop}

/-! ## Whole requests -/

/-- A relation that allows everything a request does: decisions that satisfy `D` and calls that
    satisfy `P`, and what goes with them. -/
structure EntryFrame (P : EngineCall → Prop) (D : SessionDecision → Prop)
    (R : World → World → Prop) : Prop extends StreamFrame P R, OpenFrame D R

/-- The calls of the turns that the request opens in the tables of `db` satisfy `P`. -/
def TurnsSatisfy (env : Env) (db : Db) (payload : ChatRequest) (P : EngineCall → Prop) : Prop :=
  ∀ w w₁ w₂ dispatch turn uiContext, w.working = db →
    ChatService.resolveDispatch env (ChatService.resolveIdentity env payload).1 w =
      (.ok dispatch, w₁) →
    ChatService.openTurn env (ChatService.resolveIdentity env payload).1
      (ChatService.resolveIdentity env payload).2 dispatch w₁ = (.ok turn, w₂) →
    P ⟨turn.dispatch, turn.args uiContext⟩

/-- The calls of the runs that the request opens in the tables of `db` satisfy `P`. -/
def RunsSatisfy (env : Env) (db : Db) (workflowId : Uuid) (payload : WorkflowRunRequest)
    (P : EngineCall → Prop) : Prop :=
  ∀ w w₁ opened, w.working = db →
    WorkflowExecutionService.openRun env workflowId payload w = (.ok opened, w₁) →
    CallsOf P opened.context.sessionId opened.context.userId

section EntryFrame

variable {R : World → World → Prop} [Std.Refl R] [IsTrans World R] {w : World}

section Chat

open ChatService

variable {payload : ChatRequest}
  (hD : Decides D w.working payload.sessionId ((Request.chat payload).effectiveUserId env))
  (hturns : TurnsSatisfy env w.working payload P)

include hD hturns

theorem EntryFrame.chat (hR : EntryFrame P D R) :
    R w ((Request.chat payload).handle env w).2 := by
  refine hR.toSessionFrame.getDb_rel ?_
  rw [handleChat_eq, map_bind]
  refine rel_bind ?_ fun opened w₁ _ => keeps_map _ (hR.toSessionFrame.endTurn _ _) w₁
  refine rel_bind (hR.toSessionFrame.writes (onlyWrites_fetch _) _) fun dispatch w₁ hfetch => ?_
  obtain ⟨-, -, rfl⟩ := fetch_eq_ok hfetch
  refine rel_bind (hR.toOpenFrame.openTurn hD _ _) fun turn w₂ hopen => ?_
  exact (keeps_bind (hR.toSessionFrame.writes (onlyWrites_markRunning _)) fun _ =>
    keeps_bind (hR.toFrame.execute turn fun ui => hturns _ _ _ _ _ ui rfl hfetch hopen) fun _ =>
      keeps_pure _) w₂

theorem EntryFrame.chatStream (hR : EntryFrame P D R) :
    R w ((Request.chatStream payload).handle env w).2 := by
  refine rel_bind (hR.toSessionFrame.streamed_rel ?_) fun _ w₁ _ => keeps_pure _ w₁
  refine rel_bind (hR.toSessionFrame.writes (onlyWrites_fetch _) _) fun dispatch w₁ hfetch => ?_
  obtain ⟨-, -, rfl⟩ := fetch_eq_ok hfetch
  refine rel_bind (rel_bind (hR.toOpenFrame.openTurn hD _ _) fun turn w₂ _ => ?_)
    fun turn w₂ hbegin => ?_
  · exact (keeps_bind hR.toSessionFrame.commits fun _ =>
      keeps_bind (hR.toSessionFrame.writes (onlyWrites_markRunning _)) fun _ =>
        keeps_bind hR.toSessionFrame.commits fun _ => keeps_pure _) w₂
  · -- the turn that goes on is the one that was opened
    obtain ⟨turn', w₃, hopen, hrest⟩ := bind_eq_ok.mp hbegin
    obtain ⟨-, w₄, -, hrest⟩ := bind_eq_ok.mp hrest
    obtain ⟨-, w₅, -, hrest⟩ := bind_eq_ok.mp hrest
    obtain ⟨-, w₆, -, hrest⟩ := bind_eq_ok.mp hrest
    rw [pure_apply, Prod.mk.injEq, Except.ok.injEq] at hrest
    rw [← hrest.1]
    exact hR.toStreamFrame.continueStream turn' (hturns _ _ _ _ _ _ rfl hfetch hopen) w₂

end Chat

section Workflows

open WorkflowExecutionService

variable {workflowId : Uuid} {payload : WorkflowRunRequest}
  (hD : ∀ found, findWorkflow w.working workflowId = .ok found →
    Decides D w.working payload.sessionId payload.userId)
  (hruns : RunsSatisfy env w.working workflowId payload P)

include hD hruns

theorem EntryFrame.runWorkflow_rel (hR : EntryFrame P D R) :
    R w (WorkflowExecutionService.runWorkflow env workflowId payload w).2 := by
  refine rel_bind (hR.toOpenFrame.openRun hD) fun opened w₁ hopen => ?_
  exact (keeps_bind (hR.toSessionFrame.writes (onlyWrites_workflow_markRunning _))
    fun _ => keeps_bind (hR.toFrame.executeRun opened _ (hruns _ _ _ rfl hopen)) fun _ =>
      keeps_bind (hR.toSessionFrame.writes (onlyWrites_completeRun _ _)) fun _ => keeps_pure _) w₁

theorem EntryFrame.runWorkflow (hR : EntryFrame P D R) :
    R w ((Request.runWorkflow workflowId payload).handle env w).2 := by
  refine hR.toSessionFrame.getDb_rel ?_
  rw [map_eq_pure_bind]
  exact rel_bind (hR.runWorkflow_rel hD hruns) fun _ w₁ _ => keeps_pure _ w₁

theorem EntryFrame.runWorkflowStream (hR : EntryFrame P D R) :
    R w ((Request.runWorkflowStream workflowId payload).handle env w).2 := by
  refine rel_bind (hR.toSessionFrame.streamed_rel ?_) fun _ w₁ _ => keeps_pure _ w₁
  refine rel_bind (rel_bind (hR.toOpenFrame.openRun hD) fun opened w₁ _ => ?_)
    fun opened w₁ hbegin => ?_
  · exact (keeps_bind hR.toSessionFrame.commits fun _ =>
      keeps_bind (hR.toSessionFrame.writes (onlyWrites_workflow_markRunning _)) fun _ =>
        keeps_bind hR.toSessionFrame.commits fun _ => keeps_pure _) w₁
  · obtain ⟨opened', w₂, hopen, hrest⟩ := bind_eq_ok.mp hbegin
    obtain ⟨-, w₃, -, hrest⟩ := bind_eq_ok.mp hrest
    obtain ⟨-, w₄, -, hrest⟩ := bind_eq_ok.mp hrest
    obtain ⟨-, w₅, -, hrest⟩ := bind_eq_ok.mp hrest
    rw [pure_apply, Prod.mk.injEq, Except.ok.injEq] at hrest
    rw [← hrest.1]
    exact hR.toStreamFrame.continueRun opened' _ (hruns _ _ _ rfl hopen) w₁

end Workflows

theorem EntryFrame.runExecutionPlan (hR : EntryFrame P D R) {payload : ExecutionPlanRunRequest}
    (hcalls : ExecutionPlans.requireEnabled env.settings = .ok () →
      CallsOf P (payload.sessionId.getD w.working.chatSessions.freshKey) payload.userId) :
    R w ((Request.runExecutionPlan payload).handle env w).2 := by
  refine hR.toSessionFrame.getDb_rel ?_
  rw [ExecutionPlans.runExecutionPlan, map_bind]
  refine rel_bind (keeps_lift _ _) fun _ w₁ henabled => ?_
  rw [lift_apply, Prod.mk.injEq] at henabled
  obtain ⟨henabled, rfl⟩ := henabled
  rw [map_bind, bind_apply_ok (read_apply _)]
  exact keeps_map _ (hR.toFrame.runPlan _ _ _ (hcalls henabled)) _

end EntryFrame

/-! ## The calls of a request -/

/-- The calls of the engine since then satisfy `P`. -/
def CallsSatisfy (P : EngineCall → Prop) (w w' : World) : Prop :=
  ∃ new, w'.engineCalls = w.engineCalls ++ new ∧ ∀ call ∈ new, P call

theorem callsSatisfy_of_eq {w w' : World} (h : w'.engineCalls = w.engineCalls) :
    CallsSatisfy P w w' :=
  ⟨[], by rw [h, List.append_nil], fun _ hcall => by cases hcall⟩

instance : Std.Refl (CallsSatisfy P) := ⟨fun _ => callsSatisfy_of_eq rfl⟩

instance : IsTrans World (CallsSatisfy P) := by
  constructor
  intro w w' w'' h h'
  obtain ⟨new, heq, hnew⟩ := h
  obtain ⟨new', heq', hnew'⟩ := h'
  refine ⟨new ++ new', by rw [heq', heq, List.append_assoc], fun call hcall => ?_⟩
  rcases List.mem_append.mp hcall with hcall | hcall
  · exact hnew call hcall
  · exact hnew' call hcall

/-- Everything but a call that does not satisfy `P` is allowed. -/
theorem entryFrame_callsSatisfy : EntryFrame P (fun _ => True) (CallsSatisfy P) where
  onlyWrites _ _ h := callsSatisfy_of_eq h.engineCalls
  call _ c hc := ⟨[c], rfl, fun _ hc' => List.mem_singleton.mp hc' ▸ hc⟩
  tools _ _ _ _ _ := callsSatisfy_of_eq rfl
  raised _ _ := callsSatisfy_of_eq rfl
  commit _ := callsSatisfy_of_eq rfl
  rolledBack _ := callsSatisfy_of_eq rfl
  redis _ _ _ := callsSatisfy_of_eq rfl
  yielded _ _ := callsSatisfy_of_eq rfl
  noted _ _ _ := callsSatisfy_of_eq rfl
  inserted _ _ _ _ _ := callsSatisfy_of_eq rfl

/-! ## What is decided about sessions -/

/-- Every decision about the session of the call, for its user, satisfies `D`. -/
def DecidesCall (D : SessionDecision → Prop) (call : EngineCall) : Prop :=
  ∀ d : SessionDecision, d.On call.args.sessionId call.args.userId → D d

/-- A session that was there, or one that a decision satisfying `D` has created. -/
def SessionsBy (base : Db) (D : SessionDecision → Prop) (db : Db) : Prop :=
  ∀ s ∈ db.chatSessions.rows, s ∈ base.chatSessions.rows ∨ D (.created s.id s.userId)

/-- Since then all decisions satisfy `D`, all calls are about sessions for which they do, and where
    the sessions were those of `base` the new ones were created by such decisions. -/
structure Deciding (base : Db) (D : SessionDecision → Prop) (w w' : World) : Prop where
  calls : ∀ call ∈ w'.allCalls, call ∈ w.allCalls ∨ DecidesCall D call
  decisions : ∀ d ∈ w'.allDecisions, d ∈ w.allDecisions ∨ D d
  sessions : SessionsBy base D w.committed ∧ SessionsBy base D w.working →
    SessionsBy base D w'.committed ∧ SessionsBy base D w'.working

namespace Deciding

variable {base : Db} {w w' : World}

theorem refl (w : World) : Deciding base D w w :=
  ⟨fun _ h => .inl h, fun _ h => .inl h, fun h => h⟩

theorem trans {w'' : World} (h : Deciding base D w w') (h' : Deciding base D w' w'') :
    Deciding base D w w'' where
  calls call hcall := (h'.calls call hcall).elim (h.calls call) .inr
  decisions d hd := (h'.decisions d hd).elim (h.decisions d) .inr
  sessions hw := h'.sessions (h.sessions hw)

instance : Std.Refl (Deciding base D) := ⟨refl⟩

instance : IsTrans World (Deciding base D) := ⟨fun _ _ _ => trans⟩

/-- Where nothing is called or decided. -/
theorem of_sessions (hcalls : w'.allCalls = w.allCalls) (hdecisions : w'.allDecisions = w.allDecisions)
    (hsessions : SessionsBy base D w.committed ∧ SessionsBy base D w.working →
      SessionsBy base D w'.committed ∧ SessionsBy base D w'.working) : Deciding base D w w' :=
  ⟨fun _ hcall => .inl (hcalls ▸ hcall), fun _ hd => .inl (hdecisions ▸ hd), hsessions⟩

end Deciding

/-- The sessions are looked at alone. -/
theorem SessionsBy.of_setting {base db db' : Db} (h : SessionsBy base D db)
    (hsetting : db'.setting = db.setting) : SessionsBy base D db' := by
  have hsessions : db'.chatSessions = db.chatSessions := congrArg Prod.snd hsetting
  rw [SessionsBy, hsessions]
  exact h

/-! ### What is noted -/

section Noted

variable {w : World} {call : EngineCall} {d : SessionDecision}

theorem World.mem_allCalls_called (c : EngineCall) :
    call ∈ World.allCalls { w with engineCalls := w.engineCalls ++ [c] } ↔
      call ∈ w.allCalls ∨ call = c := by
  simp only [World.allCalls, List.mem_append, List.mem_singleton]
  exact or_right_comm

theorem World.mem_allCalls_tooled {args : RunArgs} (writes : ToolWrites args) :
    call ∈ (w.tooled writes).allCalls ↔ call ∈ w.allCalls ∨ call ∈ writes.calls w.working := by
  simp only [World.allCalls, World.tooled, List.mem_append, or_assoc]

theorem World.mem_allDecisions_noted (d' : SessionDecision) :
    d ∈ World.allDecisions { w with decisions := w.decisions ++ [d'] } ↔
      d ∈ w.allDecisions ∨ d = d' := by
  simp only [World.allDecisions, List.mem_append, List.mem_singleton]
  exact or_right_comm

theorem World.mem_allDecisions_tooled {args : RunArgs} (writes : ToolWrites args) :
    d ∈ (w.tooled writes).allDecisions ↔
      d ∈ w.allDecisions ∨ d ∈ writes.decisions w.working := by
  simp only [World.allDecisions, World.tooled, List.mem_append, or_assoc]

end Noted

/-- Decisions that satisfy `D` and calls about their sessions: tools decide and call for the session
    and the user of the call in which they are used. -/
theorem entryFrame_deciding {base : Db} : EntryFrame (DecidesCall D) D (Deciding base D) where
  onlyWrites w w' h := by
    refine .of_sessions ?_ ?_ fun hw => ⟨h.committed ▸ hw.1, hw.2.of_setting h.setting⟩
    · rw [World.allCalls, h.engineCalls, h.toolCalls, World.allCalls]
    · rw [World.allDecisions, h.decisions, h.toolDecisions, World.allDecisions]
  call w c hc := by
    refine ⟨fun call hcall => ?_, fun d hd => .inl hd, fun hw => hw⟩
    obtain hold | rfl := (World.mem_allCalls_called c).mp hcall
    · exact .inl hold
    · exact .inr hc
  tools w dispatch args writes hc := by
    refine ⟨fun call hcall => ?_, fun d hd => ?_, fun hw => ⟨hw.1, fun s hs => ?_⟩⟩
    · obtain hold | hnew := (World.mem_allCalls_tooled writes).mp hcall
      · exact .inl hold
      · -- the call of a triggered workflow is for the same session and user
        have hnested := writes.nested _ call hnew
        refine .inr fun d hd => hc d ?_
        rw [hnested.sessionId, hnested.userId] at hd
        exact hd
    · exact ((World.mem_allDecisions_tooled writes).mp hd).imp_right fun hnew =>
        hc d (writes.decided _ d hnew)
    · rcases (writes.kept w.working).newSessions s hs with hold | hnew
      · exact hw.2 s hold
      · exact .inr (hc _ (.inr (.inr (by rw [hnew.1, hnew.2]))))
  raised _ _ := .of_sessions rfl rfl fun hw => hw
  commit _ := .of_sessions rfl rfl fun hw => ⟨hw.2, hw.2⟩
  rolledBack _ := .of_sessions rfl rfl fun hw => ⟨hw.1, hw.1⟩
  redis _ _ _ := .of_sessions rfl rfl fun hw => hw
  yielded _ _ := .of_sessions rfl rfl fun hw => hw
  noted w d hd := by
    refine ⟨fun call hcall => .inl hcall, fun d' hd' => ?_, fun hw => hw⟩
    obtain hold | rfl := (World.mem_allDecisions_noted d).mp hd'
    · exact .inl hold
    · exact .inr hd
  inserted w row table hd hinsert := by
    refine .of_sessions rfl rfl fun hw => ⟨hw.1, fun s hs => ?_⟩
    have hs' : s ∈ table.rows := hs
    rw [(KeyedTable.rows_of_insert? hinsert).2] at hs'
    rcases List.mem_append.mp hs' with hold | hnew
    · exact hw.2 s hold
    · exact .inr (List.mem_singleton.mp hnew ▸ hd)

end AgnoRuntime
