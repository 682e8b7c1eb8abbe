import AgnoRuntime.ForStd.Except
import AgnoRuntime.ForStd.JsonText
import AgnoRuntime.ForStd.Runs
import AgnoRuntime.Model.Base
import Mathlib.Data.List.Sort

/-!
# Agent memories

The table `agent_memories` (`app/models/memory.py`) and everything that writes
or reads it: `PlatformMemoryDb` (`app/agno_runtime/memory_db.py`), through
which Agno's memory manager keeps what it extracts, `MemoryService`
(`app/services/memory_service.py`), the tool `remember_fact`
(`app/agno_runtime/explicit_memory.py`) and `DELETE /memories/{id}`
(`app/api/v1/memories.py`).

Instants are microseconds since the epoch. An event of the table is one
committed call.
-/

namespace AgnoRuntime

/-- `MemoryType`. -/
inductive MemoryType where
  | conversation | summary | fact | preference | workingMemory
deriving DecidableEq

/-- `AgentMemory`; `source_memory_id` is NULL unless Agno made the memory. -/
structure AgentMemory where
  id : Uuid
  agentId : Uuid
  userId : Option String
  memoryType : MemoryType
  content : String
  sourceMemoryId : Option String
  createdAt : Int
  updatedAt : Int
deriving DecidableEq

abbrev MemoryTable := KeyedTable AgentMemory.id

/-- `MemoryRow`, as Agno passes memories in and out. -/
structure MemoryRow where
  id : String
  userId : Option String
  memory : Json.Dict
  lastUpdated : Option Int

/-! ## PlatformMemoryDb -/

namespace PlatformMemoryDb

/-- `agent_id = :agent_id AND source_memory_id = :source_id`. -/
def isSource (agentId : Uuid) (sourceId : String) (r : AgentMemory) : Bool :=
  r.agentId = agentId && r.sourceMemoryId = some sourceId

/-- `agent_id = :agent_id AND source_memory_id IS NOT NULL`. -/
def isSourced (agentId : Uuid) (r : AgentMemory) : Bool :=
  r.agentId = agentId && r.sourceMemoryId.isSome

/-- `clear`. -/
def clear (agentId : Uuid) (table : MemoryTable) : MemoryTable :=
  table.deleteWhere (isSourced agentId)

/-- `memory_exists`. -/
def memoryExists (agentId : Uuid) (memory : MemoryRow) (table : MemoryTable) : Bool :=
  table.rows.any (isSource agentId memory.id)

/-- The `WHERE` clause of `read_memories`. -/
def isRead (agentId : Uuid) (userId : Option String) (r : AgentMemory) : Bool :=
  isSourced agentId r && (userId.isNone || r.userId = userId)

/-- The memory of one selected row: its content as a dict, or wrapped as the
    memory when it is no JSON. An item cannot be assigned to a value that is no
    dict. -/
def readRow (r : AgentMemory) : Except PyError MemoryRow :=
  let sourceId := r.sourceMemoryId.getD ""
  let row (memory : Json.Dict) : MemoryRow :=
    { id := sourceId
      userId := r.userId
      memory := memory.setItem "memory_id" (Json.ofString sourceId)
      lastUpdated := some r.createdAt }
  match h : Json.loads r.content with
  | some (.obj members) => .ok (row ⟨members, Json.wellFormed_of_loads h⟩)
  | some _ => .error (.other "object does not support item assignment")
  | none =>
    .ok (row ⟨[("memory", .str r.content)], by simp [Json.WellFormed, Json.MembersWellFormed]⟩)

/-- The rows `read_memories` selects, in its order; `scan` is the order among
    rows created at one instant. -/
def readRows (scan : ScanOrder AgentMemory) (agentId : Uuid) (userId : Option String)
    (limit : Option Nat) (sort : Option String) (table : MemoryTable) : List AgentMemory :=
  let selected := scan.order (table.rows.filter (isRead agentId userId))
  let ordered :=
    if sort = some "desc" then selected.insertionSort (fun r r' => r'.createdAt ≤ r.createdAt)
    else selected.insertionSort (fun r r' => r.createdAt ≤ r'.createdAt)
  match limit with
  | some n => ordered.take n
  | none => ordered

/-- `read_memories`. -/
def readMemories (scan : ScanOrder AgentMemory) (agentId : Uuid) (userId : Option String)
    (limit : Option Nat) (sort : Option String) (table : MemoryTable) :
    Except PyError (List MemoryRow) :=
  (readRows scan agentId userId limit sort table).mapM readRow

/-- `upsert_memory`: update whatever row of the agent has the id, or insert one. -/
def upsertMemory (agentId : Uuid) (now : Int) (memory : MemoryRow) (table : MemoryTable) :
    MemoryTable :=
  let content := Json.dumps (.obj memory.memory.members)
  -- the row may belong to another user: its `user_id` is not compared, and stays
  if table.rows.any (isSource agentId memory.id) then
    table.updateWhere (isSource agentId memory.id)
      (fun r => { r with content := content, updatedAt := now }) (fun _ => rfl)
  else
    table.insertFresh (fun id =>
      { id
        agentId
        userId := memory.userId
        memoryType := .fact
        content
        sourceMemoryId := some memory.id
        createdAt := now
        updatedAt := now }) (fun _ => rfl)

/-- `delete_memory`. -/
def deleteMemory (agentId : Uuid) (memoryId : String) (table : MemoryTable) : MemoryTable :=
  table.deleteWhere (isSource agentId memoryId)

end PlatformMemoryDb

/-! ## MemoryService and its callers -/

namespace MemoryService

/-- `record`. `uq_agent_memory_source` holds among rows whose `user_id` and
    `source_memory_id` are not NULL. -/
def record (agentId : Uuid) (userId : Option String) (memoryType : MemoryType) (content : String)
    (sourceMemoryId : Option String) (now : Int) (table : MemoryTable) :
    Except PyError MemoryTable := do
  Except.raiseUnless
    (userId.isNone || sourceMemoryId.isNone || !table.rows.any fun r =>
      r.agentId = agentId && r.userId = userId && r.sourceMemoryId = sourceMemoryId)
    (.integrityError "uq_agent_memory_source")
  return table.insertFresh (fun id =>
    { id, agentId, userId, memoryType, content, sourceMemoryId
      createdAt := now
      updatedAt := now }) (fun _ => rfl)

/-- A `UserMemory` of Agno, as `sync_from_agno` reads it. -/
structure UserMemory where
  memoryId : Option String
  memory : Option String

/-- `get_by_source_memory_id`. -/
def getBySourceMemoryId (agentId : Uuid) (userId : String) (sourceId : String)
    (table : MemoryTable) : Except PyError (Option AgentMemory) :=
  scalarOneOrNone (table.rows.filter fun r =>
    r.agentId = agentId && r.userId = some userId && r.sourceMemoryId = some sourceId)

/-- One entry of `sync_from_agno`. -/
def syncEntry (agentId : Uuid) (userId : String) (now : Int) (table : MemoryTable)
    (um : UserMemory) : Except PyError MemoryTable := do
  match um.memory with
  -- an entry without a text is skipped
  | none | some "" => return table
  | some content =>
    if truthy um.memoryId then
      match ← getBySourceMemoryId agentId userId (um.memoryId.getD "") table with
      | some existing =>
        return table.update existing.id
          (fun r => { r with
            content := content
            updatedAt := if r.content = content then r.updatedAt else now }) (fun _ => rfl)
      | none => record agentId (some userId) .fact content um.memoryId now table
    else record agentId (some userId) .fact content um.memoryId now table

/-- `sync_from_agno`. -/
def syncFromAgno (agentId : Uuid) (userId : String) (agnoUserMemories : List UserMemory)
    (now : Int) (table : MemoryTable) : Except PyError MemoryTable :=
  agnoUserMemories.foldlM (syncEntry agentId userId now) table

end MemoryService

/-- `build_remember_tool`: the tool, for a user that is known. -/
def buildRememberTool (agentId : Uuid) (userId : Option String) :
    Option (String → Int → MemoryTable → Except PyError (MemoryTable × String)) :=
  if truthy userId then
    some fun fact now table => do
      let table ← MemoryService.record agentId userId .fact fact none now table
      return (table, "Đã ghi nhớ: " ++ fact)
  else none

/-- `DELETE /memories/{id}`. -/
def deleteMemoryById (memoryId : Uuid) (table : MemoryTable) : Except PyError MemoryTable :=
  match table.find? memoryId with
  | some _ => .ok (table.deleteWhere fun r => r.id = memoryId)
  | none => .error (.notFound ("AgentMemory with id=" ++ UuidText.text memoryId ++ " not found"))

/-! ## Histories -/

/-- A call through a `PlatformMemoryDb`, or a platform row made beside it. -/
inductive MemoryDbEvent where
  | upsert (agentId : Uuid) (memory : MemoryRow) (now : Int)
  | delete (agentId : Uuid) (memoryId : String)
  | clear (agentId : Uuid)
  | platformRow (agentId : Uuid) (userId : Option String) (memoryType : MemoryType)
      (content : String) (now : Int)

/-- The table after the call. -/
def MemoryDbEvent.apply (table : MemoryTable) : MemoryDbEvent → MemoryTable
  | upsert agentId memory now => PlatformMemoryDb.upsertMemory agentId now memory table
  | delete agentId memoryId => PlatformMemoryDb.deleteMemory agentId memoryId table
  | clear agentId => PlatformMemoryDb.clear agentId table
  | platformRow agentId userId memoryType content now =>
    match MemoryService.record agentId userId memoryType content none now table with
    | .ok table => table
    | .error _ => table

/-- The table after a history of calls, starting empty. -/
def MemoryDbEvent.table (events : List MemoryDbEvent) : MemoryTable :=
  events.foldl apply KeyedTable.empty

/-- What changes the memories of the platform. -/
inductive MemoryEvent where
  | db (event : MemoryDbEvent)
  | remember (agentId : Uuid) (userId : String) (fact : String) (now : Int)
  | sync (agentId : Uuid) (userId : String) (entries : List MemoryService.UserMemory) (now : Int)
  | forget (memoryId : Uuid)

/-- The table after an event; one that raises is rolled back. -/
def MemoryEvent.apply (table : MemoryTable) : MemoryEvent → MemoryTable
  | db event => event.apply table
  | remember agentId userId fact now =>
    match buildRememberTool agentId (some userId) with
    | some rememberFact =>
      match rememberFact fact now table with
      | .ok (table, _) => table
      | .error _ => table
    | none => table
  | sync agentId userId entries now =>
    match MemoryService.syncFromAgno agentId userId entries now table with
    | .ok table => table
    | .error _ => table
  | forget memoryId =>
    match deleteMemoryById memoryId table with
    | .ok table => table
    | .error _ => table

/-- The table after a history of events. -/
def MemoryEvent.run (table : MemoryTable) (events : List MemoryEvent) : MemoryTable :=
  events.foldl apply table

end AgnoRuntime
