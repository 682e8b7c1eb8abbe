import AgnoRuntime.ForStd.Phrases
import AgnoRuntime.Model.EngineRun
import AgnoRuntime.Model.Knowledge

/-!
# Attachments in the instructions

`render_for_prompt` (`app/attachments/service.py`), which writes the files that come with a message
into the prompt, and `_resolve_instructions` of the engine, which puts the attachments, the
knowledge and the prompt together. What `execute_for_agent` answers and `uuid.UUID` are parameters.
-/

namespace AgnoRuntime

/-- `AttachmentStatus`. -/
inductive AttachmentStatus where
  | uploaded | processing | ready | failed
deriving DecidableEq

/-- The values of the enumeration. -/
def AttachmentStatus.value : AttachmentStatus → String
  | uploaded => "UPLOADED"
  | processing => "PROCESSING"
  | ready => "READY"
  | failed => "FAILED"

/-- `Attachment`. -/
structure Attachment where
  id : Uuid
  filename : String
  status : AttachmentStatus
  extractedText : Option String
deriving DecidableEq

/-- The attachments. -/
abbrev AttachmentTable : Type := KeyedTable Attachment.id

/-- `AttachmentRepository.get_many`. -/
def AttachmentRepository.getMany (scan : ScanOrder Attachment) (attachments : AttachmentTable)
    (attachmentIds : List Uuid) : List Attachment :=
  scan.order (attachments.rows.filter fun a => a.id ∈ attachmentIds)

namespace AttachmentService

/-- `status != ready or not extracted_text` is false. -/
def isReadable (attachment : Attachment) : Bool :=
  attachment.status = .ready && truthy attachment.extractedText

/-- What is written of a file that could not be read. -/
def unreadableSection (attachment : Attachment) : String :=
  "[File đính kèm '" ++ attachment.filename ++ "': KHÔNG đọc được nội dung " ++
    ("(trạng thái: " ++ attachment.status.value ++ "). " ++
    "TUYỆT ĐỐI KHÔNG được tự suy đoán, bịa nội dung, hoặc tìm kiếm " ++
    "tài liệu khác thay thế cho file này. Hãy báo với người dùng rằng " ++
    "file chưa xử lý được và đề nghị họ tải lại.")

/-- The section of one requested file. -/
def renderSection (attachmentId : Uuid) : Option Attachment → String
  | none => "[File đính kèm " ++ UuidText.text attachmentId ++ ": KHÔNG TỒN TẠI trong hệ thống]"
  | some attachment =>
    if isReadable attachment then
      "[File đính kèm '" ++ attachment.filename ++ "']\n" ++ strip (attachment.extractedText.getD "")
    else unreadableSection attachment

theorem renderSection_none (attachmentId : Uuid) : renderSection attachmentId none =
    "[File đính kèm " ++ UuidText.text attachmentId ++ ": KHÔNG TỒN TẠI trong hệ thống]" := rfl

theorem renderSection_readable {attachment : Attachment} (h : isReadable attachment = true)
    (attachmentId : Uuid) : renderSection attachmentId (some attachment) =
      "[File đính kèm '" ++ attachment.filename ++ "']\n" ++
        strip (attachment.extractedText.getD "") := if_pos h

theorem renderSection_unreadable {attachment : Attachment} (h : ¬isReadable attachment = true)
    (attachmentId : Uuid) :
    renderSection attachmentId (some attachment) = unreadableSection attachment := if_neg h

/-- The line above the sections. -/
def contextHeader : String :=
  "=== NGỮ CẢNH FILE NGƯỜI DÙNG VỪA ĐÍNH KÈM (KHÔNG PHẢI Knowledge Base) ==="

/-- The line below the sections. -/
def contextFooter : String := "=== HẾT NGỮ CẢNH FILE ĐÍNH KÈM ==="

/-- `render_for_prompt`. -/
def renderForPrompt (scan : ScanOrder Attachment) (attachments : AttachmentTable)
    (attachmentIds : List Uuid) : String :=
  let found := AttachmentRepository.getMany scan attachments attachmentIds
  let sections := attachmentIds.map fun attachmentId =>
    renderSection attachmentId (found.find? fun a => a.id = attachmentId)
  if sections.isEmpty then ""
  else contextHeader ++ "\n" ++ ("\n\n".intercalate sections ++ "\n" ++ contextFooter)

end AttachmentService

namespace AgnoRuntimeEngine

/-- The phrase that `_resolve_instructions` looks for. -/
def unreadableMarker : String := "KHÔNG đọc được"

/-- The text that follows a blank line in `priority_note`. -/
def priorityText : String :=
  "LƯU Ý QUAN TRỌNG: Người dùng vừa đính kèm file trong tin nhắn này. " ++
    "Hãy ưu tiên trả lời dựa trên nội dung file đính kèm ở trên, KHÔNG tự động " ++
    "tìm kiếm hay trộn lẫn với tài liệu khác trong Knowledge Base trừ khi người " ++
    "dùng yêu cầu rõ ràng."

/-- `priority_note` where there is one. -/
def priorityNote : String := "\n\n" ++ priorityText

/-- The ids of the attachments; none where one of them is no UUID. -/
def attachmentIds (parseUuid : String → Option Uuid) (uiContext : Option UIContextFields) :
    List Uuid :=
  ((uiContext.bind (·.attachments)).bind fun raw => raw.mapM parseUuid).getD []

/-- `has_valid_attachment`. -/
def hasValidAttachment (attachmentIds : List Uuid) (attachmentContext : String) : Bool :=
  !attachmentIds.isEmpty && !decide (Phrase.Occurs unreadableMarker attachmentContext) &&
    attachmentContext ≠ ""

/-- The parts that are not empty, joined; without parts, the final prompt is empty as well. -/
def joinParts (parts : List String) : String :=
  "\n\n".intercalate (parts.filter (· ≠ ""))

/-- The texts that `_resolve_instructions` has, put together. -/
def composeInstructions (scan : ScanOrder Attachment) (attachments : AttachmentTable)
    (ids : List Uuid) (knowledgeContext finalPrompt : String) : String :=
  let attachmentContext :=
    if ids.isEmpty then "" else AttachmentService.renderForPrompt scan attachments ids
  let note := if hasValidAttachment ids attachmentContext then priorityNote else ""
  joinParts [attachmentContext, knowledgeContext, finalPrompt] ++ note

/-- `_resolve_instructions`. -/
def resolveInstructions (parseUuid : String → Option Uuid) (scan : ScanOrder Attachment)
    (attachments : AttachmentTable) (executeForAgent : Uuid → String → Except PyError String)
    (ctx : ResolvedRuntimeContext) (message : String) (uiContext : Option UIContextFields) :
    Except PyError String := do
  let knowledgeContext ← executeForAgent ctx.agent.id message
  return composeInstructions scan attachments (attachmentIds parseUuid uiContext) knowledgeContext
    ctx.finalPrompt

end AgnoRuntimeEngine

end AgnoRuntime
