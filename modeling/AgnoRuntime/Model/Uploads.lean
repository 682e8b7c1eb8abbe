import Mathlib.Data.Rat.Defs
import AgnoRuntime.ForStd.Runs
import AgnoRuntime.ForStd.StableSort
import AgnoRuntime.ForStd.UuidText
import AgnoRuntime.Model.Attachments

/-!
# Uploaded files

`upload_and_extract` of `AttachmentService` (`app/attachments/service.py`), behind
`POST /attachments/upload`, and the extractor that it calls (`app/attachments/extractor.py`).

An upload first stores the file in the bucket, which no transaction undoes, then writes a row and
reads the file, and the row is committed at the end of the request. Other requests run in between,
so the uploads are a system whose steps interleave. The OCR service and the libraries that open
documents are parameters.
-/

namespace AgnoRuntime

/-- `AttachmentKind`. -/
inductive AttachmentKind where
  | image | pdf | docx | xlsx | other
deriving DecidableEq

/-- `_KIND_BY_MIME.get(mime_type, AttachmentKind.other)`. -/
def kindByMime (mimeType : String) : AttachmentKind :=
  if mimeType ∈ ["image/png", "image/jpeg", "image/jpg"] then .image
  else if mimeType = "application/pdf" then .pdf
  else if mimeType =
    "application/vnd.openxmlformats-officedocument.wordprocessingml.document" then .docx
  else if mimeType =
    "application/vnd.openxmlformats-officedocument.spreadsheetml.sheet" then .xlsx
  else .other

/-! ## The extractor -/

/-- A box of text that OCR has found, with its upper left corner. -/
structure OcrBox where
  x : ℚ
  y : ℚ
  text : Option String
deriving DecidableEq

/-- What the OCR service answers, as far as the extractor reads it; `malformed` is an answer that it
    fails on. -/
inductive OcrAnswer where
  | failed (exc : String)
  | malformed (error : PyError)
  | page (boxes : List OcrBox)
  | pages (pages : List (List OcrBox))
deriving DecidableEq

/-- What `raw` keeps of an answer. -/
inductive ExtractionRaw where
  | empty
  | page (boxes : List OcrBox)
  | pages (pages : List (List OcrBox))
deriving DecidableEq

/-- `ExtractionResult`. -/
structure ExtractionResult where
  ok : Bool
  text : String
  raw : ExtractionRaw
  error : Option String
deriving DecidableEq

/-- `ExtractionResult(ok=False, error=error)`. -/
def ExtractionResult.refused (error : String) : ExtractionResult := ⟨false, "", .empty, some error⟩

/-- A document as python-docx opens it: paragraphs, and tables of rows of cells. -/
structure Docx where
  paragraphs : List String
  tables : List (List (List String))

/-- A sheet as openpyxl opens it; a cell with a value is given as its `str`. -/
structure Sheet where
  title : String
  rows : List (List (Option String))

/-- `Document` and `load_workbook`; an exception is given as its `str`. -/
structure Parsers where
  docx : List UInt8 → Except String Docx
  xlsx : List UInt8 → Except String (List Sheet)

/-- `str(exc)` of the `OCRServiceError` that `_post_file` raises. -/
def ocrServiceError (path exc : String) : String :=
  "OCR service call failed (" ++ path ++ "): " ++ exc

/-- `(b["bbox"][1], b["bbox"][0])` of the first box is not the larger one. -/
def OcrBox.notAfter (a b : OcrBox) : Bool := a.y < b.y || (a.y = b.y && a.x ≤ b.x)

/-- The text of a box, if it has some. -/
def OcrBox.line? (b : OcrBox) : Option String := if truthy b.text then b.text else none

/-- The lines that `_render_boxes_as_text` joins; `sorted` is stable. -/
def boxLines (boxes : List OcrBox) : List String :=
  (boxes.insertionSort (StableSort.rel OcrBox.notAfter)).filterMap OcrBox.line?

/-- `_render_boxes_as_text`. -/
def renderBoxesAsText (boxes : List OcrBox) : String := "\n".intercalate (boxLines boxes)

namespace AttachmentExtractor

/-- `extract_image`. -/
def extractImage : OcrAnswer → Except PyError ExtractionResult
  | .failed exc => .ok (.refused (ocrServiceError "/ocr/image" exc))
  | .malformed error => .error error
  | .pages _ => .error (.other "'list' object has no attribute 'get'")
  | .page boxes =>
    let text := renderBoxesAsText boxes
    if strip text = "" then .ok (.refused "OCR trả về rỗng - không đọc được nội dung ảnh")
    else .ok ⟨true, text, .page boxes, none⟩

/-- The text of a page, under its number. -/
def pageText (page : List OcrBox × ℕ) : String :=
  "--- Trang " ++ toString (page.2 + 1) ++ " ---\n" ++ renderBoxesAsText page.1

/-- The result of `extract_pdf` for the pages of the answer. -/
def pdfResult (pages : List (List OcrBox)) : ExtractionResult :=
  ⟨true, "\n\n".intercalate (pages.zipIdx.map pageText), .pages pages, none⟩

/-- `extract_pdf`. -/
def extractPdf : OcrAnswer → Except PyError ExtractionResult
  | .failed exc => .ok (.refused (ocrServiceError "/ocr/pdf" exc))
  | .malformed error => .error error
  | .page boxes => .ok (pdfResult [boxes])
  | .pages pages => .ok (pdfResult pages)

/-- The `parts` of a document. -/
def docxParts (doc : Docx) : List String :=
  doc.paragraphs.filter (fun p => strip p ≠ "") ++
    doc.tables.flatMap fun table => table.map fun cells => " | ".intercalate cells

/-- The `parts` of a sheet. -/
def sheetParts (sheet : Sheet) : List String :=
  ("--- Sheet: " ++ sheet.title ++ " ---") ::
    (sheet.rows.filter fun row => row.any Option.isSome).map fun row =>
      " | ".intercalate (row.map fun cell => cell.getD "")

/-- A document that has been opened, or the exception. -/
def parsedResult {α : Type} (parts : α → List String) : Except String α → ExtractionResult
  | .error exc => .refused exc
  | .ok doc => ⟨true, "\n".intercalate (parts doc), .empty, none⟩

/-- `extract_docx`. -/
def extractDocx (parsers : Parsers) (fileBytes : List UInt8) : ExtractionResult :=
  parsedResult docxParts (parsers.docx fileBytes)

/-- `extract_xlsx`. -/
def extractXlsx (parsers : Parsers) (fileBytes : List UInt8) : ExtractionResult :=
  parsedResult (fun sheets => sheets.flatMap sheetParts) (parsers.xlsx fileBytes)

end AttachmentExtractor

/-! ## The upload -/

/-- A file as a client sends it, with the form fields of the request. -/
structure UploadFile where
  fileBytes : List UInt8
  filename : String
  contentType : Option String
  sessionId : Option Uuid
  userId : Option String
deriving DecidableEq

/-- `Attachment`, with the columns that only an upload writes. -/
structure AttachmentRow extends Attachment where
  sessionId : Option Uuid
  userId : Option String
  mimeType : String
  kind : AttachmentKind
  sizeBytes : ℕ
  storageBucket : String
  storageKey : String
  extractionRaw : Option ExtractionRaw
  errorMessage : Option String
deriving DecidableEq

/-- An object of the bucket. -/
structure StoredObject where
  key : String
  data : List UInt8
  contentType : Option String
deriving DecidableEq

/-- `key` of `MinioStorageClient.upload`. -/
def storageKey (uuid : Uuid) (filename : String) : String :=
  "attachments/" ++ UuidText.text uuid ++ "/" ++ filename

/-- `put_object`: an object of that name is replaced. -/
def putObject (objects : List StoredObject) (o : StoredObject) : List StoredObject :=
  o :: objects.filter fun o' => o'.key ≠ o.key

/-- `get_object`. -/
def getObject (objects : List StoredObject) (key : String) : Option StoredObject :=
  objects.find? fun o => o.key = key

namespace AttachmentService

/-- What the extractor gives for a file of a kind; `none` for a kind it does not read. -/
def extract (parsers : Parsers) (kind : AttachmentKind) (fileBytes : List UInt8)
    (ocr : OcrAnswer) : Except PyError (Option ExtractionResult) :=
  match kind with
  | .image => (AttachmentExtractor.extractImage ocr).map some
  | .pdf => (AttachmentExtractor.extractPdf ocr).map some
  | .docx => .ok (some (AttachmentExtractor.extractDocx parsers fileBytes))
  | .xlsx => .ok (some (AttachmentExtractor.extractXlsx parsers fileBytes))
  | .other => .ok none

/-- The row that `repo.create` writes. -/
def newAttachment (bucket : String) (file : UploadFile) (mimeType storageKey : String) (id : Uuid) :
    AttachmentRow where
  id := id
  filename := file.filename
  status := .processing
  extractedText := none
  sessionId := file.sessionId
  userId := file.userId
  mimeType := mimeType
  kind := kindByMime mimeType
  sizeBytes := file.fileBytes.length
  storageBucket := bucket
  storageKey := storageKey
  extractionRaw := none
  errorMessage := none

/-- The row of a file that could not be read. -/
def markFailed (row : AttachmentRow) (error : Option String) : AttachmentRow :=
  { row with status := .failed, errorMessage := error }

/-- What the row becomes by what the extractor gives; what is no `Exception` passes. -/
def settle (row : AttachmentRow) :
    Except PyError (Option ExtractionResult) → Except PyError AttachmentRow
  | .error e => if e.isException then .ok (markFailed row (some e.str)) else .error e
  | .ok none => .ok (markFailed row (some ("Không hỗ trợ loại file: " ++ row.mimeType)))
  | .ok (some result) =>
    if result.ok then
      .ok { row with
        status := .ready
        extractedText := some result.text
        extractionRaw := some result.raw }
    else .ok (markFailed row result.error)

end AttachmentService

namespace Uploads

/-- Where an upload stands. -/
inductive Phase where
  | received
  | stored (storageKey : String)
  | processing (row : AttachmentRow)
  | settled (row : AttachmentRow)
  | committed (row : AttachmentRow)
  | failed
deriving DecidableEq

/-- The committed rows. -/
abbrev AttachmentRows : Type := KeyedTable fun row : AttachmentRow => row.id

/-- The bucket, the committed rows, the UUIDs drawn so far and the uploads. -/
structure System (ι : Type) where
  objects : List StoredObject
  table : AttachmentRows
  drawn : List Uuid
  phase : ι → Phase

/-- A step of an upload. A statement, a commit or a call that fails ends the request, and so does
    the end of the process; the object may be in the bucket although `put_object` fails. -/
inductive Event (ι : Type) where
  | upload (i : ι) (uuid : Uuid)
  | create (i : ι) (id : Uuid)
  | extract (i : ι)
  | commit (i : ι)
  | fail (i : ι)
  | failedPut (i : ι) (uuid : Uuid)

section Step

variable {ι : Type} [DecidableEq ι] (parsers : Parsers) (bucket : String) (file : ι → UploadFile)
  (ocr : ι → OcrAnswer)

/-- Change where one upload stands. -/
def System.setPhase (s : System ι) (i : ι) (p : Phase) : System ι :=
  { s with phase := fun j => if j = i then p else s.phase j }

/-- The file in the bucket, under a name with a UUID that has not been drawn before. -/
def System.put (s : System ι) (i : ι) (uuid : Uuid) : System ι :=
  let o : StoredObject :=
    ⟨storageKey uuid (file i).filename, (file i).fileBytes, (file i).contentType⟩
  { s with objects := putObject s.objects o, drawn := uuid :: s.drawn }

/-- What the extractor gives for the file of an upload. -/
def outcome (i : ι) (mimeType : String) : Except PyError (Option ExtractionResult) :=
  AttachmentService.extract parsers (kindByMime mimeType) (file i).fileBytes (ocr i)

/-- `upload_and_extract`, in the parts between which other requests run. -/
def System.step (s : System ι) : Event ι → Option (System ι)
  | .upload i uuid =>
    match s.phase i with
    | .received =>
      if uuid ∈ s.drawn then none
      else some ((s.put file i uuid).setPhase i (.stored (storageKey uuid (file i).filename)))
    | _ => none
  | .create i id =>
    match s.phase i, (file i).contentType with
    -- `mime_type` is not nullable
    | .stored key, some mimeType =>
      if id ∈ s.drawn then none
      else
        let row := AttachmentService.newAttachment bucket (file i) mimeType key id
        some { s.setPhase i (.processing row) with drawn := id :: s.drawn }
    | _, _ => none
  | .extract i =>
    match s.phase i with
    | .processing row =>
      match AttachmentService.settle row (outcome parsers file ocr i row.mimeType) with
      | .ok row' => some (s.setPhase i (.settled row'))
      | .error _ => some (s.setPhase i .failed)
    | _ => none
  | .commit i =>
    match s.phase i with
    | .settled row =>
      (s.table.insert? row).map fun table => { s.setPhase i (.committed row) with table }
    | _ => none
  | .fail i =>
    match s.phase i with
    | .committed _ | .failed => none
    | _ => some (s.setPhase i .failed)
  | .failedPut i uuid =>
    match s.phase i with
    | .received =>
      if uuid ∈ s.drawn then none else some ((s.put file i uuid).setPhase i .failed)
    | _ => none

/-- No upload has begun. -/
def System.start : System ι := ⟨[], .empty, [], fun _ => .received⟩

end Step

/-- The rows as a prompt reads them. -/
def System.attachments {ι : Type} (s : System ι) : AttachmentTable :=
  ⟨s.table.rows.map (·.toAttachment), by
    rw [List.map_map]
    exact s.table.keysNodup⟩

/-! ## A scan and a document without text, uploaded at the same time -/

namespace Leave

def parsers : Parsers := ⟨fun _ => .ok ⟨["  "], []⟩, fun _ => .error "File is not a zip file"⟩

def file : Bool → UploadFile
  | false => ⟨[137, 80], "scan.png", some "image/png", none, some "alice"⟩
  | true => ⟨[80, 75], "blank.docx",
    some "application/vnd.openxmlformats-officedocument.wordprocessingml.document", none, none⟩

/-- The service does not answer in reading order. -/
def ocr (_ : Bool) : OcrAnswer :=
  .page [⟨50, 10, some "policy"⟩, ⟨10, 40, some "Ten days."⟩, ⟨10, 10, some "Leave"⟩, ⟨0, 0, none⟩]

def events : List (Event Bool) :=
  [.upload false 1, .upload true 2, .create true 3, .create false 4, .extract false, .commit false]

def later : List (Event Bool) := [.extract true, .commit true]

/-- The row of the scan. -/
def scanRow : AttachmentRow where
  id := 4
  filename := "scan.png"
  status := .ready
  extractedText := some "Leave\npolicy\nTen days."
  sessionId := none
  userId := some "alice"
  mimeType := "image/png"
  kind := .image
  sizeBytes := 2
  storageBucket := "attachments"
  storageKey := storageKey 1 "scan.png"
  extractionRaw := some (.page [⟨50, 10, some "policy"⟩, ⟨10, 40, some "Ten days."⟩,
    ⟨10, 10, some "Leave"⟩, ⟨0, 0, none⟩])
  errorMessage := none

end Leave

end Uploads

end AgnoRuntime
