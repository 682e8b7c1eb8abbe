import AgnoRuntime.Model.Uploads
import AgnoRuntime.Spec.AttachmentNotes

/-!
# What becomes of uploaded files

An upload writes to two stores, and only one of them has transactions. Whatever fails, and however
the uploads interleave, every committed row is settled, and the bucket has its file; the other way
round an object may be left without a row. A row and its object stay as they are, and every later
prompt shows of a file what reading it gave.

What reading a file gives is said without the code: `Reads`. For an image it is the texts that OCR
has found, in the order in which one reads them.
-/

namespace AgnoRuntime

open StableSort

/-! ## Reading files -/

/-- The texts of the boxes from top to bottom, and from left to right where they start at the same
    height. -/
def InReadingOrder (boxes : List OcrBox) (lines : List String) : Prop :=
  ∃ order, StablySorted OcrBox.notAfter boxes order ∧ lines = order.filterMap OcrBox.line?

/-- `text` is what a file of the kind says. -/
inductive Reads (parsers : Parsers) (fileBytes : List UInt8) (ocr : OcrAnswer) :
    AttachmentKind → String → Prop where
  | image {boxes : List OcrBox} {lines : List String} (hocr : ocr = .page boxes)
      (horder : InReadingOrder boxes lines) (hblank : strip ("\n".intercalate lines) ≠ "") :
      Reads parsers fileBytes ocr .image ("\n".intercalate lines)
  | pdf {pages : List (List OcrBox)} {texts : List (List String)}
      (hocr : ocr = .pages pages ∨ ∃ boxes, ocr = .page boxes ∧ pages = [boxes])
      (horder : List.Forall₂ InReadingOrder pages texts) :
      Reads parsers fileBytes ocr .pdf ("\n\n".intercalate (texts.zipIdx.map fun page =>
        "--- Trang " ++ toString (page.2 + 1) ++ " ---\n" ++ "\n".intercalate page.1))
  | docx {doc : Docx} (hdoc : parsers.docx fileBytes = .ok doc) :
      Reads parsers fileBytes ocr .docx ("\n".intercalate (AttachmentExtractor.docxParts doc))
  | xlsx {sheets : List Sheet} (hsheets : parsers.xlsx fileBytes = .ok sheets) :
      Reads parsers fileBytes ocr .xlsx
        ("\n".intercalate (sheets.flatMap AttachmentExtractor.sheetParts))

theorem notAfter_iff {a b : OcrBox} :
    a.notAfter b = true ↔ a.y < b.y ∨ a.y = b.y ∧ a.x ≤ b.x := by
  simp [OcrBox.notAfter]

theorem notAfter_trans (a b c : OcrBox) (hab : a.notAfter b = true) (hbc : b.notAfter c = true) :
    a.notAfter c = true := by
  rw [notAfter_iff] at *
  grind

theorem notAfter_total (a b : OcrBox) : (a.notAfter b || b.notAfter a) = true := by
  rw [Bool.or_eq_true, notAfter_iff, notAfter_iff]
  grind

/-- The lines that are joined are those in reading order, and there are no others. -/
theorem inReadingOrder_iff {boxes : List OcrBox} {lines : List String} :
    InReadingOrder boxes lines ↔ lines = boxLines boxes := by
  simp only [InReadingOrder, stablySorted_iff notAfter_trans notAfter_total, exists_eq_left,
    boxLines]

/-- The same for the pages of a document. -/
theorem forall₂_inReadingOrder_iff {pages : List (List OcrBox)} {texts : List (List String)} :
    List.Forall₂ InReadingOrder pages texts ↔ texts = pages.map boxLines := by
  constructor
  · intro h
    induction h with
    | nil => rfl
    | cons hpage _ ih => rw [inReadingOrder_iff.mp hpage, ih, List.map_cons]
  · rintro rfl
    induction pages with
    | nil => exact .nil
    | cons page pages ih => exact .cons (inReadingOrder_iff.mpr rfl) ih

/-- The text of a result that is `ok`. -/
def textFound : Except PyError (Option ExtractionResult) → Option String
  | .ok (some result) => if result.ok then some result.text else none
  | .ok none | .error _ => none

theorem pdfResult_text (pages : List (List OcrBox)) :
    (AttachmentExtractor.pdfResult pages).text =
      "\n\n".intercalate ((pages.map boxLines).zipIdx.map fun page =>
        "--- Trang " ++ toString (page.2 + 1) ++ " ---\n" ++ "\n".intercalate page.1) := by
  rw [AttachmentExtractor.pdfResult, List.zipIdx_map, List.map_map]
  rfl

/-- A document that is opened has a text. -/
theorem parsedResult_text {α : Type} {parts : α → List String} {parsed : Except String α}
    {text : String} :
    textFound (.ok (some (AttachmentExtractor.parsedResult parts parsed))) = some text ↔
      ∃ doc, parsed = .ok doc ∧ "\n".intercalate (parts doc) = text := by
  cases parsed with
  | error exc => simp [AttachmentExtractor.parsedResult, ExtractionResult.refused, textFound]
  | ok doc => simp [AttachmentExtractor.parsedResult, textFound]

/-- A document that is not says why. -/
theorem parsedResult_error {α : Type} {parts : α → List String} {parsed : Except String α}
    (hok : (AttachmentExtractor.parsedResult parts parsed).ok = false) :
    (AttachmentExtractor.parsedResult parts parsed).error.isSome := by
  cases parsed with
  | error exc => rfl
  | ok doc => cases hok

section Reads

variable {parsers : Parsers} {fileBytes : List UInt8} {ocr : OcrAnswer} {text : String}

theorem reads_image_iff : Reads parsers fileBytes ocr .image text ↔
    textFound (AttachmentService.extract parsers .image fileBytes ocr) = some text := by
  constructor
  · intro h
    cases h with
    | image hocr horder hblank =>
      rw [inReadingOrder_iff] at horder
      subst hocr horder
      simp [AttachmentService.extract, AttachmentExtractor.extractImage, renderBoxesAsText, hblank,
        textFound, Except.map]
  · intro h
    cases ocr with
    | page boxes =>
      by_cases hblank : strip (renderBoxesAsText boxes) = ""
      · simp [AttachmentService.extract, AttachmentExtractor.extractImage, hblank, textFound,
          Except.map, ExtractionResult.refused] at h
      · simp only [AttachmentService.extract, AttachmentExtractor.extractImage, hblank, textFound,
          Except.map, if_false, if_true, Option.some.injEq] at h
        subst h
        exact .image rfl (inReadingOrder_iff.mpr rfl) hblank
    | failed | malformed | pages => cases h

theorem reads_pdf_iff : Reads parsers fileBytes ocr .pdf text ↔
    textFound (AttachmentService.extract parsers .pdf fileBytes ocr) = some text := by
  constructor
  · intro h
    cases h with
    | pdf hocr horder =>
      -- The pages are put in order, one by one.
      rw [forall₂_inReadingOrder_iff] at horder
      subst horder
      rw [← pdfResult_text]
      rcases hocr with rfl | ⟨boxes, rfl, rfl⟩
      · rfl
      · rfl
  · intro h
    -- What the service has read.
    cases ocr with
    | page boxes =>
      obtain rfl := Option.some.inj h
      rw [pdfResult_text]
      exact .pdf (.inr ⟨boxes, rfl, rfl⟩) (forall₂_inReadingOrder_iff.mpr rfl)
    | pages pages =>
      obtain rfl := Option.some.inj h
      rw [pdfResult_text]
      exact .pdf (.inl rfl) (forall₂_inReadingOrder_iff.mpr rfl)
    | failed | malformed => cases h

/-- What the extractor finds is what the file says. -/
theorem reads_iff (kind : AttachmentKind) : Reads parsers fileBytes ocr kind text ↔
    textFound (AttachmentService.extract parsers kind fileBytes ocr) = some text := by
  cases kind with
  | image => exact reads_image_iff
  | pdf => exact reads_pdf_iff
  -- The parsers find a document, or raise.
  | docx =>
    rw [AttachmentService.extract, AttachmentExtractor.extractDocx, parsedResult_text]
    constructor
    · intro h
      cases h with
      | docx hdoc => exact ⟨_, hdoc, rfl⟩
    · rintro ⟨doc, hdoc, rfl⟩
      exact .docx hdoc
  | xlsx =>
    rw [AttachmentService.extract, AttachmentExtractor.extractXlsx, parsedResult_text]
    constructor
    · intro h
      cases h with
      | xlsx hsheets => exact ⟨_, hsheets, rfl⟩
    · rintro ⟨sheets, hsheets, rfl⟩
      exact .xlsx hsheets
  | other => exact iff_of_false (fun h => by cases h) (fun h => by cases h)

/-- A result that is not `ok` says why. -/
theorem error_of_extract {kind : AttachmentKind} {result : ExtractionResult}
    (h : AttachmentService.extract parsers kind fileBytes ocr = .ok (some result))
    (hok : result.ok = false) : result.error.isSome := by
  cases kind with
  | image =>
    cases ocr with
    | page boxes =>
      -- A result that is not `ok` comes from boxes without a text.
      by_cases hblank : strip (renderBoxesAsText boxes) = ""
      · simp only [AttachmentService.extract, AttachmentExtractor.extractImage, hblank, if_true,
          Except.map, Except.ok.injEq, Option.some.injEq] at h
        subst h
        rfl
      · simp only [AttachmentService.extract, AttachmentExtractor.extractImage, hblank, if_false,
          Except.map, Except.ok.injEq, Option.some.injEq] at h
        subst h
        cases hok
    | failed exc =>
      -- The client of the OCR service reports its error.
      cases h
      rfl
    | malformed | pages => cases h
  | pdf =>
    cases ocr with
    | failed exc =>
      cases h
      rfl
    | page | pages =>
      cases h
      cases hok
    | malformed => cases h
  -- The parsers report theirs.
  | docx =>
    obtain rfl := Option.some.inj (Except.ok.inj h)
    exact parsedResult_error hok
  | xlsx =>
    obtain rfl := Option.some.inj (Except.ok.inj h)
    exact parsedResult_error hok
  | other => cases h

end Reads

/-! ## The row of a file -/

namespace AttachmentService

variable {row row' : AttachmentRow} {read : Except PyError (Option ExtractionResult)}

/-- What reading a file makes of its row. -/
theorem settle_eq_ok (h : settle row read = .ok row') :
    (∃ result, read = .ok (some result) ∧ result.ok = true ∧
      row' = { row with
        status := .ready
        extractedText := some result.text
        extractionRaw := some result.raw }) ∨
    ∃ error, row' = markFailed row error ∧ textFound read = none ∧ (error.isSome ∨
      ∃ result, read = .ok (some result) ∧ result.ok = false ∧ result.error = error) := by
  cases read with
  -- `extract` raised: the service takes an `OCRServiceError` only.
  | error e =>
    simp only [settle] at h
    split at h
    · obtain rfl := Except.ok.inj h
      exact .inr ⟨_, rfl, rfl, .inl rfl⟩
    · cases h
  | ok found =>
    cases found with
    -- There is nothing to be extracted.
    | none =>
      obtain rfl := Except.ok.inj h
      exact .inr ⟨_, rfl, rfl, .inl rfl⟩
    | some result =>
      simp only [settle] at h
      split at h
      -- The text was found.
      · rename_i hok
        obtain rfl := Except.ok.inj h
        exact .inl ⟨result, rfl, hok, rfl⟩
      -- The result carries the reason why it was not.
      · rename_i hfailed
        have hfailed : result.ok = false := by simpa using hfailed
        obtain rfl := Except.ok.inj h
        exact .inr ⟨_, rfl, by simp [textFound, hfailed], .inr ⟨result, rfl, hfailed, rfl⟩⟩

/-- The columns that the upload has written first stay. -/
theorem settle_keeps (h : settle row read = .ok row') :
    row'.id = row.id ∧ row'.storageKey = row.storageKey := by
  rcases settle_eq_ok h with ⟨result, -, -, rfl⟩ | ⟨error, rfl, -⟩
  · exact ⟨rfl, rfl⟩
  · exact ⟨rfl, rfl⟩

end AttachmentService

/-! ## The bucket -/

section Bucket

variable {objects : List StoredObject} {o : StoredObject} {key : String}

theorem getObject_putObject : getObject (putObject objects o) o.key = some o := by
  simp [getObject, putObject]

/-- Objects of other names stay. -/
theorem getObject_putObject_of_ne (h : key ≠ o.key) :
    getObject (putObject objects o) key = getObject objects key := by
  simp only [getObject, putObject, List.find?_cons, decide_eq_false h.symm, List.find?_filter]
  congr 1
  funext o'
  by_cases hkey : o'.key = key
  · simp [hkey, h]
  · simp [hkey]

theorem key_of_getObject (h : getObject objects key = some o) : o ∈ objects ∧ o.key = key := by
  refine ⟨List.mem_of_find?_eq_some h, ?_⟩
  simpa using List.find?_some h

/-- The UUID can be read off the name. -/
theorem storageKey_inj {uuid uuid' : Uuid} {filename filename' : String}
    (h : storageKey uuid filename = storageKey uuid' filename') : uuid = uuid' := by
  have hfree : ∀ n, Separated.Free '/' (UuidText.text n) :=
    UuidText.free_text (by decide) (by decide)
  have htail : UuidText.text uuid ++ "/" ++ filename = UuidText.text uuid' ++ "/" ++ filename' := by
    rw [storageKey, storageKey, String.append_assoc, String.append_assoc, String.append_assoc,
      String.append_assoc] at h
    rw [String.append_assoc, String.append_assoc]
    exact String.append_right_inj _ |>.mp h
  exact UuidText.text_inj (Separated.join_inj_first (by decide) (hfree _) (hfree _) htail).1

end Bucket

/-! ## The uploads -/

namespace Uploads

section System

variable {ι : Type} [DecidableEq ι] {parsers : Parsers} {bucket : String} {file : ι → UploadFile}
  {ocr : ι → OcrAnswer} {s s' : System ι} {events later : List (Event ι)}

theorem phase_setPhase (i j : ι) (p : Phase) :
    (s.setPhase i p).phase j = if j = i then p else s.phase j := rfl

/-- The row that an upload has by now. -/
def Phase.row? : Phase → Option AttachmentRow
  | .processing row | .settled row | .committed row => some row
  | .received | .stored _ | .failed => none

/-- What a step does. -/
inductive Change (parsers : Parsers) (bucket : String) (file : ι → UploadFile)
    (ocr : ι → OcrAnswer) (s : System ι) : System ι → Prop where
  | put {i : ι} {uuid : Uuid} {p : Phase} (hphase : s.phase i = .received)
      (hfresh : uuid ∉ s.drawn)
      (hp : p = .failed ∨ p = .stored (storageKey uuid (file i).filename)) :
      Change parsers bucket file ocr s ((s.put file i uuid).setPhase i p)
  | create {i : ι} {id : Uuid} {key mimeType : String} (hphase : s.phase i = .stored key)
      (hfresh : id ∉ s.drawn) (hmime : (file i).contentType = some mimeType) :
      Change parsers bucket file ocr s
        { s.setPhase i (.processing
            (AttachmentService.newAttachment bucket (file i) mimeType key id)) with
          drawn := id :: s.drawn }
  | settle {i : ι} {row row' : AttachmentRow} (hphase : s.phase i = .processing row)
      (hsettle : AttachmentService.settle row (outcome parsers file ocr i row.mimeType) =
        .ok row') :
      Change parsers bucket file ocr s (s.setPhase i (.settled row'))
  | commit {i : ι} {row : AttachmentRow} {table : AttachmentRows}
      (hphase : s.phase i = .settled row) (hinsert : s.table.insert? row = some table) :
      Change parsers bucket file ocr s { s.setPhase i (.committed row) with table }
  | stop {i : ι} (hphase : ∀ row, s.phase i ≠ .committed row) :
      Change parsers bucket file ocr s (s.setPhase i .failed)

theorem change_of_step {event : Event ι} (h : s.step parsers bucket file ocr event = some s') :
    Change parsers bucket file ocr s s' := by
  cases event with
  | upload i uuid =>
    -- The object is stored under a name that was not drawn before.
    simp only [System.step] at h
    split at h
    · rename_i hphase
      split at h
      · cases h
      · rename_i hfresh
        obtain rfl := Option.some.inj h
        exact .put hphase hfresh (.inr rfl)
    · cases h
  | create i id =>
    -- The row is built for a known type, with an id that was not drawn before.
    simp only [System.step] at h
    split at h
    · rename_i hphase hmime
      split at h
      · cases h
      · rename_i hfresh
        obtain rfl := Option.some.inj h
        exact .create hphase hfresh hmime
    · cases h
  | extract i =>
    -- The file is read, and the row settled, or the request fails.
    simp only [System.step] at h
    split at h
    · rename_i row hphase
      split at h
      · rename_i hsettle
        obtain rfl := Option.some.inj h
        exact .settle hphase hsettle
      · obtain rfl := Option.some.inj h
        exact .stop fun row' hcommitted => by cases hphase.symm.trans hcommitted
    · cases h
  | commit i =>
    -- The row becomes visible.
    simp only [System.step] at h
    split at h
    · rename_i hphase
      obtain ⟨table, hinsert, rfl⟩ := Option.map_eq_some_iff.mp h
      exact .commit hphase hinsert
    · cases h
  | fail i =>
    -- A request that is not over fails.
    simp only [System.step] at h
    split at h
    · cases h
    · cases h
    · rename_i hcommitted _
      obtain rfl := Option.some.inj h
      exact .stop hcommitted
  | failedPut i uuid =>
    -- The object is stored, and the request fails.
    simp only [System.step] at h
    split at h
    · rename_i hphase
      split at h
      · cases h
      · rename_i hfresh
        obtain rfl := Option.some.inj h
        exact .put hphase hfresh (.inl rfl)
    · cases h

set_option linter.unusedSectionVars false

/-! ### The invariant -/

/-- The row as the upload writes it first; the bucket has its file. -/
structure Written (bucket : String) (file : ι → UploadFile) (s : System ι) (i : ι)
    (row : AttachmentRow) : Prop where
  mime : (file i).contentType = some row.mimeType
  first : row =
    AttachmentService.newAttachment bucket (file i) row.mimeType row.storageKey row.id
  object : getObject s.objects row.storageKey =
    some ⟨row.storageKey, (file i).fileBytes, (file i).contentType⟩
  drawn : row.id ∈ s.drawn

/-- What is known of an upload that stands somewhere. -/
def Fits (parsers : Parsers) (bucket : String) (file : ι → UploadFile) (ocr : ι → OcrAnswer)
    (s : System ι) (i : ι) : Phase → Prop
  | .received | .failed => True
  | .stored key => getObject s.objects key = some ⟨key, (file i).fileBytes, (file i).contentType⟩
  | .processing row => Written bucket file s i row
  | .settled row | .committed row => ∃ first, Written bucket file s i first ∧
      AttachmentService.settle first (outcome parsers file ocr i first.mimeType) = .ok row

/-- What holds of the stores and the uploads. -/
structure Intact (parsers : Parsers) (bucket : String) (file : ι → UploadFile)
    (ocr : ι → OcrAnswer) (s : System ι) : Prop where
  fits : ∀ i, Fits parsers bucket file ocr s i (s.phase i)
  names : ∀ o ∈ s.objects, ∃ uuid ∈ s.drawn, ∃ filename, o.key = storageKey uuid filename
  own : ∀ i j row row', (s.phase i).row? = some row → (s.phase j).row? = some row' →
    row.id = row'.id → i = j
  committed : ∀ row, row ∈ s.table.rows ↔ ∃ i, s.phase i = .committed row

/-- Objects, rows and drawn UUIDs stay. -/
structure Grows (s s' : System ι) : Prop where
  objects : ∀ {key : String} {o : StoredObject},
    getObject s.objects key = some o → getObject s'.objects key = some o
  drawn : ∀ {id : Uuid}, id ∈ s.drawn → id ∈ s'.drawn
  committed : ∀ {i : ι} {row : AttachmentRow},
    s.phase i = .committed row → s'.phase i = .committed row

theorem Written.mono {i : ι} {row : AttachmentRow} (h : Written bucket file s i row)
    (hgrows : Grows s s') : Written bucket file s' i row :=
  ⟨h.mime, h.first, hgrows.objects h.object, hgrows.drawn h.drawn⟩

theorem Fits.mono {i : ι} {p : Phase} (h : Fits parsers bucket file ocr s i p)
    (hgrows : Grows s s') : Fits parsers bucket file ocr s' i p := by
  cases p with
  | received | failed => trivial
  | stored key => exact hgrows.objects h
  | processing row => exact Written.mono h hgrows
  | settled row | committed row =>
    obtain ⟨first, hwritten, hsettle⟩ := h
    exact ⟨first, hwritten.mono hgrows, hsettle⟩

/-- The id of a row has been drawn. -/
theorem Fits.row_drawn {i : ι} {p : Phase} {row : AttachmentRow}
    (h : Fits parsers bucket file ocr s i p) (hrow : p.row? = some row) : row.id ∈ s.drawn := by
  cases p with
  | received | failed | stored key => cases hrow
  | processing row' =>
    obtain rfl := Option.some.inj hrow
    exact h.drawn
  | settled row' | committed row' =>
    obtain rfl := Option.some.inj hrow
    obtain ⟨first, hwritten, hsettle⟩ := h
    rw [(AttachmentService.settle_keeps hsettle).1]
    exact hwritten.drawn

theorem intact_start : Intact parsers bucket file ocr (.start : System ι) where
  fits _ := trivial
  names o ho := by cases ho
  own i j row row' hrow := by cases hrow
  committed row := iff_of_false List.not_mem_nil fun ⟨i, hi⟩ => by cases hi

/-- A committed upload goes on nowhere. -/
theorem phase_of_change (h : Change parsers bucket file ocr s s') {i : ι} {row : AttachmentRow}
    (hi : s.phase i = .committed row) : s'.phase i = .committed row := by
  have hother : ∀ {j : ι} {p : Phase}, (∀ row, s.phase j ≠ .committed row) →
      (s.setPhase j p).phase i = .committed row := by
    intro j p hj
    have hne : i ≠ j := by
      rintro rfl
      exact hj row hi
    rw [phase_setPhase, if_neg hne, hi]
  cases h with
  | put hphase _ _ => exact hother fun _ hj => by cases hphase.symm.trans hj
  | create hphase _ _ => exact hother fun _ hj => by cases hphase.symm.trans hj
  | settle hphase _ => exact hother fun _ hj => by cases hphase.symm.trans hj
  | commit hphase _ => exact hother fun _ hj => by cases hphase.symm.trans hj
  | stop hphase => exact hother hphase

/-- The name of a new object is not in use, since its UUID has not been drawn. -/
theorem put_objects (h : Intact parsers bucket file ocr s) {i : ι} {uuid : Uuid}
    (hfresh : uuid ∉ s.drawn) {key : String} {o : StoredObject}
    (ho : getObject s.objects key = some o) :
    getObject (s.put file i uuid).objects key = some o := by
  have hne : key ≠ storageKey uuid (file i).filename := by
    rintro rfl
    obtain ⟨hmem, hkey⟩ := key_of_getObject ho
    obtain ⟨uuid', hdrawn, filename, hname⟩ := h.names o hmem
    exact hfresh (storageKey_inj (hkey.symm.trans hname) ▸ hdrawn)
  rw [← ho]
  exact getObject_putObject_of_ne hne

theorem grows_of_change (h : Change parsers bucket file ocr s s')
    (hintact : Intact parsers bucket file ocr s) : Grows s s' := by
  refine ⟨?_, ?_, fun hi => phase_of_change h hi⟩
  · intro key o ho
    cases h with
    | put _ hfresh _ => exact put_objects hintact hfresh ho
    | create | settle | commit | stop => exact ho
  · intro id hid
    cases h with
    | put | create => exact List.mem_cons_of_mem _ hid
    | settle | commit | stop => exact hid

/-- Where one upload moves on: its new row has the id of the one it had, or an id that has not been
    drawn before. -/
theorem own_of_move (hintact : Intact parsers bucket file ocr s) {i : ι} {p : Phase}
    (hphase : ∀ j, s'.phase j = if j = i then p else s.phase j)
    (hid : ∀ row, p.row? = some row → row.id ∉ s.drawn ∨
      ∃ row', (s.phase i).row? = some row' ∧ row'.id = row.id) :
    ∀ j k row row', (s'.phase j).row? = some row → (s'.phase k).row? = some row' →
      row.id = row'.id → j = k := by
  -- the row of another upload has an id that has been drawn, and not this one
  have hother : ∀ k row row', p.row? = some row → (s.phase k).row? = some row' →
      row.id = row'.id → k = i := by
    intro k row row' hrow hrow' heq
    rcases hid row hrow with hfresh | ⟨first, hfirst, hsame⟩
    · exact absurd (heq ▸ (hintact.fits k).row_drawn hrow') hfresh
    · exact (hintact.own i k first row' hfirst hrow' (hsame.trans heq)).symm
  intro j k row row' hrow hrow' heq
  rw [hphase] at hrow hrow'
  by_cases hj : j = i
  · by_cases hk : k = i
    · rw [hj, hk]
    · rw [if_pos hj] at hrow
      rw [if_neg hk] at hrow'
      exact absurd (hother k row row' hrow hrow' heq) hk
  · by_cases hk : k = i
    · rw [if_neg hj] at hrow
      rw [if_pos hk] at hrow'
      exact absurd (hother j row' row hrow' hrow heq.symm) hj
    · rw [if_neg hj] at hrow
      rw [if_neg hk] at hrow'
      exact hintact.own j k row row' hrow hrow' heq

/-- Where one upload moves on, what is known of the others stays. -/
theorem fits_of_move (hintact : Intact parsers bucket file ocr s) (hgrows : Grows s s') {i : ι}
    {p : Phase} (hphase : ∀ j, s'.phase j = if j = i then p else s.phase j)
    (hp : Fits parsers bucket file ocr s' i p) (j : ι) :
    Fits parsers bucket file ocr s' j (s'.phase j) := by
  rw [hphase]
  by_cases hj : j = i
  · subst hj
    rwa [if_pos rfl]
  · rw [if_neg hj]
    exact (hintact.fits j).mono hgrows

/-- Where one upload moves on without a commit, the committed ones are the same. -/
theorem committed_of_move {i : ι} {p : Phase}
    (hphase : ∀ j, s'.phase j = if j = i then p else s.phase j)
    (hi : ∀ row, s.phase i ≠ .committed row) (hp : ∀ row, p ≠ .committed row)
    (row : AttachmentRow) :
    (∃ j, s'.phase j = .committed row) ↔ ∃ j, s.phase j = .committed row := by
  refine exists_congr fun j => ?_
  rw [hphase]
  by_cases hj : j = i
  · subst hj
    rw [if_pos rfl]
    exact iff_of_false (hp row) (hi row)
  · rw [if_neg hj]

/-- Every step keeps the invariant. -/
theorem intact_of_change (h : Change parsers bucket file ocr s s')
    (hintact : Intact parsers bucket file ocr s) : Intact parsers bucket file ocr s' := by
  have hgrows := grows_of_change h hintact
  -- What each step adds: an object, a row that is not committed, a verdict, a committed row.
  cases h with
  | @put i uuid p hphase hfresh hp =>
    have hmove : ∀ j, ((s.put file i uuid).setPhase i p).phase j =
        if j = i then p else s.phase j := fun j => rfl
    refine ⟨fits_of_move hintact hgrows hmove ?_, ?_, own_of_move hintact hmove ?_, ?_⟩
    -- The object of this upload is there, if the upload goes on.
    · rcases hp with rfl | rfl
      · trivial
      · exact getObject_putObject
    -- Its name has been drawn.
    · intro o ho
      rcases List.mem_cons.mp ho with rfl | ho
      · exact ⟨uuid, List.mem_cons_self, (file i).filename, rfl⟩
      · obtain ⟨uuid', hdrawn, hname⟩ := hintact.names o (List.mem_of_mem_filter ho)
        exact ⟨uuid', List.mem_cons_of_mem _ hdrawn, hname⟩
    -- There is no row yet.
    · intro row hrow
      rcases hp with rfl | rfl <;> cases hrow
    -- The committed rows stay.
    · intro row
      rw [committed_of_move hmove (by simp [hphase])
        (by rcases hp with rfl | rfl <;> exact fun _ h => by cases h)]
      exact hintact.committed row
  | @create i id key mimeType hphase hfresh hmime =>
    have hmove : ∀ j, (s.setPhase i (.processing (AttachmentService.newAttachment bucket (file i)
        mimeType key id))).phase j = if j = i then .processing (AttachmentService.newAttachment
          bucket (file i) mimeType key id) else s.phase j := fun j => rfl
    refine ⟨fits_of_move hintact hgrows hmove ?_, ?_, own_of_move hintact hmove ?_, ?_⟩
    -- The first row names the object, which was stored before.
    · have hobject := hintact.fits i
      rw [hphase] at hobject
      exact ⟨hmime, rfl, hobject, List.mem_cons_self⟩
    -- Nothing is stored.
    · intro o ho
      obtain ⟨uuid', hdrawn, hname⟩ := hintact.names o ho
      exact ⟨uuid', List.mem_cons_of_mem _ hdrawn, hname⟩
    -- The row has an id of its own.
    · intro row hrow
      obtain rfl := Option.some.inj hrow
      exact .inl hfresh
    -- The committed rows stay.
    · intro row
      rw [committed_of_move hmove (by simp [hphase]) fun _ h => by cases h]
      exact hintact.committed row
  | @settle i row row' hphase hsettle =>
    have hmove : ∀ j, (s.setPhase i (.settled row')).phase j =
        if j = i then .settled row' else s.phase j := fun j => rfl
    refine ⟨fits_of_move hintact hgrows hmove ?_, hintact.names, own_of_move hintact hmove ?_, ?_⟩
    -- The row was settled from the one before.
    · have hwritten := (hintact.fits i).mono hgrows
      rw [hphase] at hwritten
      exact ⟨row, hwritten, hsettle⟩
    -- The id is the one of the row before.
    · intro row'' hrow
      obtain rfl := Option.some.inj hrow
      exact .inr ⟨row, by rw [hphase]; rfl, (AttachmentService.settle_keeps hsettle).1.symm⟩
    -- The committed rows stay.
    · intro row''
      rw [committed_of_move hmove (by simp [hphase]) fun _ h => by cases h]
      exact hintact.committed row''
  | @commit i row table hphase hinsert =>
    have hmove : ∀ j, (s.setPhase i (.committed row)).phase j =
        if j = i then .committed row else s.phase j := fun j => rfl
    refine ⟨fits_of_move hintact hgrows hmove ?_, hintact.names, own_of_move hintact hmove ?_, ?_⟩
    -- The row that is committed is the settled one.
    · have hsettled := (hintact.fits i).mono hgrows
      rw [hphase] at hsettled
      exact hsettled
    -- It keeps its id.
    · intro row' hrow
      obtain rfl := Option.some.inj hrow
      exact .inr ⟨row, by rw [hphase]; rfl, rfl⟩
    -- The table has one row more, that of this upload.
    · intro row'
      show row' ∈ table.rows ↔ _
      rw [(KeyedTable.rows_of_insert? hinsert).2, List.mem_append, List.mem_singleton,
        hintact.committed]
      constructor
      · rintro (⟨j, hj⟩ | rfl)
        · exact ⟨j, hgrows.committed hj⟩
        · exact ⟨i, (hmove i).trans (if_pos rfl)⟩
      · rintro ⟨j, hj⟩
        rw [hmove] at hj
        by_cases hji : j = i
        · rw [if_pos hji] at hj
          exact .inr (Phase.committed.inj hj).symm
        · rw [if_neg hji] at hj
          exact .inl ⟨j, hj⟩
  | @stop i hphase =>
    have hmove : ∀ j, (s.setPhase i .failed).phase j =
        if j = i then .failed else s.phase j := fun j => rfl
    -- A request that fails leaves everything as it is.
    refine ⟨fits_of_move hintact hgrows hmove trivial, hintact.names,
      own_of_move hintact hmove fun row hrow => (by cases hrow), ?_⟩
    intro row
    rw [committed_of_move hmove hphase fun _ h => by cases h]
    exact hintact.committed row

/-- In every reachable state the invariant holds. -/
theorem intact_of_run
    (hrun : Runs.run (System.step parsers bucket file ocr) .start events = some s) :
    Intact parsers bucket file ocr s :=
  Runs.invariant (fun _ _ _ hintact hstep => intact_of_change (change_of_step hstep) hintact)
    intact_start hrun

/-- What is stored stays. -/
theorem grows_of_run (hintact : Intact parsers bucket file ocr s)
    (hrun : Runs.run (System.step parsers bucket file ocr) s later = some s') : Grows s s' := by
  have hboth : Intact parsers bucket file ocr s' ∧ Grows s s' := by
    refine Runs.invariant (P := fun s' => Intact parsers bucket file ocr s' ∧ Grows s s') ?_
      ⟨hintact, id, id, id⟩ hrun
    rintro s₁ s₂ event ⟨hintact, hgrows⟩ hstep
    have hchange := change_of_step hstep
    have hstep := grows_of_change hchange hintact
    exact ⟨intact_of_change hchange hintact, fun ho => hstep.objects (hgrows.objects ho),
      fun hid => hstep.drawn (hgrows.drawn hid), fun hi => hstep.committed (hgrows.committed hi)⟩
  exact hboth.2

/-! ### The stored files -/

/-- The row says whether the file could be read, and what it says. -/
def Settled (parsers : Parsers) (file : ι → UploadFile) (ocr : ι → OcrAnswer) (i : ι)
    (row : AttachmentRow) : Prop :=
  (row.status = .ready ∧ row.errorMessage = none ∧ ∃ text, row.extractedText = some text ∧
    Reads parsers (file i).fileBytes (ocr i) row.kind text) ∨
  (row.status = .failed ∧ row.extractedText = none ∧ row.errorMessage.isSome ∧
    ∀ text, ¬Reads parsers (file i).fileBytes (ocr i) row.kind text)

/-- A row belongs to an upload, is settled, and the bucket has the file. -/
structure Stored (parsers : Parsers) (bucket : String) (file : ι → UploadFile)
    (ocr : ι → OcrAnswer) (objects : List StoredObject) (i : ι) (row : AttachmentRow) : Prop where
  filename : row.filename = (file i).filename
  session : row.sessionId = (file i).sessionId
  user : row.userId = (file i).userId
  mime : (file i).contentType = some row.mimeType
  kind : row.kind = kindByMime row.mimeType
  size : row.sizeBytes = (file i).fileBytes.length
  storageBucket : row.storageBucket = bucket
  object : getObject objects row.storageKey =
    some ⟨row.storageKey, (file i).fileBytes, some row.mimeType⟩
  settled : Settled parsers file ocr i row

/-- What a settled row says of the file it was first written for. -/
theorem settled_of_settle {i : ι} {first row : AttachmentRow} (h : Written bucket file s i first)
    (hsettle : AttachmentService.settle first (outcome parsers file ocr i first.mimeType) =
      .ok row) :
    Settled parsers file ocr i row := by
  -- The row has its kind from the type, and neither an error nor a text yet.
  have hkind : first.kind = kindByMime first.mimeType := by
    rw [h.first]
    rfl
  have herror : first.errorMessage = none ∧ first.extractedText = none := by
    rw [h.first]
    exact ⟨rfl, rfl⟩
  -- A text that can be read off the file is what the extraction finds.
  have hreads : ∀ text, Reads parsers (file i).fileBytes (ocr i) first.kind text ↔
      textFound (outcome parsers file ocr i first.mimeType) = some text := by
    intro text
    rw [reads_iff, hkind]
    rfl
  rcases AttachmentService.settle_eq_ok hsettle with ⟨result, hread, hok, rfl⟩ |
    ⟨error, rfl, hnone, herror'⟩
  -- It is ready, with the text.
  · refine .inl ⟨rfl, herror.1, result.text, rfl, (hreads _).mpr ?_⟩
    rw [hread, textFound, if_pos hok]
  -- It failed, with an error, and there was no text to be found.
  · refine .inr ⟨rfl, herror.2, ?_, fun text htext => ?_⟩
    · rcases herror' with hsome | ⟨result, hread, hok, rfl⟩
      · exact hsome
      · exact error_of_extract hread hok
    · cases hnone.symm.trans ((hreads text).mp htext)

/-- The row of a committed upload, and its file in the bucket. -/
theorem stored_of_committed (hintact : Intact parsers bucket file ocr s) {i : ι}
    {row : AttachmentRow} (hi : s.phase i = .committed row) :
    Stored parsers bucket file ocr s.objects i row := by
  have hfits := hintact.fits i
  rw [hi] at hfits
  obtain ⟨first, hwritten, hsettle⟩ := hfits
  have hsettled := settled_of_settle hwritten hsettle
  have hmime := hwritten.mime
  have hobject := hwritten.object
  rw [hmime] at hobject
  rcases AttachmentService.settle_eq_ok hsettle with ⟨result, -, -, rfl⟩ | ⟨error, rfl, -⟩
  · rw [hwritten.first] at *
    exact ⟨rfl, rfl, rfl, hmime, rfl, rfl, rfl, hobject, hsettled⟩
  · rw [hwritten.first] at *
    exact ⟨rfl, rfl, rfl, hmime, rfl, rfl, rfl, hobject, hsettled⟩

/-- Whatever fails, and however the uploads interleave: the committed rows are those of the
    committed uploads, one each; every one of them is settled, its file is in the bucket, and both
    stay as they are. -/
theorem committed_uploads_stored
    (hrun : Runs.run (System.step parsers bucket file ocr) .start events = some s)
    (hlater : Runs.run (System.step parsers bucket file ocr) s later = some s') :
    (∀ row, row ∈ s.table.rows ↔ ∃ i, s.phase i = .committed row) ∧
    (∀ i j row row', s.phase i = .committed row → s.phase j = .committed row' →
      row.id = row'.id → i = j) ∧
    ∀ i row, s.phase i = .committed row →
      row ∈ s'.table.rows ∧ Stored parsers bucket file ocr s'.objects i row := by
  have hintact := intact_of_run hrun
  have hintact' : Intact parsers bucket file ocr s' :=
    intact_of_run (Runs.run_append.mpr ⟨s, hrun, hlater⟩)
  refine ⟨hintact.committed, fun i j row row' hi hj => ?_, fun i row hi => ?_⟩
  · exact hintact.own i j row row' (by rw [hi]; rfl) (by rw [hj]; rfl)
  · have hi' := (grows_of_run hintact hlater).committed hi
    exact ⟨(hintact'.committed row).mpr ⟨i, hi'⟩, stored_of_committed hintact' hi'⟩

theorem committed_uploads_stored_leave :
    ∃ s s', Runs.run (System.step Leave.parsers "attachments" Leave.file Leave.ocr) .start
        Leave.events = some s ∧
      Runs.run (System.step Leave.parsers "attachments" Leave.file Leave.ocr) s Leave.later =
        some s' ∧
      Leave.scanRow ∈ s'.table.rows ∧
      Stored Leave.parsers "attachments" Leave.file Leave.ocr s'.objects false Leave.scanRow := by
  have hfirst : (Runs.run (System.step Leave.parsers "attachments" Leave.file Leave.ocr) .start
      Leave.events).map (fun s => s.phase false) = some (.committed Leave.scanRow) := by
    decide +kernel
  have hall : (Runs.run (System.step Leave.parsers "attachments" Leave.file Leave.ocr) .start
      (Leave.events ++ Leave.later)).isSome := by
    decide +kernel
  obtain ⟨s, hrun, hscan⟩ := Option.map_eq_some_iff.mp hfirst
  obtain ⟨s', hboth⟩ := Option.isSome_iff_exists.mp hall
  obtain ⟨s₁, hrun₁, hlater⟩ := Runs.run_append.mp hboth
  obtain rfl := Option.some.inj (hrun.symm.trans hrun₁)
  exact ⟨s, s', hrun, hlater, (committed_uploads_stored hrun hlater).2.2 false _ hscan⟩

/-! ### The prompts -/

/-- What a prompt says of a file that has been uploaded. -/
inductive SectionOf (parsers : Parsers) (file : UploadFile) (ocr : OcrAnswer) : String → Prop where
  | read {mimeType text : String} (hmime : file.contentType = some mimeType)
      (hreads : Reads parsers file.fileBytes ocr (kindByMime mimeType) text) (htext : text ≠ "") :
      SectionOf parsers file ocr ("[File đính kèm '" ++ file.filename ++ "']\n" ++ strip text)
  | empty {mimeType : String} (hmime : file.contentType = some mimeType)
      (hreads : Reads parsers file.fileBytes ocr (kindByMime mimeType) "") (id : Uuid) :
      SectionOf parsers file ocr
        (AttachmentService.unreadableSection ⟨id, file.filename, .ready, some ""⟩)
  | failed {mimeType : String} (hmime : file.contentType = some mimeType)
      (hreads : ∀ text, ¬Reads parsers file.fileBytes ocr (kindByMime mimeType) text) (id : Uuid) :
      SectionOf parsers file ocr
        (AttachmentService.unreadableSection ⟨id, file.filename, .failed, none⟩)

/-- What a prompt says of an id. -/
def Shows (parsers : Parsers) (file : ι → UploadFile) (ocr : ι → OcrAnswer) (s : System ι)
    (id : Uuid) (text : String) : Prop :=
  (∃ i row, s.phase i = .committed row ∧ row.id = id ∧
    SectionOf parsers (file i) (ocr i) text) ∨
  ((∀ i row, s.phase i = .committed row → row.id ≠ id) ∧
    text = "[File đính kèm " ++ UuidText.text id ++ ": KHÔNG TỒN TẠI trong hệ thống]")

/-- The section of a settled row. -/
theorem sectionOf_row {i : ι} {row : AttachmentRow}
    (h : Stored parsers bucket file ocr s.objects i row) (id : Uuid) :
    SectionOf parsers (file i) (ocr i)
      (AttachmentService.renderSection id (some row.toAttachment)) := by
  have hkind := h.kind
  rcases h.settled with ⟨hstatus, -, text, htext, hreads⟩ | ⟨hstatus, htext, -, hreads⟩
  · rw [hkind] at hreads
    have hrow : row.toAttachment = ⟨row.id, (file i).filename, .ready, some text⟩ := by
      rw [← h.filename, ← hstatus, ← htext]
    rw [hrow]
    by_cases hempty : text = ""
    · subst hempty
      rw [AttachmentService.renderSection_unreadable
        (by simp [AttachmentService.isReadable, truthy])]
      exact .empty h.mime hreads _
    · rw [AttachmentService.renderSection_readable
        (by simp [AttachmentService.isReadable, truthy, hempty])]
      exact .read h.mime hreads hempty
  · rw [hkind] at hreads
    have hrow : row.toAttachment = ⟨row.id, (file i).filename, .failed, none⟩ := by
      rw [← h.filename, ← hstatus, ← htext]
    rw [hrow, AttachmentService.renderSection_unreadable (by simp [AttachmentService.isReadable])]
    exact .failed h.mime hreads _

theorem find?_attachments (id : Uuid) :
    s.attachments.find? id = (s.table.find? id).map (·.toAttachment) := by
  show (s.table.rows.map (·.toAttachment)).find? (fun a => a.id = id) = _
  rw [List.find?_map]
  rfl

/-- In every reachable state, a prompt with files shows of each id, in the order of the ids, what
    reading the file gave that was uploaded under it, and that there is none under another id. -/
theorem prompts_show_uploads (scan : ScanOrder Attachment) (ids : List Uuid)
    (hrun : Runs.run (System.step parsers bucket file ocr) .start events = some s)
    (hids : ids ≠ []) :
    ∃ sections, AttachmentService.renderForPrompt scan s.attachments ids =
        AttachmentService.contextHeader ++ "\n" ++
          ("\n\n".intercalate sections ++ "\n" ++ AttachmentService.contextFooter) ∧
      List.Forall₂ (Shows parsers file ocr s) ids sections := by
  have hintact := intact_of_run hrun
  refine ⟨_, renderForPrompt_eq hids, ?_⟩
  rw [List.forall₂_map_right_iff, List.forall₂_same]
  intro id _
  rw [find?_attachments]
  cases hfind : s.table.find? id with
  | none =>
    refine .inr ⟨fun i row hi => ?_, rfl⟩
    exact KeyedTable.find?_eq_none_iff.mp hfind row ((hintact.committed row).mpr ⟨i, hi⟩)
  | some row =>
    obtain ⟨hrow, hid⟩ := KeyedTable.mem_of_find? hfind
    obtain ⟨i, hi⟩ := (hintact.committed row).mp hrow
    exact .inl ⟨i, row, hi, hid, sectionOf_row (stored_of_committed hintact hi) id⟩

theorem prompts_show_uploads_leave :
    ∃ s sections, Runs.run (System.step Leave.parsers "attachments" Leave.file Leave.ocr) .start
        (Leave.events ++ Leave.later) = some s ∧
      AttachmentService.renderForPrompt .stored s.attachments [4, 3, 5] =
        AttachmentService.contextHeader ++ "\n" ++
          ("\n\n".intercalate sections ++ "\n" ++ AttachmentService.contextFooter) ∧
      List.Forall₂ (Shows Leave.parsers Leave.file Leave.ocr s) [4, 3, 5] sections := by
  have hall : (Runs.run (System.step Leave.parsers "attachments" Leave.file Leave.ocr) .start
      (Leave.events ++ Leave.later)).isSome := by
    decide +kernel
  obtain ⟨s, hrun⟩ := Option.isSome_iff_exists.mp hall
  obtain ⟨sections, hprompt, hshows⟩ :=
    prompts_show_uploads .stored [4, 3, 5] hrun (by decide)
  exact ⟨s, sections, hrun, hprompt, hshows⟩

end System

end Uploads

end AgnoRuntime
