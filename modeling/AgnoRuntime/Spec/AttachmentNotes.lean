import AgnoRuntime.Model.Attachments
import AgnoRuntime.Spec.TeamMembers

/-!
# The note about attachments

The instructions of an agent should end with a note where a file that came with the message can be
used. The engine does not ask which files could be read: it searches what has been rendered of all
of them for a phrase. So a file that is missing counts as usable, one that could not be read
hides all the others, and so does one that quotes the phrase.
-/

namespace AgnoRuntime

open AttachmentService AgnoRuntimeEngine Phrase Separated

/-- A file whose text can be used. -/
structure Attachment.Usable (a : Attachment) : Prop where
  ready : a.status = .ready
  text : ∃ text, a.extractedText = some text ∧ text ≠ ""

/-- The phrase is in the name of the file or in its text. -/
def Attachment.Quotes (a : Attachment) : Prop :=
  Occurs unreadableMarker a.filename ∨ Occurs unreadableMarker (a.extractedText.getD "")

theorem isReadable_iff {a : Attachment} : isReadable a = true ↔ a.Usable := by
  rw [isReadable, Bool.and_eq_true, decide_eq_true_eq]
  constructor
  · intro h
    refine ⟨h.1, ?_⟩
    cases htext : a.extractedText with
    | none =>
      rw [htext] at h
      cases h.2
    | some text =>
      rw [htext] at h
      exact ⟨text, rfl, by simpa [truthy] using h.2⟩
  · intro h
    obtain ⟨text, htext, hne⟩ := h.text
    refine ⟨h.ready, ?_⟩
    rw [htext]
    simpa [truthy] using hne

/-! ## What is rendered -/

section Render

variable {scan : ScanOrder Attachment} {attachments : AttachmentTable} {ids : List Uuid}

/-- A requested file is found in what is fetched exactly as in the table. -/
theorem find?_getMany {id : Uuid} (hid : id ∈ ids) :
    ((AttachmentRepository.getMany scan attachments ids).find? fun a => a.id = id) =
      attachments.find? id := by
  -- The query returns the stored rows with one of the ids, in some order.
  have hmem : ∀ a, a ∈ AttachmentRepository.getMany scan attachments ids ↔
      a ∈ attachments.rows ∧ a.id ∈ ids := by
    intro a
    rw [AttachmentRepository.getMany, scan.mem_order, List.mem_filter, decide_eq_true_eq]
  cases hfind : attachments.find? id with
  | none =>
    rw [List.find?_eq_none]
    intro a ha
    have hne := KeyedTable.find?_eq_none_iff.mp hfind a ((hmem a).mp ha).1
    simpa using hne
  | some a =>
    -- The id determines the row, so the order does not matter.
    obtain ⟨ha, rfl⟩ := KeyedTable.mem_of_find? hfind
    cases hfound : (AttachmentRepository.getMany scan attachments ids).find? fun b => b.id = a.id with
    | none =>
      have hnone := List.find?_eq_none.mp hfound a ((hmem a).mpr ⟨ha, hid⟩)
      simp at hnone
    | some b =>
      have hkey : b.id = a.id := by simpa using List.find?_some hfound
      have hb := ((hmem b).mp (List.mem_of_find?_eq_some hfound)).1
      rw [attachments.eq_of_key_eq hb ha hkey]

/-- A file that is not stored is not said to be unreadable. -/
theorem not_occurs_missing (id : Uuid) : ¬Occurs unreadableMarker (renderSection id none) := by
  have hmarker : ¬Free 'ọ' unreadableMarker := by decide
  have hfront : Free 'ọ' "[File đính kèm " := by decide
  have hback : Free 'ọ' ": KHÔNG TỒN TẠI trong hệ thống]" := by decide
  rw [renderSection_none]
  exact not_occurs_of_free hmarker
    ((hfront.append (UuidText.free_text (by decide) (by decide) id)).append hback)

theorem occurs_unreadable {a : Attachment} (h : ¬a.Usable) (id : Uuid) :
    Occurs unreadableMarker (renderSection id (some a)) := by
  have hphrase : Occurs unreadableMarker "': KHÔNG đọc được nội dung " := by decide +kernel
  rw [renderSection_unreadable fun hread => h (isReadable_iff.mp hread)]
  exact occurs_append_left (occurs_append_right hphrase _) _

theorem occurs_strip {text : String} :
    Occurs unreadableMarker (strip text) ↔ Occurs unreadableMarker text := by
  have hhead : unreadableMarker.toList.head? = some 'K' := by decide
  have hlast : unreadableMarker.toList.getLast? = some 'c' := by decide
  have hK : isSpace 'K' = false := by decide
  have hc : isSpace 'c' = false := by decide
  rw [Occurs, strip, String.toList_ofList, List.infix_trim_iff hhead hK hlast hc]
  rfl

/-- A file that can be used is said to be unreadable only by itself. -/
theorem occurs_usable_iff {a : Attachment} (h : a.Usable) (id : Uuid) :
    Occurs unreadableMarker (renderSection id (some a)) ↔ a.Quotes := by
  have hopen : "[File đính kèm '" = "[File đính kèm " ++ "'" := by decide
  have hclose : "']\n" = "'" ++ ("]" ++ "\n") := by decide
  have hsection : renderSection id (some a) = "[File đính kèm " ++ "'" ++
      (a.filename ++ "'" ++ ("]" ++ "\n" ++ strip (a.extractedText.getD ""))) := by
    rw [renderSection_readable (isReadable_iff.mpr h), hopen, hclose]
    simp only [String.append_assoc]
  have hquote : Free '\'' unreadableMarker := by decide
  have hnewline : Free '\n' unreadableMarker := by decide
  have hfile : ¬Occurs unreadableMarker "[File đính kèm " := by decide +kernel
  have hbracket : ¬Occurs unreadableMarker "]" := by decide
  rw [hsection, occurs_append (by decide) hquote, or_iff_right hfile,
    occurs_append (by decide) hquote, occurs_append (by decide) hnewline,
    or_iff_right hbracket, occurs_strip]
  rfl

/-- What is rendered of some files: a line, their sections, and a line. -/
theorem renderForPrompt_eq (hids : ids ≠ []) : renderForPrompt scan attachments ids =
    contextHeader ++ "\n" ++
      ("\n\n".intercalate (ids.map fun id => renderSection id (attachments.find? id)) ++ "\n" ++
        contextFooter) := by
  have hsections : (ids.map fun id => renderSection id
      ((AttachmentRepository.getMany scan attachments ids).find? fun a => a.id = id)) =
      ids.map fun id => renderSection id (attachments.find? id) :=
    List.map_congr_left fun id hid => by rw [find?_getMany hid]
  have hnonempty : ¬(ids.map fun id => renderSection id (attachments.find? id)).isEmpty = true := by
    simpa using hids
  simp only [renderForPrompt, hsections, if_neg hnonempty]

/-- What is rendered says that a file is unreadable exactly if a section says so. -/
theorem occurs_renderForPrompt_iff (hids : ids ≠ []) :
    Occurs unreadableMarker (renderForPrompt scan attachments ids) ↔
      ∃ id ∈ ids, ∃ a, attachments.find? id = some a ∧ (a.Usable → a.Quotes) := by
  have hnewline : Free '\n' unreadableMarker := by decide
  have hheader : ¬Occurs unreadableMarker contextHeader := by decide +kernel
  have hfooter : ¬Occurs unreadableMarker contextFooter := by decide +kernel
  have hne : unreadableMarker ≠ "" := by decide
  rw [renderForPrompt_eq hids, occurs_append (by decide) hnewline, or_iff_right hheader,
    occurs_append (by decide) hnewline, or_iff_left hfooter,
    occurs_intercalate (by decide) hnewline hne]
  simp only [List.mem_map, exists_exists_and_eq_and]
  refine exists_congr fun id => and_congr_right fun _ => ?_
  cases hfind : attachments.find? id with
  | none => simp [not_occurs_missing]
  | some a =>
    by_cases h : a.Usable
    · simp [occurs_usable_iff h, h]
    · simp [occurs_unreadable h, h]

theorem renderForPrompt_ne_empty (hids : ids ≠ []) : renderForPrompt scan attachments ids ≠ "" := by
  intro h
  have hheader := congrArg String.toList h
  rw [renderForPrompt_eq hids] at hheader
  simp only [String.toList_append, String.toList_empty, List.append_eq_nil_iff] at hheader
  exact absurd hheader.1.1 (by decide)

/-- The files count as usable exactly if there are some, and those that are stored can be used and
    do not quote the phrase. -/
theorem hasValidAttachment_iff (hids : ids ≠ []) :
    hasValidAttachment ids (renderForPrompt scan attachments ids) = true ↔
      ∀ id ∈ ids, ∀ a, attachments.find? id = some a → a.Usable ∧ ¬a.Quotes := by
  have hempty : ids.isEmpty = false := by simpa using hids
  have hcontext : decide (renderForPrompt scan attachments ids ≠ "") = true :=
    decide_eq_true (renderForPrompt_ne_empty hids)
  rw [hasValidAttachment, hempty, hcontext, Bool.not_false, Bool.true_and, Bool.and_true,
    Bool.not_eq_true', decide_eq_false_iff_not, occurs_renderForPrompt_iff hids]
  simp only [not_exists, not_and, Classical.not_imp]

end Render

/-! ## How the instructions end -/

section Ends

variable {scan : ScanOrder Attachment} {attachments : AttachmentTable} {ids : List Uuid}
  {knowledge prompt : String}

/-- The rest of the instructions ends with the note already; a blank line stands before it if
    there are files. -/
def RestEnds (ids : List Uuid) (knowledge prompt : String) : Prop :=
  Ends priorityNote ((if ids = [] then "" else "\n\n") ++ joinParts [knowledge, prompt])

theorem joinParts_cons {part : String} (hpart : part ≠ "") (parts : List String) :
    joinParts (part :: parts) =
      if parts.filter (· ≠ "") = [] then part else part ++ "\n\n" ++ joinParts parts := by
  rw [joinParts, joinParts, List.filter_cons_of_pos (by simpa using hpart)]
  split
  · rename_i hnone
    rw [hnone, String.intercalate_singleton]
  · rename_i hsome
    rw [String.intercalate_cons_of_ne_nil hsome]

/-! The note is a long text: what it starts and ends with is read off its parts. -/

theorem not_free_priorityNote : ¬Free 'Ư' priorityNote := by
  delta priorityNote priorityText
  rw [Free, not_not]
  simp only [String.toList_append, List.mem_append]
  refine .inr (.inl (.inl (.inl ?_)))
  decide +kernel

theorem getLast?_priorityNote : priorityNote.toList.getLast? = some '.' := by
  delta priorityNote priorityText
  have hend : "dùng yêu cầu rõ ràng.".toList ≠ [] := by decide +kernel
  rw [String.toList_append, String.toList_append,
    List.getLast?_append_of_ne_nil _ (List.append_ne_nil_of_right_ne_nil _ hend),
    List.getLast?_append_of_ne_nil _ hend]
  decide +kernel

theorem free_newline_priorityText : Free '\n' priorityText := by
  delta priorityText
  refine ((Free.append ?_ ?_).append ?_).append ?_ <;> decide +kernel

/-- What is rendered of files ends with its last line. -/
theorem not_ends_renderForPrompt (hids : ids ≠ []) :
    ¬Ends priorityNote (renderForPrompt scan attachments ids) := by
  intro h
  have hlast := h.getLast?_eq (by decide)
  have hfooter : contextFooter.toList.getLast? = some '=' := by decide
  have hne : contextFooter.toList ≠ [] := by decide
  rw [renderForPrompt_eq hids, getLast?_priorityNote, String.toList_append, String.toList_append,
    String.toList_append, List.getLast?_append_of_ne_nil _ (by simp),
    List.getLast?_append_of_ne_nil _ hne, hfooter] at hlast
  cases hlast

/-- Without the note, the instructions end with it only if the rest does. -/
theorem ends_joinParts_iff (hids : ids ≠ []) :
    Ends priorityNote (joinParts [renderForPrompt scan attachments ids, knowledge, prompt]) ↔
      RestEnds ids knowledge prompt := by
  rw [joinParts_cons (renderForPrompt_ne_empty hids), RestEnds, if_neg hids]
  split
  · rename_i hnone
    have hblank : ¬Ends priorityNote ("\n\n" ++ "") :=
      not_ends_of_free not_free_priorityNote (by decide)
    rw [joinParts, hnone, String.intercalate_nil]
    exact iff_of_false (not_ends_renderForPrompt hids) hblank
  · exact ends_append_double (by decide) free_newline_priorityText

end Ends

/-! ## The note -/

section Note

variable {parseUuid : String → Option Uuid} {scan : ScanOrder Attachment}
  {attachments : AttachmentTable} {executeForAgent : Uuid → String → Except PyError String}
  {ctx : ResolvedRuntimeContext} {message knowledge instructions : String} {raw : List String}
  {ids : List Uuid}

/-- Some requested file is stored and can be used. -/
def SomeUsable (attachments : AttachmentTable) (ids : List Uuid) : Prop :=
  ∃ id ∈ ids, ∃ a, attachments.find? id = some a ∧ a.Usable

/-- The instructions, wherever they are built, end with the note exactly if some file can be used. -/
def NotedAsIntended (parseUuid : String → Option Uuid) (scan : ScanOrder Attachment)
    (attachments : AttachmentTable) (executeForAgent : Uuid → String → Except PyError String)
    (ctx : ResolvedRuntimeContext) (message : String) (raw : List String) (ids : List Uuid) : Prop :=
  ∀ instructions, resolveInstructions parseUuid scan attachments executeForAgent ctx message
    (some ⟨some raw⟩) = .ok instructions →
    (Ends priorityNote instructions ↔ SomeUsable attachments ids)

/-- Where some file can be used, all that are stored can, and none of them quotes the phrase; where
    none can be used, some file is stored, or none was requested. -/
structure NoteFits (attachments : AttachmentTable) (ids : List Uuid) (restEnds : Prop) : Prop where
  someUsable : SomeUsable attachments ids → restEnds ∨
    ∀ id ∈ ids, ∀ a, attachments.find? id = some a → a.Usable ∧ ¬a.Quotes
  noneUsable : ¬SomeUsable attachments ids → ¬restEnds ∧
    (ids = [] ∨ ∃ id ∈ ids, (attachments.find? id).isSome)

theorem attachmentIds_eq (hids : raw.mapM parseUuid = some ids) :
    attachmentIds parseUuid (some ⟨some raw⟩) = ids := by
  show (raw.mapM parseUuid).getD [] = ids
  rw [hids]
  rfl

theorem resolveInstructions_eq (hids : raw.mapM parseUuid = some ids)
    (hknowledge : executeForAgent ctx.agent.id message = .ok knowledge) :
    resolveInstructions parseUuid scan attachments executeForAgent ctx message
      (some ⟨some raw⟩) =
      .ok (composeInstructions scan attachments ids knowledge ctx.finalPrompt) := by
  rw [resolveInstructions, hknowledge, attachmentIds_eq hids]
  rfl

/-- How the instructions end. -/
theorem composeInstructions_ends_iff {prompt : String} :
    Ends priorityNote (composeInstructions scan attachments ids knowledge prompt) ↔
      RestEnds ids knowledge prompt ∨
        ids ≠ [] ∧ ∀ id ∈ ids, ∀ a, attachments.find? id = some a → a.Usable ∧ ¬a.Quotes := by
  by_cases hnone : ids = []
  · subst hnone
    have hempty : composeInstructions scan attachments [] knowledge prompt =
        joinParts [knowledge, prompt] ++ "" := rfl
    rw [hempty, String.append_empty, RestEnds, if_pos rfl, String.empty_append]
    simp
  · have hempty : ¬ids.isEmpty = true := by simpa using hnone
    rw [and_iff_right hnone, ← hasValidAttachment_iff hnone, composeInstructions, if_neg hempty]
    split
    · rename_i hnote
      exact iff_of_true (ends_append _) (.inr hnote)
    · rename_i hnote
      rw [String.append_empty, ends_joinParts_iff hnone, or_iff_left hnote]

/-- The conditions under which the note is there are those under which it should be. -/
theorem noted_iff_fits {restEnds : Prop} :
    (restEnds ∨ ids ≠ [] ∧
        (∀ id ∈ ids, ∀ a, attachments.find? id = some a → a.Usable ∧ ¬a.Quotes) ↔
      SomeUsable attachments ids) ↔ NoteFits attachments ids restEnds := by
  constructor
  · intro h
    constructor
    · intro husable
      exact (h.mpr husable).imp_right And.right
    · intro husable
      refine ⟨fun hends => husable (h.mp (.inl hends)), ?_⟩
      -- otherwise all of them are missing, and the note is there
      by_contra hmissing
      rw [not_or] at hmissing
      have hall : ∀ id ∈ ids, ∀ a, attachments.find? id = some a → a.Usable ∧ ¬a.Quotes := by
        intro id hid a ha
        exact absurd ⟨id, hid, Option.isSome_of_eq_some ha⟩ hmissing.2
      exact husable (h.mp (.inr ⟨hmissing.1, hall⟩))
  · intro h
    constructor
    · intro hnoted
      by_contra husable
      obtain ⟨hends, hstored⟩ := h.noneUsable husable
      rcases hnoted with hnoted | ⟨hne, hall⟩
      · exact hends hnoted
      · rcases hstored with hnil | ⟨id, hid, hsome⟩
        · exact hne hnil
        · obtain ⟨a, ha⟩ := Option.isSome_iff_exists.mp hsome
          exact husable ⟨id, hid, a, ha, (hall id hid a ha).1⟩
    · intro husable
      have hfits := h.someUsable husable
      obtain ⟨id, hid, -⟩ := husable
      exact hfits.imp_right fun hall => ⟨List.ne_nil_of_mem hid, hall⟩

/-- Where the note is there as it should be, the requested files fit. -/
theorem fits_of_noted (hids : raw.mapM parseUuid = some ids)
    (h : NotedAsIntended parseUuid scan attachments executeForAgent ctx message raw ids)
    (hknowledge : executeForAgent ctx.agent.id message = .ok knowledge) :
    NoteFits attachments ids (RestEnds ids knowledge ctx.finalPrompt) := by
  rw [← noted_iff_fits, ← composeInstructions_ends_iff]
  exact h _ (resolveInstructions_eq hids hknowledge)

/-- The note is there exactly when some file can be used if the requested files fit. -/
theorem resolveInstructions_noted_iff (hids : raw.mapM parseUuid = some ids) :
    NotedAsIntended parseUuid scan attachments executeForAgent ctx message raw ids ↔
      ∀ knowledge, executeForAgent ctx.agent.id message = .ok knowledge →
        NoteFits attachments ids (RestEnds ids knowledge ctx.finalPrompt) := by
  constructor
  · intro h knowledge hknowledge
    exact fits_of_noted hids h hknowledge
  · intro h instructions hinstructions
    obtain ⟨knowledge, hknowledge, -⟩ := Except.bind_eq_ok.mp hinstructions
    rw [resolveInstructions_eq hids hknowledge] at hinstructions
    obtain rfl := Except.ok.inj hinstructions
    rw [composeInstructions_ends_iff]
    exact noted_iff_fits.mpr (h knowledge hknowledge)

end Note

namespace LeaveFiles

/-- A file with a text, one that could not be read, and one that quotes the phrase. -/
def stored : AttachmentTable :=
  ⟨[⟨1, "policy.pdf", .ready, some "Ten days of leave."⟩, ⟨2, "scan.png", .failed, none⟩,
    ⟨3, "reply.docx", .ready, some "KHÔNG đọc được"⟩], by decide⟩

/-- The ids of these files, and of one that is not stored, as the client sends them. -/
def sent : List (String × Uuid) :=
  [("00000000-0000-0000-0000-000000000001", 1), ("00000000-0000-0000-0000-000000000002", 2),
    ("00000000-0000-0000-0000-000000000003", 3), ("00000000-0000-0000-0000-000000000004", 4)]

/-- `uuid.UUID` on them. -/
def parseUuid (s : String) : Option Uuid := (sent.find? (·.1 = s)).map (·.2)

/-- An agent without a prompt of its own. -/
def context : ResolvedRuntimeContext where
  agentOs := LargeTeam.enterprise
  team := LargeTeam.sales
  agent := Deployment.crm
  finalPrompt := "You are CRM agent, an agent within team Sales."
  effectiveCapabilities := []

end LeaveFiles

open LeaveFiles in
theorem resolveInstructions_noted_iff_leaveFiles :
    NotedAsIntended parseUuid .stored stored (fun _ _ => .ok "") context "How many days?"
      ["00000000-0000-0000-0000-000000000001", "00000000-0000-0000-0000-000000000002"] [1, 2] ↔
    ∀ knowledge, (Except.ok "" : Except PyError String) = .ok knowledge →
      NoteFits stored [1, 2] (RestEnds [1, 2] knowledge context.finalPrompt) :=
  resolveInstructions_noted_iff (by decide)

open LeaveFiles in
/-- A file that is missing; a file with a text next to one that could not be read; and a file that
    quotes the phrase. -/
theorem resolveInstructions_leaveFiles :
    ¬NotedAsIntended parseUuid .stored stored (fun _ _ => .ok "") context "How many days?"
      ["00000000-0000-0000-0000-000000000004"] [4] ∧
    ¬NotedAsIntended parseUuid .stored stored (fun _ _ => .ok "") context "How many days?"
      ["00000000-0000-0000-0000-000000000001", "00000000-0000-0000-0000-000000000002"] [1, 2] ∧
    ¬NotedAsIntended parseUuid .stored stored (fun _ _ => .ok "") context "How many days?"
      ["00000000-0000-0000-0000-000000000003"] [3] := by
  -- No text here ends with the note where the answer goes on.
  have hrest : ∀ ids : List Uuid, ids ≠ [] → ¬RestEnds ids "" context.finalPrompt := by
    intro ids hids
    have hends : ¬Ends priorityNote ("\n\n" ++ joinParts ["", context.finalPrompt]) :=
      not_ends_of_free not_free_priorityNote (by decide +kernel)
    rw [RestEnds, if_neg hids]
    exact hends
  refine ⟨fun h => ?_, fun h => ?_, fun h => ?_⟩
  -- The file was deleted, and the note is added.
  · have hfits := fits_of_noted (by decide) h rfl
    have hnone : ¬SomeUsable stored [4] := by
      rintro ⟨id, hid, a, ha, -⟩
      rw [List.mem_singleton.mp hid] at ha
      cases ha
    rcases (hfits.noneUsable hnone).2 with hnil | ⟨id, hid, hsome⟩
    · cases hnil
    · rw [List.mem_singleton.mp hid] at hsome
      cases hsome
  -- The second file failed, and the note of the first one is missing.
  · have hfits := fits_of_noted (by decide) h rfl
    have hpolicy : SomeUsable stored [1, 2] := ⟨1, by decide, _, rfl, rfl, _, rfl, by decide⟩
    rcases hfits.someUsable hpolicy with hends | hall
    · exact hrest _ (by decide) hends
    · cases (hall 2 (by decide) _ rfl).1.ready
  -- The file quotes the phrase, and its note is missing.
  · have hfits := fits_of_noted (by decide) h rfl
    have hreply : SomeUsable stored [3] := ⟨3, by decide, _, rfl, rfl, _, rfl, by decide⟩
    rcases hfits.someUsable hreply with hends | hall
    · exact hrest _ (by decide) hends
    · have hquotes : Occurs unreadableMarker "KHÔNG đọc được" := by decide +kernel
      exact (hall 3 (by decide) _ rfl).2 (.inr hquotes)

end AgnoRuntime
