import Stagecraft.Proofs.Name.Assessment
import Stagecraft.Proofs.Session.Snapshot
import Stagecraft.Proofs.Shell.Lines

/-!
# What is printed loses nothing

From what the commands print, another program can read what they found out, whatever texts the
program, its output and its messages hold.

* `Shell.readFlattening`, `Shell.readReport` and `Shell.readComplaint` are the readers;
* `Shell.readFlattening_printed`: a flattening is read back, and `Shell.readReport_printed`: so are
  the output and the attribution of a run. The one name that is printed as it is has neither bars
  nor line feeds, since a program that passes the check has no such names;
* `Shell.Coded` and `Shell.coded_result`: the code of a refusal stands on one line, so that the
  refusal is read back (`Shell.readComplaint_printed`);
* `Shell.output_loses_nothing` puts them together.
-/

namespace Stagecraft.Shell

open Json Text

/-! ## 1. Readers -/

/-- Reads an entry of a source map. -/
def readEntry (line : String) : Option MapEntry := do
  match fieldsOf (← behind? "MAP:" line) with
  | [start, actor, handler] =>
    pure ⟨← readNumber start, ⟨← readIdent actor⟩, ⟨← readIdent handler⟩⟩
  | _ => none

/-- Reads a flattening. -/
def readFlattening (output : String) : Option Flattening :=
  match linesOf output with
  | "RESULT:OK" :: count :: lines => do
    let lineCount ← readNumber (← behind? "LINES:" count)
    let entries ← lines.dropLast.mapM readEntry
    let text ← readQuoted (← behind? "TEXT_JSON:" (← lines.getLast?))
    pure ⟨text, ⟨entries, lineCount⟩⟩
  | _ => none

/-- Reads a printed value of a run. -/
def readValue (line : String) : Option String := do
  readQuoted (← behind? "OUTPUT_JSON:" line)

/-- Reads lines up to the first that cannot be read. -/
def readFront {α : Type} (read : String → Option α) : List String → List α × List String
  | [] => ([], [])
  | line :: lines =>
    match read line with
    | some x => ((readFront read lines).1.cons x, (readFront read lines).2)
    | none => ([], line :: lines)

/-- Reads an attribution, or that there is none. -/
def readAttribution : List String → Option (Option Attribution)
  | ["EVENT:SUCCESS"] => some none
  | ["EVENT:ERROR_LOCATED", actor, handler, line, message] => do
    match fieldsOf (← behind? "ACTOR:" actor) with
    | [actor, name] =>
      let handler ← readIdent (← behind? "HANDLER:" handler)
      let line ← readNumber (← behind? "LINE:" line)
      let message ← readQuoted (← behind? "MESSAGE_JSON:" message)
      pure (some (.located ⟨⟨← readIdent actor⟩, ⟨handler⟩, line⟩ name message))
    | _ => none
  | ["EVENT:ERROR_UNATTRIBUTED", message] => do
    pure (some (.unattributable (← readQuoted (← behind? "MESSAGE_JSON:" message))))
  | _ => none

/-- Reads the output and the attribution of a run. -/
def readReport (output : String) : Option (List String × Option Attribution) :=
  match linesOf output with
  | "RESULT:OK" :: lines => do
    let (values, lines) := readFront readValue lines
    pure (values, ← readAttribution lines)
  | _ => none

/-- Reads a refusal. -/
def readComplaint (output : String) : Option Complaint :=
  match linesOf output with
  | ["RESULT:ERROR", code, message] => do
    pure ⟨← behind? "ERROR_CODE:" code, ← readQuoted (← behind? "ERROR_MSG_JSON:" message)⟩
  | _ => none

/-! ## 2. Flattenings -/

/-- The line of an entry. -/
def entryLine (entry : MapEntry) : String :=
  "MAP:" ++ (entry.startLine.repr ++ "|" ++ (entry.actor.text ++ "|" ++ entry.handler.text))

theorem flatteningLines_eq (flat : Flattening) : flatteningLines flat =
    "RESULT:OK" :: ("LINES:" ++ flat.map.lineCount.repr) ::
      (flat.map.entries.map entryLine ++ ["TEXT_JSON:" ++ quote flat.text]) := by
  have hentry : ∀ entry : MapEntry,
      s!"MAP:{entry.startLine}|{entry.actor.text}|{entry.handler.text}" = entryLine entry := by
    intro entry
    unfold entryLine
    simp only [← String.append_assoc]
    rfl
  unfold flatteningLines
  simp only [hentry]
  rfl

theorem readEntry_entryLine (entry : MapEntry) : readEntry (entryLine entry) = some entry := by
  have hfields : fieldsOf
      (entry.startLine.repr ++ "|" ++ (entry.actor.text ++ "|" ++ entry.handler.text)) =
        [entry.startLine.repr, entry.actor.ident.text, entry.handler.ident.text] := by
    rw [fieldsOf_bar (bar_not_mem_repr _), ActorId.text, fieldsOf_bar (bar_not_mem_ident _),
      HandlerId.text, fieldsOf_of_not_mem (bar_not_mem_ident _)]
  simp [readEntry, entryLine, hfields]

theorem onOneLine_entryLine (entry : MapEntry) : OnOneLine (entryLine entry) := by
  have hmark : OnOneLine "MAP:" := by decide
  have hbar : OnOneLine "|" := by decide
  simp [entryLine, ActorId.text, HandlerId.text, hmark, hbar]

theorem onOneLine_flatteningLines (flat : Flattening) :
    ∀ line ∈ flatteningLines flat, OnOneLine line := by
  have hok : OnOneLine "RESULT:OK" := by decide
  have hlines : OnOneLine "LINES:" := by decide
  have htext : OnOneLine "TEXT_JSON:" := by decide
  rw [flatteningLines_eq]
  refine List.forall_mem_cons.mpr ⟨hok, List.forall_mem_cons.mpr ⟨?_, ?_⟩⟩
  · exact onOneLine_append.mpr ⟨hlines, onOneLine_repr _⟩
  · rw [List.forall_mem_append, List.forall_mem_map, List.forall_mem_singleton]
    exact ⟨fun entry _ => onOneLine_entryLine entry,
      onOneLine_append.mpr ⟨htext, onOneLine_quote _⟩⟩

theorem mapM_readEntry (entries : List MapEntry) :
    entries.mapM (readEntry ∘ entryLine) = some entries := by
  induction entries with
  | nil => rfl
  | cons entry entries ih =>
      rw [List.mapM_cons, Function.comp_apply, readEntry_entryLine, ih]
      rfl

/-- **A flattening is read back** from what is printed of it. -/
theorem readFlattening_printed (flat : Flattening) :
    readFlattening (printed (flatteningLines flat)) = some flat := by
  rw [readFlattening, linesOf_printed (onOneLine_flatteningLines flat), flatteningLines_eq]
  simp [mapM_readEntry]

/-- Nothing but entries has the key of entries. -/
theorem countP_flatteningLines (flat : Flattening) :
    (flatteningLines flat).countP (fun line => (behind? "MAP:" line).isSome) =
      flat.map.entries.length := by
  have hcount : behind? "MAP:" ("LINES:" ++ flat.map.lineCount.repr) = none :=
    behind?_append_of_ne (by decide) _
  have htext : behind? "MAP:" ("TEXT_JSON:" ++ quote flat.text) = none :=
    behind?_append_of_ne (by decide) _
  have hentries : ∀ entries : List MapEntry, (entries.map entryLine).countP
      (fun line => (behind? "MAP:" line).isSome) = entries.length := by
    intro entries
    rw [List.countP_eq_length.mpr, List.length_map]
    simp [entryLine]
  rw [flatteningLines_eq, List.countP_cons, List.countP_cons, List.countP_append, hentries, hcount,
    List.countP_singleton, htext]
  rfl

/-! ## 3. Runs -/

/-- The name in an attribution can be told from what stands around it. -/
def Separable : Attribution → Prop
  | .located _ actorName _ => '|' ∉ actorName.toList ∧ OnOneLine actorName
  | .unattributable _ => True

theorem separable_of_allowed {name : String} (h : Name.Allowed name) :
    '|' ∉ name.toList ∧ OnOneLine name := by
  have hinner := (Name.isIdentifier_iff.mp h.1).all_isInner
  exact ⟨fun hbar => absurd (hinner _ hbar) (by decide),
    fun hfeed => absurd (hinner _ hfeed) (by decide)⟩

/-- **Attributions to a program that passes the check are separable**, whatever ran: an actor that
    is not there has the empty name. -/
theorem separable_of_attribution? {program : Program} {ran : Flattening} {result : RunResult}
    {attribution : Attribution} (h : program.WellFormed)
    (hattribution : program.attribution? ran result = some attribution) :
    Separable attribution := by
  unfold Program.attribution? at hattribution
  split at hattribution
  · cases hattribution
  split at hattribution
  next found _ =>
    cases hattribution
    rcases program.nameOf_cases found.actor with ⟨actor, ha, -, hname⟩ | ⟨-, hname⟩
    · simpa only [Separable, hname] using separable_of_allowed (h.names_allowed actor ha)
    · simp only [Separable, hname]
      decide
  next =>
    cases hattribution
    trivial

/-- The line of a printed value. -/
def valueLine (value : String) : String :=
  "OUTPUT_JSON:" ++ quote value

theorem runLines_eq (report : RunReport) : runLines report =
    "RESULT:OK" :: (report.result.output.map valueLine ++ attributionLines report.attribution) :=
  rfl

theorem attributionLines_located (place : Located) (actorName message : String) :
    attributionLines (some (.located place actorName message)) =
      ["EVENT:ERROR_LOCATED", "ACTOR:" ++ (place.actor.text ++ "|" ++ actorName),
        "HANDLER:" ++ place.handler.text, "LINE:" ++ place.lineWithin.repr,
        "MESSAGE_JSON:" ++ quote message] := by
  rw [attributionLines, ← String.append_assoc, ← String.append_assoc]
  rfl

theorem attributionLines_unattributable (message : String) :
    attributionLines (some (.unattributable message)) =
      ["EVENT:ERROR_UNATTRIBUTED", "MESSAGE_JSON:" ++ quote message] :=
  rfl

theorem onOneLine_attributionLines {attribution : Option Attribution}
    (h : ∀ found ∈ attribution, Separable found) :
    ∀ line ∈ attributionLines attribution, OnOneLine line := by
  have hmarks : OnOneLine "ACTOR:" ∧ OnOneLine "|" ∧ OnOneLine "HANDLER:" ∧ OnOneLine "LINE:" ∧
      OnOneLine "MESSAGE_JSON:" := by decide
  have hevents : OnOneLine "EVENT:SUCCESS" ∧ OnOneLine "EVENT:ERROR_LOCATED" ∧
      OnOneLine "EVENT:ERROR_UNATTRIBUTED" := by decide
  cases attribution with
  | none => simpa [attributionLines] using hevents.1
  | some found =>
      cases found with
      | located place actorName message =>
          have hname : OnOneLine actorName := (h _ rfl).2
          simp [attributionLines_located, ActorId.text, HandlerId.text, hmarks, hevents, hname]
      | unattributable message => simp [attributionLines_unattributable, hmarks, hevents]

/-- **An attribution is read back** from its lines. -/
theorem readAttribution_lines {attribution : Option Attribution}
    (h : ∀ found ∈ attribution, Separable found) :
    readAttribution (attributionLines attribution) = some attribution := by
  cases attribution with
  | none => rfl
  | some found =>
      cases found with
      | located place actorName message =>
          have hname : '|' ∉ actorName.toList := (h _ rfl).1
          have hfields : fieldsOf (place.actor.text ++ "|" ++ actorName) =
              [place.actor.ident.text, actorName] := by
            rw [ActorId.text, fieldsOf_bar (bar_not_mem_ident _), fieldsOf_of_not_mem hname]
          simp [attributionLines_located, readAttribution, hfields, HandlerId.text]
      | unattributable message => simp [attributionLines_unattributable, readAttribution]

theorem behind?_output_attributionLines (attribution : Option Attribution) :
    ∀ line ∈ attributionLines attribution, behind? "OUTPUT_JSON:" line = none := by
  have hactor : ∀ value, behind? "OUTPUT_JSON:" ("ACTOR:" ++ value) = none :=
    behind?_append_of_ne (by decide)
  have hhandler : ∀ value, behind? "OUTPUT_JSON:" ("HANDLER:" ++ value) = none :=
    behind?_append_of_ne (by decide)
  have hline : ∀ value, behind? "OUTPUT_JSON:" ("LINE:" ++ value) = none :=
    behind?_append_of_ne (by decide)
  have hmessage : ∀ value, behind? "OUTPUT_JSON:" ("MESSAGE_JSON:" ++ value) = none :=
    behind?_append_of_ne (by decide)
  cases attribution with
  | none => exact List.forall_mem_singleton.mpr rfl
  | some found =>
      cases found with
      | located place actorName message =>
          have hevent : behind? "OUTPUT_JSON:" "EVENT:ERROR_LOCATED" = none := rfl
          simp [attributionLines_located, hevent, hactor, hhandler, hline, hmessage]
      | unattributable message =>
          have hevent : behind? "OUTPUT_JSON:" "EVENT:ERROR_UNATTRIBUTED" = none := rfl
          simp [attributionLines_unattributable, hevent, hmessage]

/-- Lines that are read are told from those behind them, if the first of these cannot be read. -/
theorem readFront_map_append {α : Type} {read : String → Option α} {write : α → String}
    {lines : List String} (hread : ∀ x, read (write x) = some x)
    (hlines : ∀ line ∈ lines.head?, read line = none) (xs : List α) :
    readFront read (xs.map write ++ lines) = (xs, lines) := by
  induction xs with
  | nil =>
      cases lines with
      | nil => rfl
      | cons line lines => simp [readFront, hlines line rfl]
  | cons x xs ih => simp [readFront, hread, ih]

variable {report : RunReport}

theorem onOneLine_runLines (h : ∀ found ∈ report.attribution, Separable found) :
    ∀ line ∈ runLines report, OnOneLine line := by
  have hok : OnOneLine "RESULT:OK" := by decide
  have hmark : OnOneLine "OUTPUT_JSON:" := by decide
  rw [runLines_eq]
  refine List.forall_mem_cons.mpr ⟨hok, List.forall_mem_append.mpr ⟨?_, ?_⟩⟩
  · rw [List.forall_mem_map]
    exact fun value _ => onOneLine_append.mpr ⟨hmark, onOneLine_quote value⟩
  · exact onOneLine_attributionLines h

/-- **Output and attribution of a run are read back** from what is printed of it. -/
theorem readReport_printed (h : ∀ found ∈ report.attribution, Separable found) :
    readReport (printed (runLines report)) = some (report.result.output, report.attribution) := by
  have hread : ∀ value, readValue (valueLine value) = some value := by
    intro value
    simp [readValue, valueLine]
  have hnone : ∀ line ∈ (attributionLines report.attribution).head?, readValue line = none := by
    intro line hline
    have hbehind := behind?_output_attributionLines report.attribution line
      (List.mem_of_mem_head? hline)
    simp [readValue, hbehind]
  rw [readReport, linesOf_printed (onOneLine_runLines h), runLines_eq]
  simp [readFront_map_append hread hnone, readAttribution_lines h]

/-- Nothing but printed values has the key of printed values. -/
theorem countP_runLines (report : RunReport) :
    (runLines report).countP (fun line => (behind? "OUTPUT_JSON:" line).isSome) =
      report.result.output.length := by
  have hvalues : ∀ values : List String, (values.map valueLine).countP
      (fun line => (behind? "OUTPUT_JSON:" line).isSome) = values.length := by
    intro values
    rw [List.countP_eq_length.mpr, List.length_map]
    simp [valueLine]
  have hnone : (attributionLines report.attribution).countP
      (fun line => (behind? "OUTPUT_JSON:" line).isSome) = 0 := by
    refine List.countP_eq_zero.mpr fun line hline => ?_
    rw [behind?_output_attributionLines report.attribution line hline]
    decide
  rw [runLines_eq, List.countP_cons, List.countP_append, hvalues, hnone]
  rfl

/-! ## 4. Refusals -/

/-- A refusal, if there is one, has a code on one line. -/
def Coded {α : Type} (result : Except Complaint α) : Prop :=
  ∀ complaint, result = .error complaint → OnOneLine complaint.code

theorem onOneLine_code (fault : EditFault) : OnOneLine fault.code := by
  cases fault <;> simp only [EditFault.code] <;> decide

theorem onOneLine_code_map (fault : MapFault) : OnOneLine fault.code := by
  cases fault <;> simp only [MapFault.code] <;> decide

theorem coded_programOfText (text : String) : Coded (programOfText text) := by
  have hcodes : OnOneLine "CLI_PROGRAM_INVALID" ∧ OnOneLine "CLI_PROGRAM_SCHEMA" := by decide
  intro complaint h
  unfold programOfText at h
  split at h
  · cases h
    exact hcodes.1
  split at h
  · cases h
  · cases h
    exact hcodes.2

theorem coded_programOfBytes (bytes : ByteArray) : Coded (programOfBytes bytes) := by
  have hread : OnOneLine "CLI_PROGRAM_READ" := by decide
  intro complaint h
  unfold programOfBytes fileText at h
  split at h
  · exact coded_programOfText _ complaint h
  · cases h
    exact hread

theorem coded_loadProgram (path : String) (found : Option Node) :
    Coded (loadProgram path found) := by
  have hcodes : OnOneLine "CLI_PROGRAM_NOT_FOUND" ∧ OnOneLine "CLI_PROGRAM_READ" := by decide
  intro complaint h
  unfold loadProgram at h
  split at h
  · cases h
    exact hcodes.1
  · cases h
    exact hcodes.2
  · exact coded_programOfBytes _ complaint h

theorem coded_loadAll : ∀ files : List (List String × ByteArray), Coded (loadAll files)
  | [], _, h => by cases h
  | (path, bytes) :: more, complaint, h => by
      unfold loadAll at h
      split at h
      next hfirst =>
        cases h
        have hcode := coded_programOfBytes bytes _ hfirst
        exact hcode
      split at h
      next hmore =>
        cases h
        exact coded_loadAll more _ hmore
      next => cases h

theorem coded_verifyAll : ∀ programs : List (String × Program), Coded (verifyAll programs)
  | [], _, h => by cases h
  | (path, program) :: more, complaint, h => by
      unfold verifyAll at h
      split at h
      next fault _ =>
        cases h
        exact onOneLine_code_map fault
      split at h
      next hmore =>
        cases h
        exact coded_verifyAll more _ hmore
      next => cases h

theorem coded_checkDirectory (directory : String) (found : Option Node) :
    Coded (checkDirectory directory found) := by
  have hcodes : OnOneLine "CLI_PROGRAMS_DIR_NOT_FOUND" ∧ OnOneLine "CLI_PROGRAMS_DIR_NOT_DIR" ∧
      OnOneLine "CLI_PROGRAMS_DIR_EMPTY" := by decide
  intro complaint h
  unfold checkDirectory at h
  split at h
  · cases h
    exact hcodes.1
  · cases h
    exact hcodes.2.1
  split at h
  next hfirst =>
    cases h
    exact coded_loadAll _ _ hfirst
  · cases h
    exact hcodes.2.2
  · exact coded_verifyAll _ complaint h

theorem coded_map {α β : Type} {result : Except Complaint α} (f : α → β) (h : Coded result) :
    Coded (f <$> result) := by
  cases result with
  | error complaint =>
      intro other hother
      cases hother
      exact h complaint rfl
  | ok x =>
      intro other hother
      cases hother

/-- **What a command refuses has a code on one line.** -/
theorem coded_report (found : Option Node) (command : Command) : Coded (command.report found) := by
  cases command with
  | flatten path => exact coded_map _ (coded_loadProgram path found)
  | run path limit => exact coded_map _ (coded_loadProgram path found)
  | check directory => exact coded_map _ (coded_checkDirectory directory found)
  | checkName name existing => exact fun _ h => nomatch h
  | new name out => exact fun _ h => nomatch h

theorem coded_createProgram (disk : Disk) (name : Option String) (out : String) (fresh : ActorId) :
    Coded (createProgram disk name out fresh).1 := by
  have hwrite : OnOneLine "CLI_PROGRAM_WRITE" := by decide
  intro complaint h
  unfold createProgram at h
  split at h
  next first hfirst =>
    cases h
    unfold newProgram at hfirst
    cases hstage : Program.ofStage (name.getD defaultStageName) fresh with
    | error fault =>
        rw [hstage] at hfirst
        cases hfirst
        exact onOneLine_code fault
    | ok program =>
        rw [hstage] at hfirst
        cases hfirst
  split at h
  · cases h
    exact hwrite
  · cases h

theorem coded_result (disk : Disk) (fresh : ActorId) (command : Command) :
    Coded (command.result disk fresh).1 := by
  unfold Command.result
  split
  next name out => exact coded_createProgram disk name out fresh
  next => exact coded_report _ _

variable {complaint : Complaint}

theorem complaintLines_eq (complaint : Complaint) : complaintLines complaint =
    ["RESULT:ERROR", "ERROR_CODE:" ++ complaint.code,
      "ERROR_MSG_JSON:" ++ quote complaint.message] :=
  rfl

theorem onOneLine_complaintLines (h : OnOneLine complaint.code) :
    ∀ line ∈ complaintLines complaint, OnOneLine line := by
  have hmarks : OnOneLine "RESULT:ERROR" ∧ OnOneLine "ERROR_CODE:" ∧
      OnOneLine "ERROR_MSG_JSON:" := by decide
  simp [complaintLines_eq, hmarks, h]

/-- **A refusal is read back** from what is printed of it. -/
theorem readComplaint_printed (h : OnOneLine complaint.code) :
    readComplaint (printed (complaintLines complaint)) = some complaint := by
  rw [readComplaint, linesOf_printed (onOneLine_complaintLines h), complaintLines_eq]
  simp

theorem perform_of_ok {disk after : Disk} {fresh : ActorId} {command : Command}
    {lines : List String} (h : command.result disk fresh = (.ok lines, after)) :
    command.perform disk fresh = ⟨0, lines, after⟩ := by
  unfold Command.perform
  rw [h]
  rfl

theorem perform_of_error {disk : Disk} {fresh : ActorId} {command : Command}
    (h : (command.result disk fresh).1 = .error complaint) :
    command.perform disk fresh =
      ⟨1, complaintLines complaint, (command.result disk fresh).2⟩ := by
  unfold Command.perform
  cases hresult : command.result disk fresh with
  | mk result after =>
      rw [hresult] at h
      cases h
      rfl

theorem execute_eq {disk : Disk} {fresh : ActorId} {arguments : List String} {command : Command}
    (h : Command.ofArguments? arguments = some command) :
    execute disk fresh arguments = command.perform disk fresh := by
  unfold execute
  rw [h]

theorem execute_of_error {disk : Disk} {fresh : ActorId} {arguments : List String}
    {command : Command} (hcommand : Command.ofArguments? arguments = some command)
    (h : (command.result disk fresh).1 = .error complaint) :
    (execute disk fresh arguments).lines = complaintLines complaint := by
  rw [execute_eq hcommand, perform_of_error h]

/-- **The code of refusals is used for them and for nothing else.** -/
theorem exit_eq_one_iff {disk : Disk} {fresh : ActorId} {arguments : List String} :
    (execute disk fresh arguments).exit = 1 ↔ ∃ command complaint,
      Command.ofArguments? arguments = some command ∧
      (command.result disk fresh).1 = .error complaint := by
  constructor
  · intro hexit
    cases hcommand : Command.ofArguments? arguments with
    | none =>
        unfold execute at hexit
        rw [hcommand] at hexit
        cases hexit
    | some command =>
        cases hresult : command.result disk fresh with
        | mk result after =>
            cases result with
            | ok lines =>
                rw [execute_eq hcommand, perform_of_ok hresult] at hexit
                cases hexit
            | error complaint => exact ⟨command, complaint, rfl, by rw [hresult]⟩
  · rintro ⟨command, complaint, hcommand, hresult⟩
    rw [execute_eq hcommand, perform_of_error hresult]

theorem perform_flatten {disk : Disk} {path : String} {program : Program} (fresh : ActorId)
    (hload : loadProgram path (disk.find? path) = .ok program) :
    (Command.flatten path).perform disk fresh = ⟨0, flatteningLines program.flatten, disk⟩ := by
  have hreport : (Command.flatten path).report (disk.find? path) =
      .ok (flatteningLines program.flatten) := by
    rw [Command.report, hload]
    rfl
  exact perform_of_ok (congrArg (·, disk) hreport)

theorem perform_run {disk : Disk} {path : String} {limit : Option Nat} {program : Program}
    (fresh : ActorId) (hload : loadProgram path (disk.find? path) = .ok program) :
    (Command.run path limit).perform disk fresh =
      ⟨0, runLines (runProgram program limit), disk⟩ := by
  have hreport : (Command.run path limit).report (disk.find? path) =
      .ok (runLines (runProgram program limit)) := by
    rw [Command.report, hload]
    rfl
  exact perform_of_ok (congrArg (·, disk) hreport)

/-! ## 5. All outputs -/

theorem separable_of_run {session : Session} (h : session.program.validate = .ok ()) (host : Host)
    (supply : Supply) :
    ∀ found ∈ (session.run host supply).1.attribution, Separable found := by
  intro found hfound
  have hwell : (session.flattened supply).2.1.program.WellFormed := by
    rw [Session.program_flattened]
    exact Program.validate_eq_ok_iff.mp h
  exact separable_of_attribution? hwell hfound

/-- **What is printed loses nothing, and no text in it can pass for anything else.** The lines of a
    flattened program, which are what the command prints that finds it at its path, are those of
    its flattening, which is read back from them. From the lines of a run of a program that passes
    the check, on any host and with any flattening kept before, its output and its attribution are
    read back. A command line ends with the code 1 exactly if its command is refused, and what is
    printed then is three lines, from which the code and the message of that very refusal are read
    back. So different flattenings, runs with different outputs or attributions, and different
    refusals are never printed alike. -/
theorem output_loses_nothing :
    (∀ program : Program,
      let flat := program.flatten
      let lines := flatteningLines flat
      (∀ disk fresh path, loadProgram path (disk.find? path) = .ok program →
        (Command.flatten path).perform disk fresh = ⟨0, lines, disk⟩) ∧
      linesOf (printed lines) = "RESULT:OK" :: ("LINES:" ++ flat.map.lineCount.repr) ::
        (flat.map.entries.map entryLine ++ ["TEXT_JSON:" ++ quote flat.text]) ∧
      lines.countP (fun line => (behind? "MAP:" line).isSome) = flat.map.entries.length ∧
      readFlattening (printed lines) = some flat) ∧
    (∀ (session : Session) (host : Host) (supply : Supply), session.program.validate = .ok () →
      let report := (session.run host supply).1
      linesOf (printed (runLines report)) = runLines report ∧
      (runLines report).countP (fun line => (behind? "OUTPUT_JSON:" line).isSome) =
        report.result.output.length ∧
      readReport (printed (runLines report)) = some (report.result.output, report.attribution)) ∧
    (∀ disk fresh path limit program, loadProgram path (disk.find? path) = .ok program →
      (Command.run path limit).perform disk fresh =
        ⟨0, runLines (runProgram program limit), disk⟩) ∧
    (∀ disk fresh arguments, (execute disk fresh arguments).exit = 1 ↔ ∃ command complaint,
      Command.ofArguments? arguments = some command ∧
      (command.result disk fresh).1 = .error complaint) ∧
    (∀ disk fresh arguments command complaint, Command.ofArguments? arguments = some command →
      (command.result disk fresh).1 = .error complaint →
      let output := printed (execute disk fresh arguments).lines
      linesOf output = ["RESULT:ERROR", "ERROR_CODE:" ++ complaint.code,
        "ERROR_MSG_JSON:" ++ quote complaint.message] ∧
      readComplaint output = some complaint) ∧
    (∀ flat flat' : Flattening,
      printed (flatteningLines flat) = printed (flatteningLines flat') → flat = flat') ∧
    (∀ (session session' : Session) (host host' : Host) (supply supply' : Supply),
      session.program.validate = .ok () → session'.program.validate = .ok () →
      let report := (session.run host supply).1
      let report' := (session'.run host' supply').1
      printed (runLines report) = printed (runLines report') →
        report.result.output = report'.result.output ∧ report.attribution = report'.attribution) ∧
    ∀ disk disk' fresh fresh' arguments arguments' command command' complaint complaint',
      Command.ofArguments? arguments = some command →
      Command.ofArguments? arguments' = some command' →
      (command.result disk fresh).1 = .error complaint →
      (command'.result disk' fresh').1 = .error complaint' →
      printed (execute disk fresh arguments).lines =
          printed (execute disk' fresh' arguments').lines →
        complaint = complaint' := by
  have hrefusal : ∀ {disk fresh arguments command complaint},
      Command.ofArguments? arguments = some command →
      (command.result disk fresh).1 = .error complaint →
      readComplaint (printed (execute disk fresh arguments).lines) = some complaint := by
    intro disk fresh arguments command complaint hcommand hresult
    rw [execute_of_error hcommand hresult]
    exact readComplaint_printed (coded_result disk fresh command complaint hresult)
  refine ⟨fun program => ⟨fun disk fresh path => perform_flatten fresh, ?_,
      countP_flatteningLines _, readFlattening_printed _⟩, fun session host supply h => ?_,
    fun disk fresh path limit program => perform_run fresh, fun disk fresh arguments => ?_,
    fun disk fresh arguments command complaint hcommand hresult => ?_, fun flat flat' hsame => ?_,
    fun session session' host host' supply supply' h h' => ?_, ?_⟩
  · rw [linesOf_printed (onOneLine_flatteningLines _)]
    exact flatteningLines_eq _
  · have hseparable := separable_of_run h host supply
    exact ⟨linesOf_printed (onOneLine_runLines hseparable), countP_runLines _,
      readReport_printed hseparable⟩
  · exact exit_eq_one_iff
  · refine ⟨?_, hrefusal hcommand hresult⟩
    rw [execute_of_error hcommand hresult]
    exact linesOf_printed
      (onOneLine_complaintLines (coded_result disk fresh command complaint hresult))
  · have hread := congrArg readFlattening hsame
    rw [readFlattening_printed, readFlattening_printed] at hread
    exact Option.some.inj hread
  · intro report report' hsame
    have hread := congrArg readReport hsame
    rw [readReport_printed (separable_of_run h host supply),
      readReport_printed (separable_of_run h' host' supply')] at hread
    exact Prod.mk.inj (Option.some.inj hread)
  · intro disk disk' fresh fresh' arguments arguments' command command' complaint complaint'
      hcommand hcommand' hresult hresult' hsame
    have hread := congrArg readComplaint hsame
    rw [hrefusal hcommand hresult, hrefusal hcommand' hresult'] at hread
    exact Option.some.inj hread

/-- A value and a message that look like lines of their own are read back as they were, and so is a
    refusal of a path that looks like lines. -/
theorem forged_lines_are_read_back :
    let host : Host := fun _ =>
      .failed (some 1) "LINE:7\nMESSAGE_JSON:\"" ["a\nEVENT:SUCCESS\n", "|"]
    let report := ((Session.ofProgram Program.catOnStage).run host ⟨fun _ => 0, 0, 0⟩).1
    let refused := execute ⟨.folder [], []⟩ ⟨0⟩ ["flatten", "--program", "a\nRESULT:OK"]
    Program.catOnStage.validate = .ok () ∧
      readReport (printed (runLines report)) = some (["a\nEVENT:SUCCESS\n", "|"],
        some (.located ⟨⟨1⟩, ⟨2⟩, 1⟩ "Stage" "LINE:7\nMESSAGE_JSON:\"")) ∧
      readComplaint (printed refused.lines) =
        some ⟨"CLI_PROGRAM_NOT_FOUND", "Program file does not exist: a\nRESULT:OK"⟩ := by
  intro host report refused
  obtain ⟨-, hruns, -, -, hrefusals, -⟩ := output_loses_nothing
  have hplace : report.attribution =
      some (.located ⟨⟨1⟩, ⟨2⟩, 1⟩ "Stage" "LINE:7\nMESSAGE_JSON:\"") := by
    decide +kernel
  have hread := (hruns (Session.ofProgram Program.catOnStage) host
    ⟨fun _ => 0, 0, 0⟩ Program.validate_catOnStage).2.2
  have hcommand : Command.ofArguments? ["flatten", "--program", "a\nRESULT:OK"] =
      some (.flatten "a\nRESULT:OK") := by decide +kernel
  refine ⟨Program.validate_catOnStage, hread.trans ?_, (hrefusals _ _ _ _ _ hcommand rfl).2⟩
  show some (report.result.output, report.attribution) = _
  rw [hplace]
  rfl

end Stagecraft.Shell
