import Stagecraft.Proofs.Flattening.Tiling
import Stagecraft.Proofs.Shell.Files
import Stagecraft.Proofs.Shell.Output
import Stagecraft.Proofs.SourceMap.Diagnosis

/-!
# A directory is checked as a whole or not at all

A check loads the program files of a whole tree before it prints a line about any of them. Here is
what it prints:

* `Shell.loadAll_of_loads` and `Shell.loadAll_of_failsFirst` say what loading files in order yields:
  the first file that fails decides;
* `Shell.verifyAll_eq_ok`: verifying what was loaded never fails;
* `Shell.Checks` describes the outcome of a check, given the program files in the order of a walk;
* `Shell.check_reports_all_or_nothing` is about every tree, at a path from the root or from the
  working directory. The paths are printed as they are, so that a name with a line feed in it makes
  more lines than files (`Shell.line_feed_in_name_forges_line`).
-/

namespace Stagecraft

/-- The number of lines of all bodies together. -/
def Program.bodyLength (program : Program) : Nat :=
  (program.actors.map fun actor => (actor.handlers.map fun handler => handler.body.length).sum).sum

theorem Program.lineCount_eq_bodyLength (program : Program) :
    program.flatten.map.lineCount = program.bodyLength := by
  show (program.sections.flatMap fun owned => owned.2.body).length = _
  rw [List.length_flatMap, Program.sections, List.map_flatMap, Program.bodyLength,
    List.flatMap_def, List.sum_flatten, List.map_map]
  simp only [List.map_map, Function.comp_def]

namespace Shell

/-! ## 1. Program files -/

variable {path : List String} {bytes : ByteArray}

theorem isProgramPath_iff : isProgramPath path = true ↔
    ∃ front, path.getLast? = some (front ++ ProgramFile.nameEnd) := by
  have hends : ∀ name : String, name.endsWith ProgramFile.nameEnd = true ↔
      ∃ front, name = front ++ ProgramFile.nameEnd := by
    intro name
    rw [← String.endsWith_toSlice, String.Slice.endsWith_string_iff, String.copy_toSlice]
    constructor
    · rintro ⟨front, hfront⟩
      exact ⟨String.ofList front, String.toList_inj.mp (by simp [hfront])⟩
    · rintro ⟨front, rfl⟩
      exact ⟨front.toList, by simp⟩
  unfold isProgramPath
  cases path.getLast? with
  | none =>
      rw [Option.getD_none, hends]
      simp [ProgramFile.nameEnd]
  | some name =>
      rw [Option.getD_some, hends]
      simp

/-! ## 2. Loading in order -/

variable {files : List (List String × ByteArray)} {programs : List Program}

/-- A program is loaded from a file. -/
def Loads (file : List String × ByteArray) (program : Program) : Prop :=
  programOfBytes file.2 = .ok program

/-- Files are loaded as one list of programs. -/
theorem rightUnique_loads : Relator.RightUnique (List.Forall₂ Loads) :=
  Relator.RightUnique.forall₂ fun _ _ _ h h' => Except.ok.inj (h.symm.trans h')

/-- The first of the files that cannot be loaded, with what is said about it. -/
structure FailsFirst (files before : List (List String × ByteArray)) (path : List String)
    (complaint : Complaint) : Prop where
  /-- The file stands behind some others. -/
  place : ∃ bytes after, files = before ++ (path, bytes) :: after ∧
    programOfBytes bytes = .error complaint
  /-- All of these can be loaded. -/
  before : ∀ file ∈ before, ∃ program, Loads file program

/-- Files can all be loaded, or one of them is the first that cannot. -/
theorem loads_or_failsFirst : ∀ files : List (List String × ByteArray),
    (∃ programs, List.Forall₂ Loads files programs) ∨
      ∃ before path complaint, FailsFirst files before path complaint
  | [] => .inl ⟨[], .nil⟩
  | (path, bytes) :: files => by
      cases hfirst : programOfBytes bytes with
      | error complaint =>
          exact .inr ⟨[], path, complaint, ⟨bytes, files, rfl, hfirst⟩, List.forall_mem_nil _⟩
      | ok program =>
          rcases loads_or_failsFirst files with
            ⟨programs, hloads⟩ | ⟨before, other, complaint, ⟨found, after, rfl, hfound⟩, hbefore⟩
          · exact .inl ⟨program :: programs, .cons hfirst hloads⟩
          · refine .inr ⟨(path, bytes) :: before, other, complaint, ⟨found, after, rfl, hfound⟩, ?_⟩
            exact List.forall_mem_cons.mpr ⟨⟨program, hfirst⟩, hbefore⟩

/-- Not both: where there is a first file that cannot be loaded, not all can. -/
theorem FailsFirst.not_forall {before : List (List String × ByteArray)} {complaint : Complaint}
    (h : FailsFirst files before path complaint) :
    ¬ ∀ file ∈ files, ∃ program, Loads file program := by
  intro hall
  obtain ⟨bytes, after, rfl, hfails⟩ := h.place
  obtain ⟨program, hloads⟩ := hall (path, bytes) (by simp)
  rw [Loads, hfails] at hloads
  cases hloads

/-- The programs of files with the paths under which they are printed. -/
def withPaths (files : List (List String × ByteArray)) (programs : List Program) :
    List (String × Program) :=
  List.zipWith (fun file program => (pathText file.1, program)) files programs

theorem loadAll_of_loads (h : List.Forall₂ Loads files programs) :
    loadAll files = .ok (withPaths files programs) := by
  induction h with
  | nil => rfl
  | @cons file program files programs hfirst _ ih =>
      obtain ⟨path, bytes⟩ := file
      rw [loadAll, show programOfBytes bytes = .ok program from hfirst, ih]
      rfl

/-- **The first file that cannot be loaded decides**, whatever stands behind it. -/
theorem loadAll_of_failsFirst {before : List (List String × ByteArray)} {complaint : Complaint}
    (h : FailsFirst files before path complaint) :
    loadAll files = .error (complaint.about (pathText path)) := by
  obtain ⟨⟨bytes, after, rfl, hfails⟩, hbefore⟩ := h
  induction before with
  | nil => rw [List.nil_append, loadAll, hfails]
  | cons file before ih =>
      obtain ⟨other, content⟩ := file
      obtain ⟨⟨program, hfirst⟩, hmore⟩ := List.forall_mem_cons.mp hbefore
      rw [List.cons_append, loadAll, show programOfBytes content = .ok program from hfirst,
        ih hmore]

/-! ## 3. Verification -/

/-- **The map of a flattening is the program's own**: verifying it never fails. -/
theorem audit_flatten (program : Program) : program.audit program.flatten.map = .ok () :=
  Program.audit_eq_ok_iff.mpr rfl

theorem verifyAll_eq_ok : ∀ loaded : List (String × Program),
    verifyAll loaded = .ok (loaded.map fun (path, program) => (path, program.bodyLength))
  | [] => rfl
  | (path, program) :: loaded => by
      rw [verifyAll, audit_flatten, verifyAll_eq_ok loaded, program.lineCount_eq_bodyLength]
      rfl

/-! ## 4. Printed paths -/

/-- A name as it is printed: with a slash for every backslash. -/
def slashed (name : String) : String :=
  String.ofList (name.toList.map fun c => if c = '\\' then '/' else c)

/-- A path as it is printed: its names with slashes between them. -/
def shownPath : List String → String
  | [] => ""
  | [name] => slashed name
  | name :: next :: more => slashed name ++ "/" ++ shownPath (next :: more)

theorem pathText_eq_shownPath : ∀ path : List String, pathText path = shownPath path
  | [] => by decide +kernel
  | [name] => by
      refine String.toList_inj.mp ?_
      simp [pathText, shownPath, slashed, String.toList_map]
  | name :: next :: more => by
      refine String.toList_inj.mp ?_
      rw [shownPath, ← pathText_eq_shownPath (next :: more)]
      simp [pathText, slashed, String.toList_map, String.intercalate_cons_cons]

/-- Slashes are no line feeds, so a path is on one line if its names are. -/
theorem onOneLine_shownPath : ∀ {path : List String}, (∀ name ∈ path, OnOneLine name) →
    OnOneLine (shownPath path)
  | [], _ => by decide
  | name :: more, h => by
      obtain ⟨hname, hmore⟩ := List.forall_mem_cons.mp h
      have hslash : OnOneLine "/" := by decide
      have hslashed : OnOneLine (slashed name) := by
        unfold OnOneLine slashed
        rw [String.toList_ofList, List.mem_map]
        rintro ⟨c, hc, hfeed⟩
        split at hfeed
        · cases hfeed
        · exact hname (hfeed ▸ hc)
      cases more with
      | nil => exact hslashed
      | cons next more =>
          rw [shownPath, onOneLine_append, onOneLine_append]
          exact ⟨⟨hslashed, hslash⟩, onOneLine_shownPath hmore⟩

/-! ## 5. Checks -/

/-- The line about a program file. -/
def programLine (file : List String × ByteArray) (program : Program) : String :=
  "PROGRAM:" ++ shownPath file.1 ++ "|" ++ program.bodyLength.repr

/-- What a check of a directory leaves behind, if its program files are `files`, in order. -/
structure Checks (directory : String) (files : List (List String × ByteArray))
    (outcome : Outcome) : Prop where
  /-- It ends well exactly if there are program files and all of them can be loaded. -/
  passes : outcome.exit = 0 ↔ files ≠ [] ∧ ∀ file ∈ files, ∃ program, Loads file program
  /-- Then the printed text is about each program file, in order, and about their number. If no
      name on their paths has a line feed, each of them has one line of it. -/
  reports : outcome.exit = 0 → ∃ programs, List.Forall₂ Loads files programs ∧
    printed outcome.lines = "RESULT:OK\n" ++
      String.join (List.zipWith (fun file program => programLine file program ++ "\n")
        files programs) ++ ("CHECKED:" ++ files.length.repr ++ "\n") ∧
    ((∀ file ∈ files, ∀ name ∈ file.1, OnOneLine name) → linesOf (printed outcome.lines) =
      "RESULT:OK" :: (List.zipWith programLine files programs ++
        ["CHECKED:" ++ files.length.repr]))
  /-- Otherwise three lines are printed, from which it is read that there are no program files, or
      what is wrong with the first that cannot be loaded, behind its path. None of the lines is
      about a program file. -/
  refuses : outcome.exit ≠ 0 → outcome.exit = 1 ∧ ∃ complaint,
    linesOf (printed outcome.lines) = ["RESULT:ERROR", "ERROR_CODE:" ++ complaint.code,
      "ERROR_MSG_JSON:" ++ Json.quote complaint.message] ∧
    readComplaint (printed outcome.lines) = some complaint ∧
    (∀ line ∈ linesOf (printed outcome.lines), behind? "PROGRAM:" line = none) ∧
    (files = [] → complaint =
      ⟨"CLI_PROGRAMS_DIR_EMPTY", "No .program.json files under " ++ directory⟩) ∧
    (files ≠ [] → ∃ before path first, FailsFirst files before path first ∧
      complaint = ⟨first.code, shownPath path ++ ": " ++ first.message⟩)

variable {directory : String} {disk : Disk}

/-- The lines of a check that ends well. -/
def reportLines (files : List (List String × ByteArray)) (programs : List Program) : List String :=
  "RESULT:OK" :: (List.zipWith programLine files programs ++ ["CHECKED:" ++ files.length.repr])

theorem checkLines_withPaths (h : List.Forall₂ Loads files programs) :
    checkLines ((withPaths files programs).map fun (path, program) => (path, program.bodyLength)) =
      reportLines files programs := by
  have hlength : (withPaths files programs).length = files.length := by
    rw [withPaths, List.length_zipWith, ← h.length_eq, Nat.min_self]
  have hline : ∀ (file : List String × ByteArray) (program : Program),
      s!"PROGRAM:{pathText file.1}|{program.bodyLength}" = programLine file program := by
    intro file program
    rw [pathText_eq_shownPath]
    rfl
  unfold checkLines
  rw [List.length_map, hlength, List.map_map, withPaths, List.map_zipWith]
  simp only [Function.comp_apply, hline]
  rfl

theorem printed_reportLines (files : List (List String × ByteArray)) (programs : List Program) :
    printed (reportLines files programs) = "RESULT:OK\n" ++
      String.join (List.zipWith (fun file program => programLine file program ++ "\n")
        files programs) ++ ("CHECKED:" ++ files.length.repr ++ "\n") := by
  have hfirst : "RESULT:OK" ++ "\n" = "RESULT:OK\n" := by decide
  unfold printed reportLines
  rw [List.map_cons, List.map_append, List.map_zipWith, List.map_singleton, String.join_cons,
    String.join_append, hfirst, String.join_cons, String.join_nil, String.append_empty,
    ← String.append_assoc]

theorem onOneLine_reportLines (h : List.Forall₂ Loads files programs)
    (hnames : ∀ file ∈ files, ∀ name ∈ file.1, OnOneLine name) :
    ∀ line ∈ reportLines files programs, OnOneLine line := by
  have hmarks : OnOneLine "RESULT:OK" ∧ OnOneLine "PROGRAM:" ∧ OnOneLine "|" ∧
      OnOneLine "CHECKED:" := by decide
  have hprograms : ∀ line ∈ List.zipWith programLine files programs, OnOneLine line := by
    induction h with
    | nil => exact List.forall_mem_nil _
    | cons _ _ ih =>
        obtain ⟨hfirst, hmore⟩ := List.forall_mem_cons.mp hnames
        refine List.forall_mem_cons.mpr ⟨?_, ih hmore⟩
        simp [programLine, hmarks, onOneLine_shownPath hfirst]
  refine List.forall_mem_cons.mpr ⟨hmarks.1, List.forall_mem_append.mpr ⟨hprograms, ?_⟩⟩
  rw [List.forall_mem_singleton, onOneLine_append]
  exact ⟨hmarks.2.2.2, onOneLine_repr _⟩

/-- If all files can be loaded, all are reported. -/
theorem checks_of_loads (h : List.Forall₂ Loads files programs) (hsome : files ≠ []) :
    Checks directory files ⟨0, reportLines files programs, disk⟩ where
  passes := by
    refine iff_of_true rfl ⟨hsome, fun file hfile => ?_⟩
    obtain ⟨k, hk, rfl⟩ := List.getElem_of_mem hfile
    exact ⟨_, h.get hk (h.length_eq ▸ hk)⟩
  reports _ := ⟨programs, h, printed_reportLines files programs,
    fun hnames => linesOf_printed (onOneLine_reportLines h hnames)⟩
  refuses hexit := absurd rfl hexit

variable {complaint : Complaint}

/-- No line of a refusal is about a program file. -/
theorem behind?_program_complaintLines (complaint : Complaint) :
    ∀ line ∈ complaintLines complaint, behind? "PROGRAM:" line = none := by
  have hresult : behind? "PROGRAM:" "RESULT:ERROR" = none := rfl
  have hcode : ∀ value, behind? "PROGRAM:" ("ERROR_CODE:" ++ value) = none :=
    behind?_append_of_ne (by decide)
  have hmessage : ∀ value, behind? "PROGRAM:" ("ERROR_MSG_JSON:" ++ value) = none :=
    behind?_append_of_ne (by decide)
  simp [complaintLines_eq, hresult, hcode, hmessage]

/-- The refusal of a directory without program files. -/
def noPrograms (directory : String) : Complaint :=
  ⟨"CLI_PROGRAMS_DIR_EMPTY", "No .program.json files under " ++ directory⟩

/-- If there are no files, or one of them cannot be loaded, what is said about that is all that is
    printed. -/
theorem checks_of_refusal (hcode : OnOneLine complaint.code)
    (hfails : ¬ (files ≠ [] ∧ ∀ file ∈ files, ∃ program, Loads file program))
    (hnone : files = [] → complaint = noPrograms directory)
    (hfirst : files ≠ [] → ∃ before path first, FailsFirst files before path first ∧
      complaint = first.about (pathText path)) :
    Checks directory files ⟨1, complaintLines complaint, disk⟩ where
  passes := iff_of_false Nat.one_ne_zero hfails
  reports hexit := absurd hexit Nat.one_ne_zero
  refuses _ := by
    have hlines := linesOf_printed (onOneLine_complaintLines hcode)
    refine ⟨rfl, complaint, hlines, readComplaint_printed hcode, ?_, hnone, fun hsome => ?_⟩
    · rw [hlines]
      exact behind?_program_complaintLines complaint
    · obtain ⟨before, path, first, hfails, rfl⟩ := hfirst hsome
      refine ⟨before, path, first, hfails, ?_⟩
      rw [pathText_eq_shownPath]
      rfl

theorem checkDirectory_of_error {tree : List (String × Node)}
    (h : loadAll (programFiles (.folder tree)) = .error complaint) :
    checkDirectory directory (some (.folder tree)) = .error complaint := by
  rw [checkDirectory, h]

theorem checkDirectory_of_nil {tree : List (String × Node)}
    (h : loadAll (programFiles (.folder tree)) = .ok []) :
    checkDirectory directory (some (.folder tree)) = .error (noPrograms directory) := by
  rw [checkDirectory, h]
  rfl

theorem checkDirectory_of_ok {tree : List (String × Node)} {loaded : List (String × Program)}
    (h : loadAll (programFiles (.folder tree)) = .ok loaded) (hsome : loaded ≠ []) :
    checkDirectory directory (some (.folder tree)) =
      .ok (loaded.map fun (path, program) => (path, program.bodyLength)) := by
  cases loaded with
  | nil => exact absurd rfl hsome
  | cons first more =>
      rw [checkDirectory, h]
      exact verifyAll_eq_ok (first :: more)

theorem perform_check (fresh : ActorId) : (Command.check directory).perform disk fresh =
    ⟨(settle (checkLines <$> checkDirectory directory (disk.find? directory))).1,
      (settle (checkLines <$> checkDirectory directory (disk.find? directory))).2, disk⟩ :=
  rfl

/-- **What a check leaves behind** is decided by the program files of the tree. -/
theorem checks_perform {tree : List (String × Node)} (fresh : ActorId)
    (hfound : disk.find? directory = some (.folder tree)) :
    Checks directory (programFiles (.folder tree))
      ((Command.check directory).perform disk fresh) := by
  have hempty : OnOneLine "CLI_PROGRAMS_DIR_EMPTY" := by decide
  rw [perform_check, hfound]
  rcases loads_or_failsFirst (programFiles (.folder tree)) with
    ⟨programs, hloads⟩ | ⟨before, path, complaint, hfails⟩
  · have hload := loadAll_of_loads hloads
    cases hfiles : programFiles (.folder tree) with
    | nil =>
        have hnil : loadAll (programFiles (.folder tree)) = .ok [] := by rw [hfiles, loadAll]
        rw [checkDirectory_of_nil hnil]
        exact checks_of_refusal hempty (fun hall => hall.1 rfl) (fun _ => rfl)
          (fun hsome => absurd rfl hsome)
    | cons file files =>
        have hsome : withPaths (programFiles (.folder tree)) programs ≠ [] := by
          rw [hfiles] at hloads ⊢
          cases hloads
          exact List.cons_ne_nil _ _
        rw [checkDirectory_of_ok hload hsome, ← hfiles]
        show Checks directory _ ⟨0, checkLines _, disk⟩
        rw [checkLines_withPaths hloads]
        exact checks_of_loads hloads (hfiles ▸ List.cons_ne_nil _ _)
  · obtain ⟨bytes, after, hfiles, hbytes⟩ := hfails.place
    rw [checkDirectory_of_error (loadAll_of_failsFirst hfails)]
    refine checks_of_refusal (coded_programOfBytes bytes complaint hbytes)
      (fun hall => hfails.not_forall hall.2) (fun hnone => ?_)
      (fun _ => ⟨before, path, complaint, hfails, rfl⟩)
    rw [hnone] at hfiles
    cases before <;> cases hfiles

/-- **A check reports a whole tree or nothing.** Its program files are the files, at any depth, with
    names that have the end of program files, in the order in which a walk through the tree meets
    them; their paths increase. If there are some and all of them can be loaded, each is reported
    with the number of lines of its bodies, on a line of its own as long as no name has a line feed.
    Otherwise no line is about any of them: it is said that there are none, or what is wrong with
    the first that cannot be loaded. What was loaded never fails the verification. -/
theorem check_reports_all_or_nothing {tree : List (String × Node)} (fresh : ActorId)
    (hfound : disk.find? directory = some (.folder tree)) (htree : (Node.folder tree).Distinct) :
    let files := (Node.folder tree).visited.filter fun file => isProgramPath file.1
    (∀ path bytes, (path, bytes) ∈ files ↔ (Node.folder tree).HasFile path bytes ∧
      ∃ front, path.getLast? = some (front ++ ".program.json")) ∧
    (files.Pairwise fun a b => a.1 < b.1) ∧
    Checks directory files ((Command.check directory).perform disk fresh) ∧
    (∀ program : Program, program.audit program.flatten.map = .ok ()) ∧
    ∀ loaded, ∃ summaries, verifyAll loaded = .ok summaries := by
  refine ⟨fun path bytes => ?_, (Node.pairwise_visited htree).filter _, ?_, audit_flatten,
    fun loaded => ⟨_, verifyAll_eq_ok loaded⟩⟩
  · rw [List.mem_filter, Node.mem_visited, isProgramPath_iff]
    rfl
  · rw [← Node.files_eq_visited htree]
    exact checks_perform fresh hfound

theorem programOfBytes_catOnStage :
    programOfBytes (Codec.programFileText Program.catOnStage).toUTF8 = .ok Program.catOnStage :=
  loadProgram_programFileText Program.validate_catOnStage "cat.program.json"

/-- A directory that is named like a program file is no program file, but there is one below it. The
    path leads from the root, beside the directory in which the program works. -/
theorem nested_programs_are_checked :
    let bytes := (Codec.programFileText Program.catOnStage).toUTF8
    let tree : List (String × Node) :=
      [("z.program.json", .folder [("b.program.json", .file bytes), ("notes.json", .file bytes)]),
       ("c.program.json", .file bytes)]
    let disk : Disk := ⟨.folder [("home", .folder []), ("programs", .folder tree)], ["home"]⟩
    disk.find? "/programs" = some (.folder tree) ∧ (Node.folder tree).Distinct ∧
      ((Command.check "/programs").perform disk ⟨0⟩).exit = 0 ∧
      linesOf (printed ((Command.check "/programs").perform disk ⟨0⟩).lines) = ["RESULT:OK",
        "PROGRAM:c.program.json|3", "PROGRAM:z.program.json/b.program.json|3", "CHECKED:2"] := by
  intro bytes tree disk
  have hbytes : programOfBytes bytes = .ok Program.catOnStage := programOfBytes_catOnStage
  clear_value bytes
  have hfound : disk.find? "/programs" = some (.folder tree) := rfl
  have htree : (Node.folder tree).Distinct := by
    have houter : ["z.program.json", "c.program.json"].Nodup := by decide
    have hinner : ["b.program.json", "notes.json"].Nodup := by decide
    refine .folder houter (List.forall_mem_cons.mpr ⟨.folder hinner ?_, ?_⟩)
    · simp [Node.Distinct.file]
    · simp [Node.Distinct.file]
  have hfiles : ((Node.folder tree).visited.filter fun file => isProgramPath file.1) =
      [(["c.program.json"], bytes), (["z.program.json", "b.program.json"], bytes)] := by
    have houter : ¬ "z.program.json" ≤ "c.program.json" := by decide
    have hinner : "b.program.json" ≤ "notes.json" := by decide
    have hends : isProgramPath ["c.program.json"] ∧
        isProgramPath ["z.program.json", "b.program.json"] ∧
        ¬ isProgramPath ["z.program.json", "notes.json"] := by decide +kernel
    simp [tree, Node.visited, visitedEntries, filesUnder, List.mergeSort,
      List.MergeSort.Internal.splitInTwo, houter, hinner, hends]
  obtain ⟨-, -, hchecks, -⟩ := check_reports_all_or_nothing ⟨0⟩ hfound htree
  rw [hfiles] at hchecks
  have hexit : ((Command.check "/programs").perform disk ⟨0⟩).exit = 0 := by
    refine hchecks.passes.mpr ⟨List.cons_ne_nil _ _, ?_⟩
    simp [Loads, hbytes]
  obtain ⟨programs, hloads, -, hlines⟩ := hchecks.reports hexit
  have hprograms : programs = [Program.catOnStage, Program.catOnStage] :=
    rightUnique_loads hloads (.cons hbytes (.cons hbytes .nil))
  have hnames : ∀ file ∈ [(["c.program.json"], bytes),
      (["z.program.json", "b.program.json"], bytes)], ∀ name ∈ file.1, OnOneLine name := by
    have hfeeds : OnOneLine "c.program.json" ∧ OnOneLine "z.program.json" ∧
        OnOneLine "b.program.json" := by decide
    simp [hfeeds]
  have hprinted : List.zipWith programLine [(["c.program.json"], bytes),
      (["z.program.json", "b.program.json"], bytes)] [Program.catOnStage, Program.catOnStage] =
        ["PROGRAM:c.program.json|3", "PROGRAM:z.program.json/b.program.json|3"] := by
    have hlength : Program.catOnStage.bodyLength = 3 := by decide
    simp only [List.zipWith_cons_cons, List.zipWith_nil_left, programLine, hlength]
    decide +kernel
  refine ⟨hfound, htree, hexit, (hlines hnames).trans ?_⟩
  rw [hprograms, hprinted, List.length_cons, List.length_singleton]
  decide +kernel

/-- A name with a line feed makes two lines of one. The second is about a file that is not there. -/
theorem line_feed_in_name_forges_line :
    let bytes := (Codec.programFileText Program.catOnStage).toUTF8
    let tree : List (String × Node) := [("x|1\nPROGRAM:fake.program.json", .file bytes)]
    let disk : Disk := ⟨.folder [("programs", .folder tree)], []⟩
    let files := (Node.folder tree).visited.filter fun file => isProgramPath file.1
    let outcome := (Command.check "programs").perform disk ⟨0⟩
    disk.find? "programs" = some (.folder tree) ∧ (Node.folder tree).Distinct ∧
      files.length = 1 ∧ outcome.exit = 0 ∧ linesOf (printed outcome.lines) =
        ["RESULT:OK", "PROGRAM:x|1", "PROGRAM:fake.program.json|3", "CHECKED:1"] := by
  intro bytes tree disk files outcome
  have hbytes : programOfBytes bytes = .ok Program.catOnStage := programOfBytes_catOnStage
  clear_value bytes
  have hfound : disk.find? "programs" = some (.folder tree) := rfl
  have htree : (Node.folder tree).Distinct :=
    .folder (List.nodup_singleton _) (List.forall_mem_singleton.mpr (.file bytes))
  have hfiles : files = [(["x|1\nPROGRAM:fake.program.json"], bytes)] := by
    have hends : isProgramPath ["x|1\nPROGRAM:fake.program.json"] := by decide +kernel
    simp [files, tree, Node.visited, visitedEntries, filesUnder, hends]
  have hchecks := checks_perform ⟨0⟩ hfound
  have hsame : programFiles (.folder tree) = files := by
    unfold programFiles
    rw [Node.files_eq_visited htree]
  rw [hsame, hfiles] at hchecks
  have hexit : outcome.exit = 0 := by
    refine hchecks.passes.mpr ⟨List.cons_ne_nil _ _, ?_⟩
    simp [Loads, hbytes]
  obtain ⟨programs, hloads, hprinted, -⟩ := hchecks.reports hexit
  have hprograms : programs = [Program.catOnStage] :=
    rightUnique_loads hloads (.cons hbytes .nil)
  have hlength : Program.catOnStage.bodyLength = 3 := by decide
  refine ⟨hfound, htree, by rw [hfiles]; rfl, hexit, ?_⟩
  rw [hprinted, hprograms]
  simp only [List.zipWith_cons_cons, List.zipWith_nil_left, programLine, hlength,
    List.length_singleton]
  decide +kernel

end Shell

end Stagecraft
