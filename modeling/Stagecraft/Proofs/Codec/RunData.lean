import Stagecraft.Codec.Flattening
import Stagecraft.Codec.RunResult
import Stagecraft.Proofs.Codec.Program

/-!
# What a run leaves is written and read without loss

A flattening with its source map, and a run result, are written as texts and read again later, by
something else, to lead an error back to its handler. Nothing is lost on the way, as long as line
numbers are words of 64 bits.

* `SourceMap.FitsWord` and `RunResult.FitsWord`: the line numbers are;
* `Codec.reads_flattening`: a source map is read back with all its entries, and a flattening with
  its text, whether the two belong to each other or not;
* `Codec.reads_runResult`: a run result is read back, and so is its missing line;
* `Codec.attributionOfTexts` leads an error back from what was written, and
  `Codec.run_data_reads_back` says that it is the same as from what there was.
-/

namespace Stagecraft

/-- All numbers of the map are words of 64 bits. -/
structure SourceMap.FitsWord (map : SourceMap) : Prop where
  starts : ∀ entry ∈ map.entries, entry.startLine < UInt64.size
  lineCount : map.lineCount < UInt64.size

/-- The line of the error, if there is one, is a word of 64 bits. -/
def RunResult.FitsWord : RunResult → Prop
  | .success _ => True
  | .failed errorLine _ _ => ∀ line ∈ errorLine, line < UInt64.size

namespace Codec

open Json

variable {room : Nat}

/-! ## 1. Source maps and flattenings -/

theorem reads_scanSize {n : Nat} (h : n < UInt64.size) :
    Reads (scanSize room) (Value.ofNat n) n :=
  Json.reads_scanSize h

theorem reads_mapEntry {entry : MapEntry} (h : entry.startLine < UInt64.size) :
    Reads (mapEntryRecord.scan (room + 1)) (ofMapEntry entry) entry := by
  refine Record.reads (.field (Record.stepReads_slot rfl rfl rfl (reads_scanSize h)) <|
    .field (Record.stepReads_slot rfl rfl rfl (reads_actorId entry.actor)) <|
    .field (Record.stepReads_slot rfl rfl rfl (reads_handlerId entry.handler)) <| .done _) ?_
  rfl

/-- **A source map is read back**, with all its entries in their order. -/
theorem reads_sourceMap {map : SourceMap} (h : map.FitsWord) :
    Reads (sourceMapRecord.scan (room + 3)) (ofSourceMap map) map := by
  have hentries : Reads (scanList mapEntryRecord.scan (room + 2))
      (.array (map.entries.map ofMapEntry)) map.entries :=
    reads_list fun entry hentry => reads_mapEntry (h.starts entry hentry)
  refine Record.reads (.field (Record.stepReads_slot rfl rfl rfl hentries) <|
    .field (Record.stepReads_slot rfl rfl rfl (reads_scanSize h.lineCount)) <| .done _) ?_
  rfl

/-- **A flattening is read back**, whether the map is the one of the text or not. -/
theorem reads_flattening {flattening : Flattening} (h : flattening.map.FitsWord) :
    Reads (flatteningRecord.scan (room + 4)) (ofFlattening flattening) flattening := by
  refine Record.reads
    (.field (Record.stepReads_slot rfl rfl rfl (reads_scanString flattening.text)) <|
      .field (Record.stepReads_slot rfl rfl rfl (reads_sourceMap h)) <| .done _) ?_
  rfl

/-! ## 2. Run results -/

@[simp] theorem toTexts_ofTexts (texts : List String) :
    (Value.ofTexts texts).toTexts = .ok texts := by
  show (texts.map Value.string).mapM Value.toText = .ok texts
  induction texts with
  | nil => rfl
  | cons text texts ih =>
      rw [List.map_cons, List.mapM_cons, ih]
      rfl

/-- The line is read from what was kept of it beside the tag, `null` included. -/
@[simp] theorem toOptionalSize_ofLine (errorLine : Option Nat) :
    (ofLine errorLine).toOptionalSize = .ok errorLine := by
  cases errorLine <;> rfl

theorem fits_texts (texts : List String) : Fits (room + 1) (Value.ofTexts texts) := by
  refine .array fun item hitem => ?_
  obtain ⟨text, -, rfl⟩ := List.mem_map.mp hitem
  exact .string room text

theorem fits_line {errorLine : Option Nat} (h : ∀ line ∈ errorLine, line < UInt64.size) :
    Fits room (ofLine errorLine) := by
  cases errorLine with
  | none => exact .null room
  | some line => exact .size room (h line rfl)

/-- **A run result is read back.** Its fields are kept as values until the tag is known, and lose
    nothing by that. -/
theorem reads_runResult {result : RunResult} (h : result.FitsWord) :
    Reads (scanRunResult (room + 2)) (ofRunResult result) result := by
  cases result with
  | success output =>
      refine reads_variant rfl (List.forall_mem_singleton.mpr ?_) ?_
      · exact ⟨by simp [tagKey], (fits_texts output).reads⟩
      · simp [runResultOfTagged, successVariant, Variant.ofContent, Variant.takeFields, required]
  | failed errorLine message output =>
      refine reads_variant rfl (List.forall_mem_cons.mpr ⟨?_, List.forall_mem_cons.mpr
        ⟨?_, List.forall_mem_singleton.mpr ?_⟩⟩) ?_
      · exact ⟨by simp [tagKey], (fits_line h).reads⟩
      · exact ⟨by simp [tagKey], reads_string (room + 1) message⟩
      · exact ⟨by simp [tagKey], (fits_texts output).reads⟩
      · simp [runResultOfTagged, failedVariant, Variant.ofContent, Variant.takeFields, required,
          Value.toText]
        rfl

/-! ## 3. Attributions -/

/-- The attribution of a result to a program, from the texts of what ran and of the result. -/
def attributionOfTexts (program : Program) (ran result : String) :
    Except Fault (Option Attribution) := do
  let ran ← parseFlattening ran
  let result ← parseRunResult result
  return program.attribution? ran result

variable {map : SourceMap} {flattening : Flattening} {result : RunResult}

theorem parse_scanTrigger_text (trigger : Trigger) (layout : Layout) :
    parse scanTrigger ((ofTrigger trigger).text layout) = .ok trigger := by
  have hread : Reads (scanTrigger (126 + 1)) (ofTrigger trigger) trigger := reads_trigger trigger
  exact parse_text_of_reads hread layout

theorem parseSourceMap_text (h : map.FitsWord) (layout : Layout) :
    parseSourceMap ((ofSourceMap map).text layout) = .ok map := by
  have hread : Reads (sourceMapRecord.scan (124 + 3)) (ofSourceMap map) map := reads_sourceMap h
  exact parse_text_of_reads hread layout

theorem parseFlattening_text (h : flattening.map.FitsWord) (layout : Layout) :
    parseFlattening ((ofFlattening flattening).text layout) = .ok flattening := by
  have hread : Reads (flatteningRecord.scan (123 + 4)) (ofFlattening flattening) flattening :=
    reads_flattening h
  exact parse_text_of_reads hread layout

theorem parseRunResult_text (h : result.FitsWord) (layout : Layout) :
    parseRunResult ((ofRunResult result).text layout) = .ok result := by
  have hread : Reads (scanRunResult (125 + 2)) (ofRunResult result) result := reads_runResult h
  exact parse_text_of_reads hread layout

/-- **What a run leaves loses nothing in its texts.** Every trigger, and every source map,
    flattening and run result whose line numbers are words of 64 bits, is what its text is read as,
    in either layout. So an error is attributed to a program in the same way after what ran and the
    result have been written and read. -/
theorem run_data_reads_back :
    (∀ (trigger : Trigger) (layout : Layout),
      parse scanTrigger ((ofTrigger trigger).text layout) = .ok trigger) ∧
    (∀ (map : SourceMap) (layout : Layout), map.FitsWord →
      parseSourceMap ((ofSourceMap map).text layout) = .ok map) ∧
    (∀ (flattening : Flattening) (layout : Layout), flattening.map.FitsWord →
      parseFlattening ((ofFlattening flattening).text layout) = .ok flattening) ∧
    (∀ (result : RunResult) (layout : Layout), result.FitsWord →
      parseRunResult ((ofRunResult result).text layout) = .ok result) ∧
    ∀ (program : Program) (ran : Flattening) (result : RunResult) (layout layout' : Layout),
      ran.map.FitsWord → result.FitsWord →
        attributionOfTexts program ((ofFlattening ran).text layout)
          ((ofRunResult result).text layout') = .ok (program.attribution? ran result) := by
  refine ⟨parse_scanTrigger_text, fun map layout h => parseSourceMap_text h layout,
    fun flattening layout h => parseFlattening_text h layout,
    fun result layout h => parseRunResult_text h layout,
    fun program ran result layout layout' hran hresult => ?_⟩
  rw [attributionOfTexts, parseFlattening_text hran, parseRunResult_text hresult]
  rfl

/-- An error in the last line for which there is a number leads to the cat, also after both texts,
    and beside a text that has no such line. -/
theorem last_line_leads_to_cat :
    let ran : Flattening :=
      ⟨"say(\"ü\t\");\n", ⟨[⟨0, ⟨1⟩, ⟨2⟩⟩, ⟨UInt64.size - 2, ⟨2⟩, ⟨4⟩⟩], UInt64.size - 1⟩⟩
    let result : RunResult := .failed (some (UInt64.size - 1)) "no such\u0000 name" ["a\r", ""]
    attributionOfTexts Program.catOnStage ((ofFlattening ran).text .indented)
      ((ofRunResult result).text .compact) =
        .ok (some (.located ⟨⟨2⟩, ⟨4⟩, 2⟩ "Cat" "no such\u0000 name")) := by
  intro ran result
  have hran : ran.map.FitsWord := ⟨by decide, by decide⟩
  have hresult : result.FitsWord := by
    intro line hline
    cases hline
    decide
  have hline : ran.map.locate (UInt64.size - 1) = some ⟨⟨2⟩, ⟨4⟩, 2⟩ := by
    simp [ran, SourceMap.locate, SourceMap.entryBy?, SourceMap.startsBy, bisect, UInt64.size]
  rw [run_data_reads_back.2.2.2.2 Program.catOnStage ran result .indented .compact hran hresult]
  simp only [Program.attribution?, result, Option.bind_some, hline]
  rfl

end Codec

end Stagecraft
