import Mathlib.Data.Nat.Find
import Stagecraft.Flattening
import Stagecraft.Proofs.Program.Validation
import Stagecraft.SourceMap.Audit

/-!
# What the audit of a source map tells

`Program.audit` counts lines while it walks over handlers and entries side by side;
`Program.flatten` writes the entries down in advance. The audit is the comparison with what the
flattening has written:

* `Program.auditEntries_entriesFrom`: entries as the flattening writes them are accepted, and the
  line after them is that after all bodies;
* `Program.auditEntries_of_difference`: otherwise the first entry that differs is reported, by what
  differs in it;
* `SourceMap.exists_differsFirst`: maps with equally many entries have the same entries, or there
  is a first one that differs;
* `Program.audit_names_first_difference` puts them together.

Nothing is asked of the tree or of the map here: neither has to be well formed or sorted.
-/

namespace Stagecraft

/-! ## 1. How a map differs from the right one -/

/-- The first entry in which a map differs from the right one, which has as many entries. -/
structure SourceMap.DiffersFirst (right map : SourceMap) (index : Nat)
    (expected found : MapEntry) : Prop where
  same_length : map.entries.length = right.entries.length
  same_before : ∀ i < index, map.entries[i]? = right.entries[i]?
  expected_there : right.entries[index]? = some expected
  found_there : map.entries[index]? = some found
  differ : found ≠ expected

/-- **Maps with equally many entries have the same entries, or there is a first that differs.** -/
theorem SourceMap.exists_differsFirst {right map : SourceMap}
    (hlen : map.entries.length = right.entries.length) (hne : map.entries ≠ right.entries) :
    ∃ index expected found, right.DiffersFirst map index expected found := by
  have hsome : ∃ i : Nat, map.entries[i]? ≠ right.entries[i]? := by
    by_contra hall
    refine hne (List.ext_getElem? fun i => ?_)
    by_contra h
    exact hall ⟨i, h⟩
  classical
  have hlt : Nat.find hsome < right.entries.length := by
    refine Nat.lt_of_not_le fun hge => Nat.find_spec hsome ?_
    rw [List.getElem?_eq_none hge, List.getElem?_eq_none (hlen ▸ hge)]
  have hexpected := List.getElem?_eq_getElem hlt
  have hfound := List.getElem?_eq_getElem (hlen.symm ▸ hlt : Nat.find hsome < map.entries.length)
  refine ⟨Nat.find hsome, _, _, hlen, fun i hi => not_not.mp (Nat.find_min hsome hi), hexpected,
    hfound, fun heq => Nat.find_spec hsome ?_⟩
  rw [hexpected, hfound, heq]

/-- The fault of an entry that is not the expected one: its place is another handler's, or only
    its run starts elsewhere. -/
def MapFault.ofEntry (index : Nat) (expected found : MapEntry) : MapFault :=
  if found.actor ≠ expected.actor ∨ found.handler ≠ expected.handler then
    .order index expected.handler
  else .gap index found.startLine expected.startLine

namespace Program

variable {program : Program} {map : SourceMap} {index : Nat} {expected found : MapEntry}

/-! ## 2. Entries against handlers -/

theorem length_entriesFrom : ∀ (line : Nat) (sections : List (ActorId × Handler)),
    (entriesFrom line sections).length = sections.length
  | _, [] => rfl
  | line, (_, handler) :: sections => by
      rw [entriesFrom, List.length_cons, List.length_cons, length_entriesFrom]

/-- **What the flattening writes is accepted.** -/
theorem auditEntries_entriesFrom : ∀ (index line : Nat) (sections : List (ActorId × Handler)),
    auditEntries index line sections (entriesFrom line sections) =
      .ok (line + (sections.flatMap fun (_, handler) => handler.body).length)
  | _, _, [] => rfl
  | index, line, (actor, handler) :: sections => by
      rw [entriesFrom, auditEntries, if_neg (by simp), if_neg (by simp),
        auditEntries_entriesFrom (index + 1), List.flatMap_cons, List.length_append, Nat.add_assoc]

theorem auditEntries_cons_of_ne {line : Nat} {actor : ActorId} {handler : Handler}
    {sections : List (ActorId × Handler)} {entries : List MapEntry}
    (h : found ≠ ⟨line, actor, handler.id⟩) :
    auditEntries index line ((actor, handler) :: sections) (found :: entries) =
      .error (.ofEntry index ⟨line, actor, handler.id⟩ found) := by
  unfold auditEntries MapFault.ofEntry
  by_cases hids : found.actor ≠ actor ∨ found.handler ≠ handler.id
  · rw [if_pos hids, if_pos hids]
  · have hstart : found.startLine ≠ line := by
      intro hline
      obtain ⟨hactor, hhandler⟩ := not_or.mp hids
      obtain ⟨start, owner, id⟩ := found
      exact h (by rw [MapEntry.mk.injEq]; exact ⟨hline, not_not.mp hactor, not_not.mp hhandler⟩)
    rw [if_neg hids, if_neg hids, if_pos hstart]

/-- **The first entry that is not as the flattening writes it is reported.** The induction is on
    the handlers; an entry that agrees moves both sides on by the same number of lines. -/
theorem auditEntries_of_difference : ∀ {sections : List (ActorId × Handler)}
    {entries : List MapEntry} {place : Nat} (index line : Nat),
    (∀ i < place, entries[i]? = (entriesFrom line sections)[i]?) →
    (entriesFrom line sections)[place]? = some expected → entries[place]? = some found →
    found ≠ expected →
    auditEntries index line sections entries = .error (.ofEntry (index + place) expected found)
  | [], _, _, _, _, _, hexpected, _, _ => by
      rw [entriesFrom, List.getElem?_nil] at hexpected
      cases hexpected
  | (_, _) :: _, [], _, _, _, _, _, hfound, _ => by
      rw [List.getElem?_nil] at hfound
      cases hfound
  | (actor, handler) :: sections, entry :: entries, 0, index, line, _, hexpected, hfound, hne => by
      cases hexpected
      cases hfound
      exact auditEntries_cons_of_ne hne
  | (actor, handler) :: sections, entry :: entries, place + 1, index, line, hbefore, hexpected,
      hfound, hne => by
      have hentry : entry = ⟨line, actor, handler.id⟩ :=
        Option.some.inj (hbefore 0 (Nat.succ_pos place))
      have hrest : auditEntries (index + 1) (line + handler.body.length) sections entries =
          .error (.ofEntry (index + 1 + place) expected found) :=
        auditEntries_of_difference _ _ (fun i hi => hbefore (i + 1) (Nat.succ_lt_succ hi))
          hexpected hfound hne
      rw [hentry, auditEntries, if_neg (by simp), if_neg (by simp), hrest, Nat.add_assoc,
        Nat.add_comm 1 place]

/-! ## 3. A map against a program -/

theorem audit_of_length_ne (h : map.entries.length ≠ program.flatten.map.entries.length) :
    program.audit map =
      .error (.coverage program.flatten.map.entries.length map.entries.length) := by
  have hlen : program.flatten.map.entries.length = program.sections.length :=
    length_entriesFrom 1 program.sections
  rw [hlen] at h ⊢
  rw [audit, if_pos (Ne.symm h)]

theorem audit_of_differsFirst (h : program.flatten.map.DiffersFirst map index expected found) :
    program.audit map = .error (.ofEntry index expected found) := by
  have hlen : map.entries.length = program.sections.length :=
    h.same_length.trans (length_entriesFrom 1 program.sections)
  have hfirst := auditEntries_of_difference 0 1 h.same_before h.expected_there h.found_there
    h.differ
  rw [audit, if_neg (not_not.mpr hlen.symm), hfirst, Nat.zero_add]

theorem audit_of_entries_eq (h : map.entries = program.flatten.map.entries) :
    program.audit map = if map.lineCount = program.flatten.map.lineCount then .ok ()
      else .error (.lineCount program.flatten.map.lineCount map.lineCount) := by
  have hentries : map.entries = entriesFrom 1 program.sections := h
  have hlast : auditEntries 0 1 program.sections map.entries =
      .ok (1 + program.flatten.map.lineCount) := by
    rw [hentries]
    exact auditEntries_entriesFrom 0 1 program.sections
  rw [audit, if_neg (by rw [hentries, length_entriesFrom]; simp), hlast]
  by_cases hcount : map.lineCount = program.flatten.map.lineCount
  · simp only [hcount, Nat.add_comm 1, if_true]
  · have hne : ¬ 1 + program.flatten.map.lineCount = map.lineCount + 1 := by omega
    simp only [hne, hcount, if_false, Nat.add_sub_cancel_left]

end Program

/-! ## 4. The verdict -/

namespace SourceMap

/-- The verdict on a map, told by the right one. -/
inductive Verdict (right map : SourceMap) : Except MapFault Unit → Prop where
  | coverage (h : map.entries.length ≠ right.entries.length) :
      Verdict right map (.error (.coverage right.entries.length map.entries.length))
  | entry {index : Nat} {expected found : MapEntry}
      (h : right.DiffersFirst map index expected found) :
      Verdict right map (.error (.ofEntry index expected found))
  | lineCount (hentries : map.entries = right.entries) (hcount : map.lineCount ≠ right.lineCount) :
      Verdict right map (.error (.lineCount right.lineCount map.lineCount))
  | accepted (h : map = right) : Verdict right map (.ok ())

/-- What the code of a fault tells of the map. -/
theorem Verdict.of_code {right map : SourceMap} {fault : MapFault}
    (h : right.Verdict map (.error fault)) :
    (fault.code = "SOURCE_MAP_COVERAGE" → map.entries.length ≠ right.entries.length) ∧
      (fault.code = "SOURCE_MAP_LINE_COUNT" →
        map.entries = right.entries ∧ map.lineCount ≠ right.lineCount) := by
  cases h with
  | coverage h => simp [MapFault.code, h]
  | entry h =>
      unfold MapFault.ofEntry
      split <;> simp [MapFault.code]
  | lineCount hentries hcount => simp [MapFault.code, hentries, hcount]

end SourceMap

namespace Program

variable {program : Program} {map : SourceMap}

/-- **The audit passes the verdict.** -/
theorem audit_verdict (program : Program) (map : SourceMap) :
    program.flatten.map.Verdict map (program.audit map) := by
  by_cases hlen : map.entries.length = program.flatten.map.entries.length
  · by_cases hentries : map.entries = program.flatten.map.entries
    · rw [audit_of_entries_eq hentries]
      by_cases hcount : map.lineCount = program.flatten.map.lineCount
      · rw [if_pos hcount]
        refine .accepted ?_
        cases map
        cases hentries
        cases hcount
        rfl
      · rw [if_neg hcount]
        exact .lineCount hentries hcount
    · obtain ⟨index, expected, found, hdiffers⟩ := SourceMap.exists_differsFirst hlen hentries
      rw [audit_of_differsFirst hdiffers]
      exact .entry hdiffers
  · rw [audit_of_length_ne hlen]
    exact .coverage hlen

/-- **The map that is accepted** is that of the flattening. -/
theorem audit_eq_ok_iff : program.audit map = .ok () ↔ map = program.flatten.map := by
  constructor
  · intro hok
    have hverdict := audit_verdict program map
    rw [hok] at hverdict
    cases hverdict with
    | accepted h => exact h
  · rintro rfl
    rw [audit_of_entries_eq rfl, if_pos rfl]

/-- A reported code is the code of a fault. -/
theorem exists_fault_of_report {outcome : Except MapFault Unit} {code words : String}
    (h : outcome.mapError MapFault.complaint = .error ⟨code, words⟩) :
    ∃ fault, outcome = .error fault ∧ fault.code = code := by
  cases outcome with
  | error fault => exact ⟨fault, rfl, congrArg Complaint.code (Except.error.inj h)⟩
  | ok _ => cases h

/-- **The audit names the first difference.** The map that is accepted is that of the flattening,
    so a map of an earlier tree is not, unless that is the map still. Of any other map the audit
    tells that it has more or fewer entries; or else the first entry that differs, and whether it
    is another handler's or only starts at another line; or else that all entries are right and
    only the number of lines is not. -/
theorem audit_names_first_difference (program : Program) (map : SourceMap) :
    let right := program.flatten.map
    let report := (program.audit map).mapError MapFault.complaint
    (report = .ok () ↔ map = right) ∧
    ((∃ words, report = .error ⟨"SOURCE_MAP_COVERAGE", words⟩) ↔
      map.entries.length ≠ right.entries.length) ∧
    (∀ index expected found, right.DiffersFirst map index expected found →
      (found.actor ≠ expected.actor ∨ found.handler ≠ expected.handler →
        report = .error ⟨"SOURCE_MAP_ORDER",
          s!"Entry {index} does not match handler {expected.handler.text}."⟩) ∧
      (found.actor = expected.actor ∧ found.handler = expected.handler →
        report = .error ⟨"SOURCE_MAP_GAP",
          s!"Entry {index} starts at line {found.startLine}, expected {expected.startLine}."⟩)) ∧
    ((∃ words, report = .error ⟨"SOURCE_MAP_LINE_COUNT", words⟩) ↔
      map.entries = right.entries ∧ map.lineCount ≠ right.lineCount) := by
  intro right report
  have hverdict : right.Verdict map (program.audit map) := audit_verdict program map
  have hreport : report = (program.audit map).mapError MapFault.complaint := rfl
  refine ⟨?_, ⟨fun h => ?_, fun hlen => ?_⟩, fun index expected found hdiffers => ?_,
    ⟨fun h => ?_, fun h => ?_⟩⟩
  · rw [← audit_eq_ok_iff, hreport]
    cases program.audit map <;> simp [Except.mapError]
  · obtain ⟨words, h⟩ := h
    obtain ⟨fault, hfault, hcode⟩ := exists_fault_of_report h
    rw [hfault] at hverdict
    exact hverdict.of_code.1 hcode
  · rw [hreport, audit_of_length_ne hlen]
    exact ⟨_, rfl⟩
  · rw [hreport, audit_of_differsFirst hdiffers]
    refine ⟨fun hids => ?_, fun hids => ?_⟩
    · rw [MapFault.ofEntry, if_pos hids]
      rfl
    · rw [MapFault.ofEntry, if_neg (not_or.mpr ⟨not_not.mpr hids.1, not_not.mpr hids.2⟩)]
      rfl
  · obtain ⟨words, h⟩ := h
    obtain ⟨fault, hfault, hcode⟩ := exists_fault_of_report h
    rw [hfault] at hverdict
    exact hverdict.of_code.2 hcode
  · rw [hreport, audit_of_entries_eq h.1, if_neg h.2]
    exact ⟨_, rfl⟩

/-- The map from before the stage got its second line: the entries up to the cat's first handler
    agree. -/
theorem audit_before_second_line :
    let earlier : SourceMap :=
      ⟨[⟨1, ⟨1⟩, ⟨1⟩⟩, ⟨1, ⟨1⟩, ⟨2⟩⟩, ⟨2, ⟨2⟩, ⟨3⟩⟩, ⟨2, ⟨2⟩, ⟨4⟩⟩, ⟨3, ⟨2⟩, ⟨5⟩⟩], 2⟩
    catOnStage.flatten.map.DiffersFirst earlier 2 ⟨3, ⟨2⟩, ⟨3⟩⟩ ⟨2, ⟨2⟩, ⟨3⟩⟩ ∧
    (catOnStage.audit earlier).mapError MapFault.complaint =
      .error ⟨"SOURCE_MAP_GAP", "Entry 2 starts at line 2, expected 3."⟩ := by
  intro earlier
  have hdiffers : catOnStage.flatten.map.DiffersFirst earlier 2 ⟨3, ⟨2⟩, ⟨3⟩⟩ ⟨2, ⟨2⟩, ⟨3⟩⟩ :=
    ⟨by decide, by decide, by decide, by decide, by decide⟩
  refine ⟨hdiffers, ?_⟩
  exact ((audit_names_first_difference catOnStage earlier).2.2.1 _ _ _ hdiffers).2 ⟨rfl, rfl⟩

end Program

end Stagecraft
