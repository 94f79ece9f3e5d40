import Stagecraft.Proofs.SourceMap.Search
import Stagecraft.SourceMap.Word

/-!
# The search and the runs

`SourceMap.locate` finds the entry of a line by halves and never looks at a run;
`SourceMap.lineRange?` tells the run of an entry and knows nothing of a search. In every map whose
entries stand in the order of their starts the two agree. Nothing else is asked of the map: entries
may start at the same line, the first one behind the first line, and the last ones behind the text.

* `SourceMap.Covers`: a line lies in the run of an entry;
* `SourceMap.Sorted.covers_unique`: runs do not overlap, and `SourceMap.entryBy?_isSome_iff`: they
  leave no gap from the first start to the end of the text;
* `SourceMap.Sorted.locate_eq_some_iff`: what is located is the line's number in the run that
  covers it;
* `SourceMap.locateInWords_eq`, `SourceMap.lineRangeInWords_eq`: machine words are enough for both;
* `SourceMap.locate_reads_line_ranges` puts them together.
-/

namespace Stagecraft

namespace SourceMap

variable {map : SourceMap} {line index : Nat} {entry : MapEntry} {found : Located}

/-! ## 1. Runs -/

/-- The line lies in the run of the entry at an index. -/
def Covers (map : SourceMap) (index line : Nat) : Prop :=
  ∃ start stop, map.lineRange? index = some (start, stop) ∧ start ≤ line ∧ line < stop

/-- A run starts where its entry does, and ends where the next one starts, the last one behind
    the text. -/
theorem lineRange?_eq (map : SourceMap) (index : Nat) :
    map.lineRange? index = map.entries[index]?.map fun entry => (entry.startLine,
      (map.entries[index + 1]?.map MapEntry.startLine).getD (map.lineCount + 1)) := by
  unfold lineRange?
  cases map.entries[index]? with
  | none => rfl
  | some entry => cases map.entries[index + 1]? <;> rfl

/-- A run starts where the one before it ends. -/
theorem start_eq_stop {start stop start' stop' : Nat}
    (hrange : map.lineRange? index = some (start, stop))
    (hnext : map.lineRange? (index + 1) = some (start', stop')) : start' = stop := by
  rw [lineRange?_eq] at hrange hnext
  obtain ⟨next, hentry, heq'⟩ := Option.map_eq_some_iff.mp hnext
  obtain ⟨_, -, heq⟩ := Option.map_eq_some_iff.mp hrange
  rw [hentry] at heq
  exact (congrArg Prod.fst heq').symm.trans (congrArg Prod.snd heq)

/-- The last run ends behind the text. -/
theorem stop_eq_of_last {start stop : Nat} (hindex : index + 1 = map.entries.length)
    (hrange : map.lineRange? index = some (start, stop)) : stop = map.lineCount + 1 := by
  rw [lineRange?_eq, List.getElem?_eq_none (Nat.le_of_eq hindex.symm)] at hrange
  obtain ⟨_, -, heq⟩ := Option.map_eq_some_iff.mp hrange
  exact (congrArg Prod.snd heq).symm

/-- An entry covers the lines from its start on up to the end of its run. -/
theorem covers_iff : map.Covers index line ↔
    ∃ entry, map.entries[index]? = some entry ∧ entry.startLine ≤ line ∧
      line < (map.entries[index + 1]?.map MapEntry.startLine).getD (map.lineCount + 1) := by
  unfold Covers
  rw [lineRange?_eq]
  constructor
  · intro h
    obtain ⟨start, stop, hrange, hstart, hstop⟩ := h
    obtain ⟨entry, hentry, heq⟩ := Option.map_eq_some_iff.mp hrange
    obtain ⟨rfl, rfl⟩ := Prod.mk.inj heq
    exact ⟨entry, hentry, hstart, hstop⟩
  · intro h
    obtain ⟨entry, hentry, hstart, hstop⟩ := h
    exact ⟨_, _, Option.map_eq_some_iff.mpr ⟨entry, hentry, rfl⟩, hstart, hstop⟩

/-- In the text it is enough that the successor has not started yet. -/
theorem lt_stop_iff (hline : line ≤ map.lineCount) :
    line < (map.entries[index + 1]?.map MapEntry.startLine).getD (map.lineCount + 1) ↔
      ∀ next, map.entries[index + 1]? = some next → line < next.startLine := by
  cases map.entries[index + 1]? with
  | none => simp [Nat.lt_succ_of_le hline]
  | some next => simp

/-- **Runs do not overlap.** -/
theorem Sorted.covers_unique (h : map.Sorted) {i j : Nat} (hi : map.Covers i line)
    (hj : map.Covers j line) : i = j := by
  -- the later of two runs does not start before the earlier one has ended
  have hle : ∀ {i j}, map.Covers i line → map.Covers j line → j ≤ i := by
    intro i j hi hj
    obtain ⟨_, -, -, hstop⟩ := covers_iff.mp hi
    obtain ⟨later, hlater, hstart, -⟩ := covers_iff.mp hj
    refine Nat.le_of_not_lt fun hlt => ?_
    have hnext := List.getElem?_eq_getElem
      (Nat.lt_of_le_of_lt hlt (List.getElem?_eq_some_iff.mp hlater).1)
    rw [hnext] at hstop
    have hsorted := h.le hlt hnext hlater
    exact absurd (Nat.lt_of_lt_of_le hstop hsorted) (Nat.not_lt.mpr hstart)
  exact Nat.le_antisymm (hle hj hi) (hle hi hj)

/-! ## 2. The search -/

/-- **The search finds an entry** for each line from the first start on. -/
theorem Sorted.entryBy?_isSome_iff (h : map.Sorted) :
    (map.entryBy? line).isSome = true ↔ ∃ entry ∈ map.entries, entry.startLine ≤ line := by
  constructor
  · intro hfound
    obtain ⟨entry, hentry⟩ := Option.isSome_iff_exists.mp hfound
    obtain ⟨index, hindex, hle, -⟩ := (entryBy?_eq_some_iff h).mp hentry
    exact ⟨entry, List.mem_of_getElem? hindex, hle⟩
  · intro hthere
    obtain ⟨entry, hentry, hle⟩ := hthere
    obtain ⟨index, hlt, rfl⟩ := List.mem_iff_getElem.mp hentry
    obtain ⟨-, hlen, -, hfrom⟩ :=
      bisect_spec (h.startsBy_mono line) 0 map.entries.length (Nat.zero_le _)
    have hstart : map.startsBy line index = true :=
      startsBy_eq_true_iff.mpr ⟨_, List.getElem?_eq_getElem hlt, hle⟩
    unfold entryBy?
    split
    next hzero =>
      rw [hfrom index (by omega) hlt] at hstart
      cases hstart
    next after hafter =>
      have hafter : after < map.entries.length := by omega
      rw [List.getElem?_eq_getElem hafter]
      rfl

/-- **What is located** is the line's number in the run that covers it. -/
theorem Sorted.locate_eq_some_iff (h : map.Sorted) :
    map.locate line = some found ↔ 1 ≤ line ∧ line ≤ map.lineCount ∧
      ∃ index entry, map.entries[index]? = some entry ∧ map.Covers index line ∧
        found = ⟨entry.actor, entry.handler, line - entry.startLine + 1⟩ := by
  unfold locate
  by_cases hout : line = 0 ∨ map.lineCount < line
  · rw [if_pos hout]
    refine iff_of_false (by simp) fun hin => ?_
    omega
  · obtain ⟨hzero, hcount⟩ := not_or.mp hout
    have hline : line ≤ map.lineCount := Nat.le_of_not_lt hcount
    rw [if_neg hout, Option.map_eq_some_iff]
    constructor
    · intro hfound
      obtain ⟨entry, hentry, rfl⟩ := hfound
      obtain ⟨index, hindex, hstart⟩ := (entryBy?_eq_some_iff h).mp hentry
      exact ⟨Nat.one_le_iff_ne_zero.mpr hzero, hline, index, entry, hindex,
        covers_iff.mpr ⟨entry, hindex, hstart.1, (lt_stop_iff hline).mpr hstart.2⟩, rfl⟩
    · intro hcovered
      obtain ⟨-, -, index, entry, hindex, hcovers, rfl⟩ := hcovered
      obtain ⟨entry', hindex', hstart, hstop⟩ := covers_iff.mp hcovers
      obtain rfl : entry = entry' := Option.some.inj (hindex.symm.trans hindex')
      exact ⟨entry, (entryBy?_eq_some_iff h).mpr
        ⟨index, hindex, hstart, (lt_stop_iff hline).mp hstop⟩, rfl⟩

theorem Sorted.locate_isSome_iff (h : map.Sorted) :
    (map.locate line).isSome = true ↔ 1 ≤ line ∧ line ≤ map.lineCount ∧
      ∃ entry ∈ map.entries, entry.startLine ≤ line := by
  rw [← h.entryBy?_isSome_iff]
  unfold locate
  split
  · simp only [Option.isSome_none, Bool.false_eq_true, false_iff]
    omega
  · rw [Option.isSome_map]
    refine ⟨fun hfound => ⟨?_, ?_, hfound⟩, fun hin => hin.2.2⟩ <;> omega

/-! ## 3. Machine words -/

/-- **Words are enough to locate a line** of a text that is not as long as there are words. -/
theorem Sorted.locateInWords_eq (h : map.Sorted) (hcount : map.lineCount + 1 < UInt64.size)
    (line : Nat) : map.locateInWords line = .ok (map.locate line) := by
  unfold locateInWords locate
  split
  next => rfl
  next hin =>
    cases hentry : map.entryBy? line with
    | none => rfl
    | some entry =>
        obtain ⟨_, -, hle, -⟩ := (entryBy?_eq_some_iff h).mp hentry
        have hword : line - entry.startLine + 1 < UInt64.size := by omega
        dsimp only
        rw [Word.sub_eq_ok hle]
        show (Word.add (line - entry.startLine) 1 >>= _) = _
        rw [Word.add_eq_ok hword]
        rfl

/-- **Words are enough for the runs** of as many entries as there are words to count them. -/
theorem lineRangeInWords_eq (hcount : map.lineCount + 1 < UInt64.size)
    (hlength : map.entries.length < UInt64.size) (index : Nat) :
    map.lineRangeInWords index = .ok (map.lineRange? index) := by
  rw [lineRange?_eq]
  unfold lineRangeInWords
  cases hentry : map.entries[index]? with
  | none => rfl
  | some entry =>
      have hlt : index < map.entries.length := (List.getElem?_eq_some_iff.mp hentry).1
      dsimp only
      rw [Word.add_eq_ok (Nat.lt_of_le_of_lt hlt hlength)]
      show (Word.add map.lineCount 1 >>= _) = _
      rw [Word.add_eq_ok hcount]
      rfl

/-- With one line more there is no word for the line behind the text. -/
example : lineRangeInWords ⟨[⟨1, ⟨1⟩, ⟨1⟩⟩], UInt64.size - 1⟩ 0 = .error .overflow := rfl

/-! ## 4. Together -/

/-- **To locate a line is to read it off the runs.** In a map whose entries stand in the order of
    their starts, with fewer lines than the largest word, the lines of the text from the first start
    on are located. Each of them lies in the run of one entry; what is located is that entry's actor
    and handler, and the line's number in the run, which goes from one to the length of the run. No
    sum on the way is too large for a word and no difference is below zero, as long as words can
    count the entries. -/
theorem locate_reads_line_ranges (hsorted : map.Sorted) (hcount : map.lineCount < UInt64.size - 1)
    (line : Nat) :
    ((map.locate line).isSome = true ↔
      1 ≤ line ∧ line ≤ map.lineCount ∧ ∃ entry ∈ map.entries, entry.startLine ≤ line) ∧
    (∀ found, map.locate line = some found →
      ∃ index entry stop, map.entries[index]? = some entry ∧
        map.lineRange? index = some (entry.startLine, stop) ∧
        entry.startLine ≤ line ∧ line < stop ∧
        (∀ other, map.Covers other line → other = index) ∧
        found.actor = entry.actor ∧ found.handler = entry.handler ∧
        found.lineWithin = line - entry.startLine + 1 ∧
        1 ≤ found.lineWithin ∧ found.lineWithin ≤ stop - entry.startLine) ∧
    map.locateInWords line = .ok (map.locate line) ∧
    (map.entries.length < UInt64.size →
      ∀ index, map.lineRangeInWords index = .ok (map.lineRange? index)) := by
  have hword : map.lineCount + 1 < UInt64.size := by omega
  refine ⟨hsorted.locate_isSome_iff, fun found hfound => ?_, hsorted.locateInWords_eq hword line,
    fun hlength => lineRangeInWords_eq hword hlength⟩
  obtain ⟨-, -, index, entry, hindex, hcovers, rfl⟩ := hsorted.locate_eq_some_iff.mp hfound
  obtain ⟨start, stop, hrange, hstart, hstop⟩ := id hcovers
  obtain rfl : entry.startLine = start := by
    rw [lineRange?_eq, hindex] at hrange
    exact congrArg Prod.fst (Option.some.inj hrange)
  exact ⟨index, entry, stop, hindex, hrange, hstart, hstop,
    fun other hother => hsorted.covers_unique hother hcovers, rfl, rfl, rfl,
    Nat.le_add_left 1 _, by dsimp only; omega⟩

/-- A map as no flattening makes it: it starts before the first line, two of its entries start at
    the second, and one starts behind the text. The fourth line is the third of the later of the
    two. -/
theorem locate_between_ties :
    let map : SourceMap :=
      ⟨[⟨0, ⟨1⟩, ⟨1⟩⟩, ⟨2, ⟨1⟩, ⟨2⟩⟩, ⟨2, ⟨2⟩, ⟨3⟩⟩, ⟨9, ⟨2⟩, ⟨4⟩⟩], 5⟩
    map.Sorted ∧ map.lineCount < UInt64.size - 1 ∧ (map.locate 4).isSome = true ∧
      map.locateInWords 4 = .ok (some ⟨⟨2⟩, ⟨3⟩, 3⟩) := by
  intro map
  have hsorted : map.Sorted := by
    unfold Sorted
    decide
  have hcount : map.lineCount < UInt64.size - 1 := by decide
  obtain ⟨hsome, hread, hwords, -⟩ := locate_reads_line_ranges hsorted hcount 4
  have hthere : (map.locate 4).isSome = true :=
    hsome.mpr ⟨by decide, by decide, _, List.mem_cons_self, by decide⟩
  refine ⟨hsorted, hcount, hthere, ?_⟩
  obtain ⟨found, hfound⟩ := Option.isSome_iff_exists.mp hthere
  obtain ⟨index, entry, stop, hindex, -, -, -, hunique, hactor, hhandler, hwithin, -⟩ :=
    hread found hfound
  obtain rfl : 2 = index := hunique 2 ⟨2, 9, rfl, by decide, by decide⟩
  cases hindex
  rw [hwords, hfound]
  obtain ⟨actor, handler, within⟩ := found
  cases hactor
  cases hhandler
  cases hwithin
  rfl

end SourceMap

end Stagecraft
