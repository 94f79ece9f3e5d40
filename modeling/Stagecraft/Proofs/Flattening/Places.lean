import Stagecraft.Flattening
import Stagecraft.Program.WellFormed
import Stagecraft.Proofs.SourceMap.Search

/-!
# The lines of a flattening and their places

`Program.placedLines` lists the lines of the text in order, each with the place in the tree that it
comes from. It knows nothing of start lines or of a search, and what is said of a flattening here
and later is said by way of it:

* `Program.locate_flatten`: to locate a line is to look it up in that list;
* `Program.mem_placedLines`: what is in the list;
* `Program.WellFormed.nodup_places`: in a tree with distinct handlers no place occurs twice;
* `Program.startLine?_flatten`: the start of a handler counts the lines listed before it.
-/

namespace Stagecraft

/-! ## 1. Lines with their places -/

/-- The lines of a handler's body in order, each with its place. -/
def Handler.placed (handler : Handler) (actor : ActorId) : List (Located × String) :=
  handler.body.mapIdx fun index line => (⟨actor, handler.id, index + 1⟩, line)

namespace Handler

variable {handler : Handler} {actor : ActorId}

@[simp] theorem length_placed : (handler.placed actor).length = handler.body.length :=
  List.length_mapIdx

theorem getElem?_placed {index : Nat} : (handler.placed actor)[index]? =
    handler.body[index]?.map fun line => (⟨actor, handler.id, index + 1⟩, line) :=
  List.getElem?_mapIdx

theorem map_snd_placed : (handler.placed actor).map Prod.snd = handler.body := by
  refine List.ext_getElem? fun index => ?_
  rw [List.getElem?_map, getElem?_placed, Option.map_map]
  exact Option.map_id'

theorem mem_placed {found : Located} {line : String} :
    (found, line) ∈ handler.placed actor ↔ found.actor = actor ∧ found.handler = handler.id ∧
      1 ≤ found.lineWithin ∧ handler.body[found.lineWithin - 1]? = some line := by
  rw [List.mem_iff_getElem?]
  simp only [getElem?_placed, Option.map_eq_some_iff, Prod.mk.injEq]
  constructor
  · intro h
    obtain ⟨index, words, hwords, rfl, rfl⟩ := h
    exact ⟨rfl, rfl, Nat.le_add_left 1 index, hwords⟩
  · intro h
    obtain ⟨rfl, hh, hk, hline⟩ := h
    refine ⟨found.lineWithin - 1, line, hline, ?_, rfl⟩
    rw [← hh, Nat.sub_add_cancel hk]

end Handler

namespace Program

/-- The lines of handlers in order, each with its place. -/
def placedIn (sections : List (ActorId × Handler)) : List (Located × String) :=
  sections.flatMap fun (actor, handler) => handler.placed actor

/-- The lines of the program's text in order, each with its place. -/
def placedLines (program : Program) : List (Located × String) :=
  placedIn program.sections

variable {program : Program} {actor : ActorId} {handler : Handler}
  {sections before after : List (ActorId × Handler)}

@[simp] theorem placedIn_nil : placedIn [] = [] := rfl

theorem placedIn_cons :
    placedIn ((actor, handler) :: sections) = handler.placed actor ++ placedIn sections :=
  List.flatMap_cons

theorem placedIn_append : placedIn (before ++ after) = placedIn before ++ placedIn after :=
  List.flatMap_append

theorem map_snd_placedLines (program : Program) :
    program.placedLines.map Prod.snd = program.bodyLines := by
  unfold placedLines placedIn bodyLines
  rw [List.map_flatMap]
  exact congrArg (List.flatMap · program.sections) (funext fun _ => Handler.map_snd_placed)

theorem length_placedLines (program : Program) :
    program.placedLines.length = program.flatten.map.lineCount := by
  rw [← List.length_map Prod.snd, map_snd_placedLines]
  rfl

/-! ## 2. Entries -/

theorem entriesFrom_append : ∀ (line : Nat) (before after : List (ActorId × Handler)),
    entriesFrom line (before ++ after) =
      entriesFrom line before ++ entriesFrom (line + (placedIn before).length) after
  | _, [], _ => rfl
  | line, (actor, handler) :: before, after => by
      rw [List.cons_append, entriesFrom, entriesFrom, entriesFrom_append, placedIn_cons,
        List.length_append, Handler.length_placed, Nat.add_assoc, List.cons_append]

theorem le_startLine : ∀ {line : Nat} {sections : List (ActorId × Handler)} {entry : MapEntry},
    entry ∈ entriesFrom line sections → line ≤ entry.startLine
  | _, [], _, h => absurd h List.not_mem_nil
  | line, (_, handler) :: sections, entry, h => by
      rcases List.mem_cons.mp h with rfl | h
      · exact Nat.le_refl _
      · exact Nat.le_trans (Nat.le_add_right line handler.body.length) (le_startLine h)

theorem sorted_entriesFrom : ∀ (line : Nat) (sections : List (ActorId × Handler)),
    (entriesFrom line sections).Pairwise (·.startLine ≤ ·.startLine)
  | _, [] => List.Pairwise.nil
  | line, (_, handler) :: sections => by
      refine List.pairwise_cons.mpr ⟨fun entry h => ?_, sorted_entriesFrom _ sections⟩
      exact Nat.le_trans (Nat.le_add_right line handler.body.length) (le_startLine h)

theorem sorted_sourceMap (program : Program) : program.sourceMap.Sorted :=
  sorted_entriesFrom 1 program.sections

/-- **Every line has its entry**: the one that starts by it and whose successor does not, and the
    place that is read off it is the place of the line. -/
theorem exists_entry_of_lt : ∀ (line : Nat) {sections : List (ActorId × Handler)} {index : Nat},
    index < (placedIn sections).length →
    ∃ position entry, (entriesFrom line sections)[position]? = some entry ∧
      entry.startLine ≤ line + index ∧
      (∀ next, (entriesFrom line sections)[position + 1]? = some next →
        line + index < next.startLine) ∧
      (placedIn sections)[index]?.map Prod.fst =
        some ⟨entry.actor, entry.handler, line + index - entry.startLine + 1⟩
  | _, [], _, h => absurd h (Nat.not_lt_zero _)
  | line, (actor, handler) :: sections, index, h => by
      rw [placedIn_cons, List.length_append, Handler.length_placed] at h
      by_cases hin : index < handler.body.length
      · -- the line is one of the first handler's, and all later entries start behind its body
        refine ⟨0, ⟨line, actor, handler.id⟩, rfl, Nat.le_add_right _ _, fun next hnext => ?_, ?_⟩
        · have hmem : next ∈ entriesFrom (line + handler.body.length) sections :=
            List.mem_of_getElem? hnext
          have := le_startLine hmem
          omega
        · rw [placedIn_cons, List.getElem?_append_left (by simpa using hin),
            Handler.getElem?_placed, List.getElem?_eq_getElem hin]
          simp
      · have hlt : index - handler.body.length < (placedIn sections).length := by omega
        obtain ⟨position, entry, he, hle, hnext, hplace⟩ :=
          exists_entry_of_lt (line + handler.body.length) hlt
        have hsum : line + handler.body.length + (index - handler.body.length) = line + index := by
          omega
        rw [hsum] at hle hnext hplace
        refine ⟨position + 1, entry, he, hle, hnext, ?_⟩
        rw [placedIn_cons, List.getElem?_append_right (by simpa using Nat.le_of_not_lt hin),
          Handler.length_placed]
        exact hplace

/-- **To locate a line of a flattening is to look up its place.** -/
theorem locate_flatten (program : Program) (line : Nat) :
    program.flatten.map.locate (line + 1) = program.placedLines[line]?.map Prod.fst := by
  have hcount := length_placedLines program
  unfold SourceMap.locate
  by_cases hlt : line < program.placedLines.length
  · obtain ⟨position, entry, he, hle, hnext, hplace⟩ :=
      exists_entry_of_lt 1 hlt
    have hfound : program.sourceMap.entryBy? (1 + line) = some entry :=
      (SourceMap.entryBy?_eq_some_iff program.sorted_sourceMap).mpr ⟨position, he, hle, hnext⟩
    rw [if_neg (by omega), Nat.add_comm line 1, placedLines, hplace]
    show (program.sourceMap.entryBy? (1 + line)).map _ = _
    rw [hfound]
    rfl
  · rw [if_pos (by omega), List.getElem?_eq_none (Nat.le_of_not_lt hlt)]
    rfl

theorem locate_flatten_zero (program : Program) : program.flatten.map.locate 0 = none :=
  if_pos (Or.inl rfl)

/-- A located line is a listed one. -/
theorem getElem?_of_locate {line : Nat} {found : Located}
    (h : program.flatten.map.locate line = some found) :
    ∃ index words, line = index + 1 ∧ program.placedLines[index]? = some (found, words) := by
  cases line with
  | zero =>
      rw [locate_flatten_zero] at h
      cases h
  | succ index =>
      rw [locate_flatten] at h
      obtain ⟨⟨_, words⟩, hplaced, rfl⟩ := Option.map_eq_some_iff.mp h
      exact ⟨index, words, rfl, hplaced⟩

/-! ## 3. What is listed -/

theorem mem_sections {id : ActorId} : (id, handler) ∈ program.sections ↔
    ∃ actor ∈ program.actors, actor.id = id ∧ handler ∈ actor.handlers := by
  unfold sections
  rw [List.mem_flatMap]
  refine exists_congr fun a => and_congr_right fun _ => ?_
  rw [List.mem_map]
  constructor
  · intro h
    obtain ⟨h, hh, e⟩ := h
    cases e
    exact ⟨rfl, hh⟩
  · intro h
    obtain ⟨rfl, hh⟩ := h
    exact ⟨handler, hh, rfl⟩

theorem map_id_sections (program : Program) :
    program.sections.map (·.2.id) = program.handlerIds := by
  unfold sections handlerIds
  rw [List.map_flatMap]
  exact congrArg (List.flatMap · program.actors) (funext fun _ => List.map_map)

/-- **The list holds the lines of all bodies**, each under its actor, its handler and its number. -/
theorem mem_placedLines {found : Located} {line : String} :
    (found, line) ∈ program.placedLines ↔ ∃ actor ∈ program.actors, ∃ handler ∈ actor.handlers,
      found.actor = actor.id ∧ found.handler = handler.id ∧
        1 ≤ found.lineWithin ∧ handler.body[found.lineWithin - 1]? = some line := by
  unfold placedLines placedIn
  rw [List.mem_flatMap]
  constructor
  · intro h
    obtain ⟨⟨id, handler⟩, hs, hplaced⟩ := h
    obtain ⟨actor, ha, rfl, hh⟩ := mem_sections.mp hs
    exact ⟨actor, ha, handler, hh, Handler.mem_placed.mp hplaced⟩
  · intro h
    obtain ⟨actor, ha, handler, hh, hplaced⟩ := h
    exact ⟨(actor.id, handler), mem_sections.mpr ⟨actor, ha, rfl, hh⟩,
      Handler.mem_placed.mpr hplaced⟩

theorem handler_of_mem_placedIn {found : Located}
    (h : found ∈ (placedIn sections).map Prod.fst) :
    found.handler ∈ sections.map (·.2.id) := by
  obtain ⟨⟨_, line⟩, hplaced, rfl⟩ := List.mem_map.mp h
  obtain ⟨⟨id, handler⟩, hs, hmem⟩ := List.mem_flatMap.mp hplaced
  rw [(Handler.mem_placed.mp hmem).2.1]
  exact List.mem_map.mpr ⟨_, hs, rfl⟩

theorem nodup_places_of_handler (handler : Handler) (actor : ActorId) :
    ((handler.placed actor).map Prod.fst).Nodup := by
  refine List.pairwise_iff_getElem.mpr fun i j hi hj hij heq => ?_
  simp only [Handler.placed, List.getElem_map, List.getElem_mapIdx, Located.mk.injEq,
    true_and] at heq
  omega

/-- **Distinct handlers have distinct places.** -/
theorem nodup_placesIn : ∀ {sections : List (ActorId × Handler)},
    (sections.map (·.2.id)).Nodup → ((placedIn sections).map Prod.fst).Nodup
  | [], _ => List.nodup_nil
  | (actor, handler) :: sections, h => by
      rw [List.map_cons, List.nodup_cons] at h
      rw [placedIn_cons, List.map_append, List.nodup_append]
      refine ⟨nodup_places_of_handler handler actor, nodup_placesIn h.2, fun x hx y hy heq => ?_⟩
      subst heq
      obtain ⟨⟨_, line⟩, hplaced, rfl⟩ := List.mem_map.mp hx
      have hmem := handler_of_mem_placedIn hy
      rw [(Handler.mem_placed.mp hplaced).2.1] at hmem
      exact h.1 hmem

theorem WellFormed.nodup_places (h : program.WellFormed) :
    (program.placedLines.map Prod.fst).Nodup :=
  nodup_placesIn (by rw [map_id_sections]; exact h.handlers_distinct)

/-! ## 4. Where a handler starts -/

theorem handler_of_mem_entriesFrom : ∀ {line : Nat} {sections : List (ActorId × Handler)}
    {entry : MapEntry}, entry ∈ entriesFrom line sections →
    entry.handler ∈ sections.map (·.2.id)
  | _, [], _, h => absurd h List.not_mem_nil
  | _, (_, _) :: _, _, h => by
      rcases List.mem_cons.mp h with rfl | h
      · exact List.mem_cons_self
      · exact List.mem_cons_of_mem _ (handler_of_mem_entriesFrom h)

/-- **A handler starts behind the lines of those before it.** -/
theorem startLine?_flatten (hs : program.sections = before ++ (actor, handler) :: after)
    (hnew : handler.id ∉ before.map (·.2.id)) :
    program.flatten.map.startLine? handler.id = some ((placedIn before).length + 1) := by
  have hbefore : (entriesFrom 1 before).find? (·.handler = handler.id) = none := by
    refine List.find?_eq_none.mpr fun entry he heq => ?_
    exact hnew (of_decide_eq_true heq ▸ handler_of_mem_entriesFrom he)
  show ((entriesFrom 1 program.sections).find? (·.handler = handler.id)).map _ = _
  rw [hs, entriesFrom_append, List.find?_append, hbefore, entriesFrom]
  simp [Nat.add_comm]

theorem getElem?_placedLines (hs : program.sections = before ++ (actor, handler) :: after)
    {index : Nat} (h : index < handler.body.length) :
    program.placedLines[(placedIn before).length + index]?.map Prod.fst =
      some ⟨actor, handler.id, index + 1⟩ := by
  unfold placedLines
  rw [hs, placedIn_append, placedIn_cons, List.getElem?_append_right (Nat.le_add_right _ _),
    Nat.add_sub_cancel_left, List.getElem?_append_left (by simpa using h),
    Handler.getElem?_placed, List.getElem?_eq_getElem h]
  rfl

/-- In a well-formed tree the handlers before one in the order of the text have other ids. -/
theorem WellFormed.not_mem_before (h : program.WellFormed)
    (hs : program.sections = before ++ (actor, handler) :: after) :
    handler.id ∉ before.map (·.2.id) := by
  intro hmem
  have hnodup := h.handlers_distinct
  rw [← map_id_sections, hs, List.map_append, List.nodup_append] at hnodup
  exact hnodup.2.2 _ hmem _ List.mem_cons_self rfl

/-- In a well-formed tree a handler stands at one place in the order of the text, and no handler
    before it has its id. -/
theorem WellFormed.exists_sections_eq (h : program.WellFormed) {owner : Actor}
    (ha : owner ∈ program.actors) (hh : handler ∈ owner.handlers) :
    ∃ before after, program.sections = before ++ (owner.id, handler) :: after ∧
      handler.id ∉ before.map (·.2.id) := by
  obtain ⟨before, after, hs⟩ := List.append_of_mem (mem_sections.mpr ⟨owner, ha, rfl, hh⟩)
  exact ⟨before, after, hs, h.not_mem_before hs⟩

end Program

end Stagecraft
