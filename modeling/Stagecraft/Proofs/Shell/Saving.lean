import Mathlib.Data.List.Basic
import Stagecraft.Proofs.Codec.Program
import Stagecraft.Proofs.Program.Preservation
import Stagecraft.Shell.Command

/-!
# What is saved is found again

* `Node.Keeps` says what a change of the tree leaves alone: directories stay, and so do files, but
  for the one that is written;
* `Node.Keeps.resolve`: a path then leads where it led before;
* `Disk.save_cases` says how saving goes. What was saved is found at its path (`Disk.find?_save`),
  and every other file as it was (`Disk.find?_save_of_ne`), also where saving fails;
* `createProgram_stores`: a new program is found, and loaded, where it was to be stored.
-/

namespace Stagecraft.Shell

namespace Node

variable {root after : Node} {place other : List String} {name : String} {node : Node}
  {entries : List (String × Node)} {written : Option (List String)}

/-! ## 1. Trees -/

theorem lookup_putEntry (name : String) (node : Node) (other : String)
    (entries : List (String × Node)) : (putEntry name node entries).lookup other =
      if other = name then some node else entries.lookup other := by
  induction entries with
  | nil =>
      rw [putEntry, List.lookup_cons]
      by_cases h : other = name
      · simp [h]
      · simp [h, beq_eq_false_iff_ne.mpr h]
  | cons entry entries ih =>
      rw [putEntry]
      by_cases hfound : entry.1 = name
      · rw [if_pos hfound, List.lookup_cons, List.lookup_cons, hfound]
        by_cases h : other = name
        · simp [h]
        · simp [h, beq_eq_false_iff_ne.mpr h]
      · rw [if_neg hfound, List.lookup_cons, List.lookup_cons, ih]
        by_cases h : other = entry.1
        · simp [h, hfound]
        · simp [beq_eq_false_iff_ne.mpr h]

theorem at?_append : ∀ (root : Node) (place more : List String),
    root.at? (place ++ more) = (root.at? place).bind (·.at? more)
  | _, [], _ => rfl
  | file _, _ :: _, _ => rfl
  | folder entries, name :: place, more => by
      rw [List.cons_append, at?, at?, Option.bind_assoc]
      exact congrArg _ (funext fun inner => at?_append inner place more)

/-- **What stands where, after a node was put into a directory**: what stood there before, or the
    node and what is in it, or one of the directories around it. -/
theorem at?_put_cases (name : String) (node : Node) : ∀ {place : List String} {root : Node}
    {entries : List (String × Node)}, root.at? place = some (folder entries) →
    ∀ other, (put name node place root).at? other = root.at? other ∨
      (∃ rest, other = place ++ name :: rest ∧
        (put name node place root).at? other = node.at? rest) ∨
      ∃ old new, root.at? other = some (folder old) ∧
        (put name node place root).at? other = some (folder new)
  | [], root, entries, h, other => by
      cases h
      cases other with
      | nil => exact .inr (.inr ⟨_, _, rfl, rfl⟩)
      | cons first rest =>
          rw [put, at?, at?, lookup_putEntry]
          by_cases hfirst : first = name
          · subst hfirst
            exact .inr (.inl ⟨rest, rfl, by rw [if_pos rfl, Option.bind_some]⟩)
          · exact .inl (by rw [if_neg hfirst])
  | _ :: _, file _, _, h, _ => by cases h
  | next :: place, folder inside, entries, h, other => by
      obtain ⟨inner, hinner, hplace⟩ := Option.bind_eq_some_iff.mp h
      have hput : put name node (next :: place) (folder inside) =
          folder (putEntry next (put name node place inner) inside) := by
        rw [put, hinner]
      rw [hput]
      cases other with
      | nil => exact .inr (.inr ⟨_, _, rfl, rfl⟩)
      | cons first rest =>
          rw [at?, at?, lookup_putEntry]
          by_cases hfirst : first = next
          · subst hfirst
            rw [if_pos rfl, hinner, Option.bind_some, Option.bind_some]
            rcases at?_put_cases name node hplace rest with hsame | ⟨more, rfl, hnode⟩ | hfolder
            · exact .inl hsame
            · exact .inr (.inl ⟨more, rfl, hnode⟩)
            · exact .inr (.inr hfolder)
          · exact .inl (by rw [if_neg hfirst])

/-- The node itself is found under its name. -/
theorem at?_put (name : String) (node : Node) : ∀ {place : List String} {root : Node}
    {entries : List (String × Node)}, root.at? place = some (folder entries) →
    (put name node place root).at? (place ++ [name]) = some node
  | [], root, entries, h => by
      cases h
      rw [List.nil_append, put, at?, lookup_putEntry, if_pos rfl]
      rfl
  | _ :: _, file _, _, h => by cases h
  | next :: place, folder inside, entries, h => by
      obtain ⟨inner, hinner, hplace⟩ := Option.bind_eq_some_iff.mp h
      rw [List.cons_append, put, hinner]
      show (folder _).at? _ = _
      rw [at?, lookup_putEntry, if_pos rfl]
      exact at?_put name node hplace

/-! ## 2. What stays -/

/-- A component of a path that is a name, and not too long for one. -/
structure IsName (component : String) : Prop where
  not_empty : component ≠ ""
  not_here : component ≠ "."
  not_above : component ≠ ".."
  short : ¬ 255 < component.utf8ByteSize

/-- A name leads to what stands under it. -/
theorem IsName.step_eq (hname : IsName name) (hplace : root.at? place = some (folder entries))
    (hthere : (root.at? (place ++ [name])).isSome) :
    root.step place name = .ok (place ++ [name]) := by
  have hself : ¬ (name = "" ∨ name = ".") := not_or.mpr ⟨hname.not_empty, hname.not_here⟩
  unfold Node.step
  rw [hplace]
  dsimp only
  rw [if_neg hself, if_neg hname.not_above, if_neg hname.short, if_pos hthere]

/-- **What a change of the tree leaves alone**: every directory is still there, and every file is as
    it was, but for the one at the place that is written. -/
structure Keeps (written : Option (List String)) (root after : Node) : Prop where
  folders : ∀ place entries, root.at? place = some (folder entries) →
    ∃ entries', after.at? place = some (folder entries')
  files : ∀ place bytes, root.at? place = some (file bytes) →
    ∃ bytes', after.at? place = some (file bytes') ∧ (written ≠ some place → bytes' = bytes)

theorem Keeps.refl (written : Option (List String)) (root : Node) : root.Keeps written root where
  folders _ entries h := ⟨entries, h⟩
  files _ bytes h := ⟨bytes, h, fun _ => rfl⟩

theorem Keeps.trans {last : Node} (h : root.Keeps none after) (hmore : after.Keeps written last) :
    root.Keeps written last where
  folders place entries hplace := by
    obtain ⟨entries', hplace'⟩ := h.folders place entries hplace
    exact hmore.folders place entries' hplace'
  files place bytes hplace := by
    obtain ⟨bytes', hplace', hsame⟩ := h.files place bytes hplace
    obtain rfl : bytes' = bytes := hsame nofun
    exact hmore.files place bytes' hplace'

theorem Keeps.isSome (h : root.Keeps written after) (hplace : (root.at? place).isSome) :
    (after.at? place).isSome := by
  obtain ⟨node, hnode⟩ := Option.isSome_iff_exists.mp hplace
  cases node with
  | file bytes =>
      obtain ⟨_, hafter, -⟩ := h.files place bytes hnode
      rw [hafter]
      rfl
  | folder entries =>
      obtain ⟨_, hafter⟩ := h.folders place entries hnode
      rw [hafter]
      rfl

theorem Keeps.step (h : root.Keeps written after) {component : String}
    (hstep : root.step place component = .ok other) : after.step place component = .ok other := by
  unfold Node.step at hstep ⊢
  split at hstep
  · cases hstep
  · cases hstep
  next entries hplace =>
    obtain ⟨entries', hplace'⟩ := h.folders place entries hplace
    rw [hplace']
    dsimp only
    split at hstep
    next hdot => rwa [if_pos hdot]
    next hdot =>
      rw [if_neg hdot]
      split at hstep
      next hdots => rwa [if_pos hdots]
      next hdots =>
        rw [if_neg hdots]
        split at hstep
        · cases hstep
        next hlong =>
          rw [if_neg hlong]
          split at hstep
          next hthere => rwa [if_pos (h.isSome hthere)]
          next => cases hstep

/-- **Paths lead where they led before.** -/
theorem Keeps.resolve (h : root.Keeps written after) : ∀ {components place : List String},
    root.resolve place components = .ok other → after.resolve place components = .ok other
  | [], _, hplace => hplace
  | component :: more, place, hplace => by
      rw [Node.resolve] at hplace ⊢
      cases hstep : root.step place component with
      | error fault =>
          rw [hstep] at hplace
          cases hplace
      | ok next =>
          rw [hstep] at hplace
          rw [h.step hstep]
          exact h.resolve hplace

/-- To put a new entry into a directory keeps everything. -/
theorem keeps_put_new (hplace : root.at? place = some (folder entries))
    (hnew : root.at? (place ++ [name]) = none) (node : Node) :
    root.Keeps none (put name node place root) where
  folders other entries' hother := by
    rcases at?_put_cases name node hplace other with hsame | ⟨rest, rfl, -⟩ | ⟨_, new, -, hfolder⟩
    · exact ⟨entries', hsame.trans hother⟩
    · rw [List.append_cons, at?_append, hnew] at hother
      cases hother
    · exact ⟨new, hfolder⟩
  files other bytes hother := by
    rcases at?_put_cases name node hplace other with hsame | ⟨rest, rfl, -⟩ | ⟨old, _, hold, -⟩
    · exact ⟨bytes, hsame.trans hother, fun _ => rfl⟩
    · rw [List.append_cons, at?_append, hnew] at hother
      cases hother
    · rw [hold] at hother
      cases hother

/-- To put a file in the place of a file keeps everything else. -/
theorem keeps_put_file (hplace : root.at? place = some (folder entries)) {old : ByteArray}
    (hold : root.at? (place ++ [name]) = some (file old)) (bytes : ByteArray) :
    root.Keeps (some (place ++ [name])) (put name (file bytes) place root) where
  folders other entries' hother := by
    rcases at?_put_cases name (file bytes) hplace other with
      hsame | ⟨rest, rfl, -⟩ | ⟨_, new, -, hfolder⟩
    · exact ⟨entries', hsame.trans hother⟩
    · rw [List.append_cons, at?_append, hold] at hother
      cases rest <;> cases hother
    · exact ⟨new, hfolder⟩
  files other found hother := by
    rcases at?_put_cases name (file bytes) hplace other with
      hsame | ⟨rest, rfl, hnode⟩ | ⟨inside, _, hinside, -⟩
    · exact ⟨found, hsame.trans hother, fun _ => rfl⟩
    · rw [List.append_cons, at?_append, hold] at hother
      cases rest with
      | nil => exact ⟨bytes, hnode, fun hne => absurd rfl hne⟩
      | cons _ _ => cases hother
    · rw [hinside] at hother
      cases hother

end Node

namespace Disk

variable {disk after : Disk} {path name : String} {bytes : ByteArray} {start front : List String}

/-! ## 3. One step -/

theorem slot_eq_ok {place : List String} {old : Option Node}
    (h : disk.slot start front name = .ok (place, old)) :
    ∃ entries, disk.root.resolve start front = .ok place ∧
      disk.root.at? place = some (.folder entries) ∧ ¬ 255 < name.utf8ByteSize ∧
      disk.root.at? (place ++ [name]) = old := by
  unfold slot at h
  split at h
  · cases h
  next found hresolve =>
    split at h
    next entries hplace =>
      split at h
      · cases h
      next hshort =>
        cases h
        exact ⟨entries, hresolve, hplace, hshort, rfl⟩
    · cases h
    · cases h

theorem keeps_makeFolder (h : disk.makeFolder start front = .ok after) :
    disk.root.Keeps none after.root ∧ after.working = disk.working := by
  unfold makeFolder at h
  split at h
  · cases h
  split at h
  · split at h <;> cases h
  split at h
  · cases h
  · cases h
  next place hslot =>
    cases h
    obtain ⟨entries, -, hplace, -, hnew⟩ := slot_eq_ok hslot
    exact ⟨Node.keeps_put_new hplace hnew _, rfl⟩

/-- Making directories keeps everything, however far it gets. -/
theorem keeps_makeFolders (start : List String) : ∀ (disk : Disk) (path : List String),
    disk.root.Keeps none (disk.makeFolders start path).2.root ∧
      (disk.makeFolders start path).2.working = disk.working
  | disk, [] => ⟨.refl _ _, rfl⟩
  | disk, last :: front => by
      have hself : disk.root.Keeps none disk.root ∧ disk.working = disk.working :=
        ⟨.refl _ _, rfl⟩
      obtain ⟨hkeeps, hworking⟩ := keeps_makeFolders start disk front
      rw [makeFolders]
      split
      next hmade => exact keeps_makeFolder hmade
      · split
        next hfront =>
          rw [hfront] at hkeeps hworking
          exact ⟨hkeeps, hworking⟩
        next hfront =>
          rw [hfront] at hkeeps hworking
          split
          next hmade =>
            obtain ⟨hmore, hsame⟩ := keeps_makeFolder hmade
            exact ⟨hkeeps.trans hmore, hsame.trans hworking⟩
          next => split <;> exact ⟨hkeeps, hworking⟩
      · split <;> exact hself

/-! ## 4. Files -/

theorem resolve_append (root : Node) {more : List String} : ∀ {front start place : List String},
    root.resolve start front = .ok place →
    root.resolve start (front ++ more) = root.resolve place more
  | [], _, _, h => by
      cases h
      rfl
  | component :: front, start, place, h => by
      rw [Node.resolve] at h
      rw [List.cons_append, Node.resolve]
      cases hstep : root.step start component with
      | error fault =>
          rw [hstep] at h
          cases h
      | ok next =>
          rw [hstep] at h
          exact resolve_append root h

theorem splitPath_ne_nil : ∀ cs : List Char, splitPath cs ≠ []
  | [] => List.cons_ne_nil _ _
  | c :: cs => by
      rw [splitPath]
      split
      · exact List.cons_ne_nil _ _
      · cases splitPath cs <;> exact List.cons_ne_nil _ _

/-- Only the empty path has nothing but an empty component. -/
theorem components_eq_singleton (h : components path = [""]) : path = "" := by
  have hchars : ∀ cs : List Char, (splitPath cs).map String.ofList = [""] → cs = [] := by
    intro cs hsplit
    cases cs with
    | nil => rfl
    | cons c cs =>
        rw [splitPath] at hsplit
        split at hsplit
        · obtain ⟨-, hmore⟩ := List.cons.inj hsplit
          exact absurd (List.map_eq_nil_iff.mp hmore) (splitPath_ne_nil cs)
        · cases hmore : splitPath cs <;> simp [hmore, consComponent] at hsplit
  exact String.toList_inj.mp (hchars path.toList h)

/-- **A file that was written stands in the directory that its path leads to**, where no directory
    stood. -/
theorem writeFile_eq_ok (h : disk.writeFile path bytes = .ok after) :
    ∃ front name place entries, components path = front ++ [name] ∧ Node.IsName name ∧
      disk.root.resolve (disk.start path) front = .ok place ∧
      disk.root.at? place = some (.folder entries) ∧
      (∀ inside, disk.root.at? (place ++ [name]) ≠ some (.folder inside)) ∧
      after = disk.put place name (.file bytes) := by
  unfold writeFile at h
  split at h
  · cases h
  next hempty =>
    dsimp only at h
    by_cases hslash : (components path).getLast? = some "" ∧ (components path).length ≠ 1
    · simp only [if_pos hslash] at h
      repeat' split at h
      all_goals cases h
    · simp only [if_neg hslash] at h
      split at h
      · cases h
      next name hname =>
        split at h
        · split at h <;> cases h
        next hdots =>
          obtain ⟨hdot, hdots⟩ := not_or.mp hdots
          split at h
          · cases h
          · cases h
          next place old hno hslot =>
            cases h
            obtain ⟨entries, hresolve, hplace, hshort, hold⟩ := slot_eq_ok hslot
            have hparts : components path = (components path).dropLast ++ [name] :=
              (List.dropLast_append_getLast? name hname).symm
            -- an empty name ends the path in a slash, or is all there is of it
            have hnotempty : name ≠ "" := by
              rintro rfl
              have hone : (components path).length = 1 := by
                by_contra hne
                exact hslash ⟨hname, hne⟩
              obtain ⟨only, honly⟩ := List.length_eq_one_iff.mp hone
              rw [honly] at hname
              cases hname
              exact hempty (by rw [components_eq_singleton honly]; rfl)
            exact ⟨_, name, place, entries, hparts, ⟨hnotempty, hdot, hdots, hshort⟩, hresolve,
              hplace, fun inside hinside => hno inside (hold.symm.trans hinside), rfl⟩

/-- A path with a name at its end leads to the place of that name. -/
theorem place_of_isName {place : List String} {entries : List (String × Node)}
    (hparts : components path = front ++ [name]) (hname : Node.IsName name)
    (hnul : path.toList.contains '\x00' = false)
    (hresolve : disk.root.resolve (disk.start path) front = .ok place)
    (hplace : disk.root.at? place = some (.folder entries))
    (hthere : (disk.root.at? (place ++ [name])).isSome) :
    disk.place path = .ok (place ++ [name]) := by
  have hnonempty : path.isEmpty = false := by
    by_contra hempty
    obtain rfl : path = "" := by simpa using hempty
    have hlast := congrArg List.getLast? hparts
    rw [List.getLast?_append] at hlast
    exact hname.not_empty (Option.some.inj hlast).symm
  unfold Disk.place
  rw [hnonempty, hnul, hparts]
  show Node.resolve _ (disk.start path) (front ++ [name]) = _
  rw [resolve_append _ hresolve, Node.resolve, hname.step_eq hplace hthere]
  rfl

/-- Where a file was written, what is there before is kept, but for a file that was there. -/
theorem keeps_writeFile (h : disk.writeFile path bytes = .ok after)
    (hnul : path.toList.contains '\x00' = false) :
    ∃ place, after.place path = .ok place ∧ after.root.at? place = some (.file bytes) ∧
      disk.root.Keeps (some place) after.root ∧ after.working = disk.working := by
  obtain ⟨front, name, place, entries, hparts, hname, hresolve, hplace, hnofolder, rfl⟩ :=
    writeFile_eq_ok h
  have hkeeps :
      disk.root.Keeps (some (place ++ [name])) (disk.put place name (.file bytes)).root := by
    cases hold : disk.root.at? (place ++ [name]) with
    | none => exact (Node.keeps_put_new hplace hold _).trans (.refl _ _)
    | some old =>
        cases old with
        | file old => exact Node.keeps_put_file hplace hold bytes
        | folder inside => exact absurd hold (hnofolder inside)
  have hthere : (disk.put place name (.file bytes)).root.at? (place ++ [name]) =
      some (.file bytes) := Node.at?_put name _ hplace
  obtain ⟨inside, hinside⟩ := hkeeps.folders place entries hplace
  have hleads : (disk.put place name (.file bytes)).place path = .ok (place ++ [name]) :=
    place_of_isName hparts hname hnul (hkeeps.resolve hresolve) hinside (by rw [hthere]; rfl)
  exact ⟨place ++ [name], hleads, hthere, hkeeps, rfl⟩

/-! ## 5. Saving -/

theorem find?_of_place {node : Node} {place : List String} (hplace : disk.place path = .ok place)
    (hthere : disk.root.at? place = some node) : disk.find? path = some node := by
  unfold find? find
  rw [hplace]
  dsimp only
  rw [hthere]
  rfl

/-- Saving fails with some directories made, or writes the file behind them. -/
theorem save_cases (disk : Disk) (path : String) (bytes : ByteArray) :
    ∃ made : Disk, (disk.root.Keeps none made.root ∧ made.working = disk.working) ∧
      ((∃ fault, disk.save path bytes = (.error fault, made)) ∨
        ∃ after, path.toList.contains '\x00' = false ∧ made.writeFile path bytes = .ok after ∧
          disk.save path bytes = (.ok (), after)) := by
  unfold save
  cases path.toList.contains '\x00' with
  | true => exact ⟨disk, ⟨.refl _ _, rfl⟩, .inl ⟨_, rfl⟩⟩
  | false =>
      have hkeeps := keeps_makeFolders (disk.start path) disk
        (if (parentComponents path).isEmpty then ["."] else parentComponents path).reverse
      simp only [Bool.false_eq_true, if_false]
      cases hmade : disk.makeFolders (disk.start path)
          (if (parentComponents path).isEmpty then ["."] else parentComponents path).reverse with
      | mk outcome made =>
          rw [hmade] at hkeeps
          refine ⟨made, hkeeps, ?_⟩
          cases outcome with
          | error fault => exact .inl ⟨fault, rfl⟩
          | ok _ =>
              dsimp only
              cases made.writeFile path bytes with
              | error fault => exact .inl ⟨fault, rfl⟩
              | ok after => exact .inr ⟨after, trivial, rfl, rfl⟩

/-- **What was saved stands at its path**, and all else is kept. -/
theorem stores_save (h : (disk.save path bytes).1 = .ok ()) :
    ∃ place, (disk.save path bytes).2.place path = .ok place ∧
      (disk.save path bytes).2.root.at? place = some (.file bytes) ∧
      disk.root.Keeps (some place) (disk.save path bytes).2.root ∧
      (disk.save path bytes).2.working = disk.working := by
  obtain ⟨made, ⟨hkeeps, hworking⟩, ⟨fault, hsave⟩ | ⟨after, hnul, hwritten, hsave⟩⟩ :=
    save_cases disk path bytes
  · rw [hsave] at h
    cases h
  · rw [hsave]
    obtain ⟨place, hplace, hthere, hmore, hsame⟩ := keeps_writeFile hwritten hnul
    exact ⟨place, hplace, hthere, hkeeps.trans hmore, hsame.trans hworking⟩

/-- **Saving that fails has changed no file**, though it may have made directories. -/
theorem keeps_save {fault : OsFault} (h : (disk.save path bytes).1 = .error fault) :
    disk.root.Keeps none (disk.save path bytes).2.root ∧
      (disk.save path bytes).2.working = disk.working := by
  obtain ⟨made, hkeeps, ⟨fault, hsave⟩ | ⟨after, -, -, hsave⟩⟩ := save_cases disk path bytes
  · rw [hsave]
    exact hkeeps
  · rw [hsave] at h
    cases h

/-- **What was saved is found at its path.** -/
theorem find?_save (h : (disk.save path bytes).1 = .ok ()) :
    (disk.save path bytes).2.find? path = some (.file bytes) := by
  obtain ⟨place, hplace, hthere, -⟩ := stores_save h
  exact find?_of_place hplace hthere

theorem exists_place_of_find? {node : Node} (h : disk.find? path = some node) :
    ∃ place, disk.place path = .ok place ∧ disk.root.at? place = some node := by
  unfold find? find at h
  split at h
  · cases h
  next place hplace =>
    split at h
    next found hfound =>
      cases h
      exact ⟨place, hplace, hfound⟩
    · cases h

/-- Every path leads where it led before. -/
theorem place_of_keeps {written : Option (List String)} {place : List String}
    (hkeeps : disk.root.Keeps written after.root) (hworking : after.working = disk.working)
    (h : disk.place path = .ok place) : after.place path = .ok place := by
  unfold Disk.place Disk.start at h ⊢
  rw [hworking]
  split at h
  · cases h
  next hempty =>
    rw [if_neg hempty]
    split at h
    · cases h
    next hnul =>
      rw [if_neg hnul]
      exact hkeeps.resolve h

/-- **Every other file is found as it was**, whether saving succeeds or fails. -/
theorem find?_save_of_ne {other : String} {old : ByteArray}
    (hfile : disk.find? other = some (.file old))
    (hne : (disk.save path bytes).2.place other ≠ (disk.save path bytes).2.place path) :
    (disk.save path bytes).2.find? other = some (.file old) := by
  obtain ⟨there, hthere, hold⟩ := exists_place_of_find? hfile
  cases hsave : (disk.save path bytes).1 with
  | error fault =>
      obtain ⟨hkeeps, hworking⟩ := keeps_save hsave
      obtain ⟨kept, hkept, hsame⟩ := hkeeps.files there old hold
      obtain rfl : kept = old := hsame nofun
      exact find?_of_place (place_of_keeps hkeeps hworking hthere) hkept
  | ok _ =>
      obtain ⟨place, hplace, -, hkeeps, hworking⟩ := stores_save hsave
      have hstays := place_of_keeps hkeeps hworking hthere
      obtain ⟨kept, hkept, hsame⟩ := hkeeps.files there old hold
      obtain rfl : kept = old := by
        refine hsame fun heq => hne ?_
        rw [hplace, hstays, Option.some.inj heq]
      exact find?_of_place hstays hkept

end Disk

/-! ## 6. New programs -/

/-- **A new program is found where it was to be stored**, and it is loaded from there. -/
theorem createProgram_stores {disk : Disk} {name : Option String} {out : String} {fresh : ActorId}
    {lines : List String} (h : (createProgram disk name out fresh).1 = .ok lines) :
    ∃ program, Program.ofStage (name.getD defaultStageName) fresh = .ok program ∧
      lines = newLines program out ∧
      loadProgram out ((createProgram disk name out fresh).2.find? out) = .ok program := by
  unfold createProgram newProgram at h ⊢
  cases hstage : Program.ofStage (name.getD defaultStageName) fresh with
  | error fault =>
      rw [hstage] at h
      cases h
  | ok program =>
      rw [hstage] at h
      dsimp only [Except.mapError] at h ⊢
      have hfound := @Disk.find?_save disk out (Codec.programFileText program).toUTF8
      cases hsave : disk.save out (Codec.programFileText program).toUTF8 with
      | mk outcome after =>
          rw [hsave] at h hfound
          cases outcome with
          | error fault => cases h
          | ok _ =>
              cases h
              have hvalid : program.validate = .ok () :=
                Program.validate_eq_ok_iff.mpr (Program.wellFormed_ofStage hstage)
              refine ⟨program, rfl, rfl, ?_⟩
              dsimp only
              rw [hfound rfl]
              exact loadProgram_programFileText hvalid out

end Stagecraft.Shell
