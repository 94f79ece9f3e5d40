import Mathlib.Data.List.Forall2
import Stagecraft.Proofs.Json.Extent

/-!
# Records are read member by member

The members of an object are its keys with the texts behind their colons, whatever these hold: the
values are only passed over to find them. What a record is read as is decided by them.

* `Json.members` are the members of the object that a whole text is;
* `Record.takeMembers` reads the members of a record one after the other;
* `Record.parse_of_members`: that is what reading the whole text comes to.
-/

namespace Stagecraft.Json

/-! ## 1. Members -/

/-- A key of an object with the text behind its colon. -/
abbrev Member := String × List Char

/-- Passes over the value of a key, and keeps where it begins. The last member comes first. -/
def memberStep (done : List Member) (key : String) : Scan (List Member) := fun s =>
  match takeColon s with
  | .error fault => .error fault
  | .ok s =>
    match skipValue s with
    | .error fault => .error fault
    | .ok rest => .ok ((key, s) :: done, rest)

/-- The members of an object. -/
def scanMembers (s : List Char) : Read (List Member) :=
  match skipSpace s with
  | '\x7b' :: s => inObject (Read.map List.reverse (foldFields memberStep [] s))
  | s => .error (wrongKind "an object" s)

/-- The members of the object that a whole text is. -/
def members (text : String) : Except Fault (List Member) :=
  parse (fun _ => scanMembers) text

/-- The values of a key: the texts that begin with them. -/
def valuesOf (key : String) (members : List Member) : List (List Char) :=
  members.filterMap fun (other, s) => if other = key then some s else none

theorem valuesOf_cons (key other : String) (s : List Char) (all : List Member) :
    valuesOf key ((other, s) :: all) =
      if other = key then s :: valuesOf key all else valuesOf key all := by
  unfold valuesOf
  rw [List.filterMap_cons]
  split <;> split <;> simp_all

/-- There is one member with the key, and its value is read as `x`. -/
def Gives {α : Type} (members : List Member) (key : String) (read : Scan α) (x : α) : Prop :=
  ∃ s rest, valuesOf key members = [s] ∧ read s = .ok (x, rest)

/-! ## 2. Records -/

namespace Record

variable {δ α : Type} {record : Record δ α} {room : Nat}

/-- Reads a member of a record into the draft, if it is not there yet. One that is not known leaves
    the draft as it is. -/
def takeMember (record : Record δ α) (room : Nat) (draft : δ) (member : Member) : Option δ :=
  match record.slots.find? (·.key == member.1) with
  | none => some draft
  | some slot =>
    if slot.isFilled draft then none
    else (slot.read room draft member.2).toOption.map Prod.fst

variable {s t rest : List Char} {all done : List Member} {key : String} {draft : δ}

theorem takeMember_of_fill {β : Type} {slot : Slot δ} {read : Nat → Scan β} {put : δ → β → δ}
    (hslot : record.slots.find? (·.key == key) = some slot) (hread : slot.read = fill read put) :
    record.takeMember room draft (key, s) = if slot.isFilled draft then none
      else (read room s).toOption.map fun (x, _) => put draft x := by
  simp only [takeMember, hslot, hread, fill]
  cases read room s <;> rfl

theorem exists_of_memberStep (h : memberStep done key s = .ok (all, rest)) :
    ∃ t, takeColon s = .ok t ∧ skipValue t = .ok rest ∧ all = (key, t) :: done := by
  unfold memberStep at h
  split at h
  · cases h
  next t hcolon =>
    split at h
    · cases h
    next hskip =>
      cases h
      exact ⟨t, hcolon, hskip, rfl⟩

/-- A member whose value is passed over is read, or it cannot be read. -/
theorem fieldStep_of_member
    (hslots : ∀ slot ∈ record.slots, slot.Extents)
    (hcolon : takeColon s = .ok t) (hskip : skipValue t = .ok rest) :
    (record.fieldStep room draft key s).toOption =
      (record.takeMember room draft (key, t)).map (·, rest) := by
  unfold fieldStep takeMember
  cases hslot : record.slots.find? (·.key == key) with
  | none =>
      simp only [hcolon, hskip]
      rfl
  | some slot =>
      dsimp only
      split
      · rfl
      · rw [hcolon]
        dsimp only
        cases hread : slot.read room draft t with
        | error fault => rfl
        | ok read =>
            obtain ⟨next, rest'⟩ := read
            have hmem := List.mem_of_find?_eq_some hslot
            have hend := hslots slot hmem room draft t next rest' hread
            rw [hskip] at hend
            cases hend
            rfl

/-- The loop over the fields reads the members that the same loop finds when it only passes over
    their values. -/
theorem foldFieldsFrom_of_members
    (hslots : ∀ slot ∈ record.slots, slot.Extents) :
    ∀ {fuel : Nat} {first : Bool} {done : List Member} {s : List Char},
      foldFieldsFrom memberStep fuel first done s = .ok (all, rest) →
        ∃ added : List Member, all = added.reverse ++ done ∧ ∀ draft,
          (foldFieldsFrom (record.fieldStep room) fuel first draft s).toOption =
            (added.foldlM (record.takeMember room) draft).map (·, rest)
  | 0, _, _, _, h => by cases h
  | fuel + 1, first, done, s, h => by
      simp only [foldFieldsFrom] at h ⊢
      split at h
      · cases h
      next hnext =>
        cases h
        exact ⟨[], rfl, fun draft => rfl⟩
      next key u hnext =>
        split at h
        · cases h
        next hmember =>
          obtain ⟨t, hcolon, hskip, rfl⟩ := exists_of_memberStep hmember
          obtain ⟨added, rfl, hadded⟩ := foldFieldsFrom_of_members hslots h
          refine ⟨(key, t) :: added, by simp, fun draft => ?_⟩
          have hfield : (record.fieldStep room draft key u).toOption =
              (record.takeMember room draft (key, t)).map (·, _) :=
            fieldStep_of_member hslots hcolon hskip
          rw [List.foldlM_cons]
          cases hstep : record.fieldStep room draft key u with
          | error fault =>
              rw [hstep] at hfield
              rw [Option.map_eq_none_iff.mp hfield.symm]
              rfl
          | ok read =>
              rw [hstep] at hfield
              obtain ⟨next, htake, rfl⟩ := Option.map_eq_some_iff.mp hfield.symm
              rw [htake]
              exact hadded next

end Record

/-- A whole text that is an object holds it between blanks. -/
theorem exists_of_members {text : String} {all : List Member} (h : members text = .ok all) :
    ∃ s inside rest, skipSpace text.toList = '\x7b' :: s ∧
      foldFields memberStep [] s = .ok (all.reverse, inside) ∧ closeObject inside = .ok rest ∧
      skipSpace rest = [] := by
  have hread : endOfText (scanMembers text.toList) = .ok all := h
  unfold endOfText at hread
  split at hread
  · cases hread
  next rest hscan =>
    split at hread
    next hend =>
      cases hread
      unfold scanMembers at hscan
      split at hscan
      next s hopen =>
        obtain ⟨inside, hmap, hclose⟩ := exists_of_inObject hscan
        obtain ⟨fields, hfields, rfl⟩ := Read.eq_ok_of_map hmap
        exact ⟨s, inside, rest, hopen, by rw [hfields, List.reverse_reverse], hclose, hend⟩
      · cases hscan
    · cases hread

/-- **What a record is read as is decided by the members** of the text, which fill the draft one
    after the other. -/
theorem Record.parse_of_members {δ α : Type} {record : Record δ α} {text : String}
    {all : List Member}
    (hslots : ∀ slot ∈ record.slots, slot.Extents)
    (h : members text = .ok all) :
    (parse record.scan text).toOption =
      (all.foldlM (record.takeMember 126) record.empty).bind fun draft =>
        (record.complete draft).toOption := by
  obtain ⟨s, inside, rest, hopen, hfields, hclose, hend⟩ := exists_of_members h
  obtain ⟨added, hadded, hdraft⟩ := foldFieldsFrom_of_members hslots hfields
  obtain rfl : all = added := by simpa using hadded
  have hscan : record.scan roomAtStart text.toList = inObject (record.finish
      (foldFieldsFrom (record.fieldStep 126) (s.length + 1) true record.empty s)) := by
    rw [Record.scan, hopen]
    rfl
  have hdraft :
      (foldFieldsFrom (record.fieldStep 126) (s.length + 1) true record.empty s).toOption = _ :=
    hdraft record.empty
  rw [parse, hscan]
  cases hread : foldFieldsFrom (record.fieldStep 126) (s.length + 1) true record.empty s with
  | error fault =>
      rw [hread] at hdraft
      rw [Option.map_eq_none_iff.mp hdraft.symm]
      rfl
  | ok read =>
      rw [hread] at hdraft
      obtain ⟨draft, htake, rfl⟩ := Option.map_eq_some_iff.mp hdraft.symm
      rw [htake, Option.bind_some, Record.finish]
      cases hcomplete : record.complete draft with
      | error cause => rfl
      | ok x =>
          simp only [inObject, hclose, endOfText, hend]
          rfl

/-! ## 3. Objects that are values -/

section Values

variable {α : Type} {s t rest : List Char}

/-- The value of a member is read as that of a field, under the same key. -/
def Member.Holds (read : Scan α) (member : Member) (field : String × α) : Prop :=
  member.1 = field.1 ∧ ∃ rest, read member.2 = .ok (field.2, rest)

theorem exists_foldFieldsFrom_memberStep {read : Scan α} (hread : Extents read)
    {last : List (String × α)} :
    ∀ {fuel : Nat} {first : Bool} {fields : List (String × α)} {s : List Char},
      foldFieldsFrom (fieldStep read) fuel first fields s = .ok (last, rest) →
        ∃ (found : List Member) (added : List (String × α)), last = added.reverse ++ fields ∧
          List.Forall₂ (Member.Holds read) found added ∧
          ∀ done, foldFieldsFrom memberStep fuel first done s = .ok (found.reverse ++ done, rest)
  | 0, _, _, _, h => by cases h
  | fuel + 1, first, fields, s, h => by
      simp only [foldFieldsFrom] at h ⊢
      split at h
      · cases h
      next hnext =>
        cases h
        exact ⟨[], [], rfl, .nil, fun done => rfl⟩
      next key u hnext =>
        split at h
        · cases h
        next hfield =>
          obtain ⟨t, x, hcolon, hx, rfl⟩ := exists_of_fieldStep hfield
          obtain ⟨found, added, rfl, hholds, hmore⟩ := exists_foldFieldsFrom_memberStep hread h
          refine ⟨(key, t) :: found, (key, x) :: added, by simp,
            .cons ⟨rfl, _, hx⟩ hholds, fun done => ?_⟩
          simp only [memberStep, hcolon, hread t x _ hx, hmore, List.reverse_cons,
            List.append_assoc, List.singleton_append]

theorem not_scanScalar_object {fields : List (String × Value)} :
    scanScalar s ≠ .ok (.object fields, rest) := by
  intro h
  unfold scanScalar scanWord scanNumberValue scanStringValue at h
  grind

/-- What is read as a string among values is read as one where a string is expected. -/
theorem scanText_of_scanValue {room : Nat} {text : String} (expected : String)
    (h : scanValue room s = .ok (.string text, rest)) : scanText expected s = .ok (text, rest) := by
  unfold scanValue at h
  split at h
  · cases h
  next =>
    split at h
    · cases h
    · obtain ⟨_, hmap, -⟩ := exists_of_inArray h
      obtain ⟨items, -, hitems⟩ := Read.eq_ok_of_map hmap
      cases hitems
  next =>
    split at h
    · cases h
    · obtain ⟨_, hmap, -⟩ := exists_of_inObject h
      obtain ⟨fields, -, hfields⟩ := Read.eq_ok_of_map hmap
      cases hfields
  next =>
    unfold scanScalar scanWord scanNumberValue scanStringValue at h
    unfold scanText
    grind

/-- **An object that is read as a value has members**, under the keys of its fields, and the value
    of each can be read. -/
theorem exists_members_of_parse {text : String} {fields : List (String × Value)}
    (h : Value.parse text = .ok (.object fields)) :
    ∃ all, members text = .ok all ∧ List.Forall₂ (Member.Holds (scanValue 126)) all fields := by
  unfold Value.parse parse endOfText at h
  split at h
  · cases h
  next value rest hscan =>
    split at h
    next hend =>
      cases h
      rw [roomAtStart, scanValue] at hscan
      split at hscan
      · cases hscan
      · obtain ⟨inside, hmap, -⟩ := exists_of_inArray hscan
        obtain ⟨items, -, hitems⟩ := Read.eq_ok_of_map hmap
        cases hitems
      next s hopen =>
        obtain ⟨inside, hmap, hclose⟩ := exists_of_inObject hscan
        obtain ⟨found, hfields, hfound⟩ := Read.eq_ok_of_map hmap
        cases hfound
        obtain ⟨all, added, rfl, hholds, hmembers⟩ :=
          exists_foldFieldsFrom_memberStep (extents_scanValue 126) hfields
        refine ⟨all, ?_, by simpa using hholds⟩
        have hloop : foldFields memberStep [] s = .ok (all.reverse ++ [], inside) := hmembers []
        show endOfText (scanMembers text.toList) = .ok all
        simp [scanMembers, hopen, hloop, Read.map, inObject, hclose, endOfText, hend]
      · exact absurd hscan not_scanScalar_object
    · cases h

/-- A key that an object has once, for a string, is given by its members. -/
theorem gives_of_parse {text key word : String} {fields : List (String × Value)} (expected : String)
    (h : Value.parse text = .ok (.object fields))
    (honce : fields.filter (·.1 == key) = [(key, .string word)]) :
    ∃ all, members text = .ok all ∧ Gives all key (scanText expected) word := by
  obtain ⟨all, hall, hholds⟩ := exists_members_of_parse h
  refine ⟨all, hall, ?_⟩
  have hkey : List.Forall₂ (fun s field => ∃ rest, scanValue 126 s = .ok (field.2, rest))
      (valuesOf key all) (fields.filter (·.1 == key)) := by
    clear h hall honce
    induction hholds with
    | nil => exact .nil
    | @cons member field all fields hfirst _ ih =>
        obtain ⟨other, s⟩ := member
        obtain ⟨rfl, hread⟩ := hfirst
        rw [valuesOf_cons, List.filter_cons]
        by_cases hsame : field.1 = key
        · simpa [hsame] using List.Forall₂.cons hread ih
        · simpa [hsame] using ih
  rw [honce] at hkey
  obtain ⟨s, _, ⟨rest, hread⟩, hnil, hvalues⟩ := List.forall₂_cons_right_iff.mp hkey
  cases List.forall₂_nil_right_iff.mp hnil
  exact ⟨s, rest, hvalues, scanText_of_scanValue expected hread⟩

end Values

end Stagecraft.Json
