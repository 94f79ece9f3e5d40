import Stagecraft.Proofs.Program.InPlace

/-!
# When an edit is carried out, and what it does

For each operation on a program one statement: it succeeds with a result exactly if its checks
pass and the result is the change that it names. Where a name or a line is what is refused, there is
one for the refusal too. What is proved about edits goes through these statements, and none of it
looks into the operations again.
-/

namespace Stagecraft

theorem Except.map_eq_ok_iff {ε α β : Type} {f : α → β} {outcome : Except ε α} {b : β} :
    f <$> outcome = .ok b ↔ ∃ a, outcome = .ok a ∧ f a = b := by
  cases outcome with
  | error fault =>
      constructor
      · intro h
        cases h
      · intro h
        obtain ⟨a, h, -⟩ := h
        cases h
  | ok a =>
      constructor
      · intro h
        cases h
        exact ⟨a, rfl, rfl⟩
      · intro h
        obtain ⟨a', h, rfl⟩ := h
        cases h
        rfl

/-- Where a new handler goes: in front, or behind the handler at an index. -/
def slot : Option Nat → Nat
  | none => 0
  | some index => index + 1

theorem slot_some_le {index length : Nat} : slot (some index) ≤ length ↔ index < length :=
  Nat.succ_le_iff

namespace Program

variable {program changed : Program} {id fresh before : ActorId} {handler : HandlerId}
  {name text : String}

/-! ## 1. Actors -/

theorem ofStage_eq_ok_iff : ofStage name fresh = .ok changed ↔
    Name.fault? [] name = none ∧ changed = ⟨[⟨fresh, .stage, name, []⟩]⟩ := by
  unfold ofStage
  cases Name.fault? [] name <;> simp [eq_comm]

theorem insertActor_eq_ok_iff {after : Nat} : program.insertActor after name fresh = .ok changed ↔
    after < program.actors.length ∧ Name.fault? program.names name = none ∧
      changed = ⟨program.actors.insertIdx (after + 1) ⟨fresh, .sprite, name, []⟩⟩ := by
  unfold insertActor
  by_cases h : program.actors.length ≤ after
  · simp [h, Nat.not_lt.mpr h]
  · cases Name.fault? program.names name <;> simp [h, Nat.lt_of_not_le h, eq_comm]

theorem insertActor_eq_badName {after : Nat} {fault : NameFault}
    (hlt : after < program.actors.length) (hname : Name.fault? program.names name = some fault) :
    program.insertActor after name fresh = .error (.badName name fault) := by
  unfold insertActor
  rw [if_neg (Nat.not_le.mpr hlt), hname]

theorem deleteActor_eq_ok_iff : program.deleteActor id = .ok (changed, before) ↔
    program.stageId ≠ id ∧ ∃ index, program.actorIndex? id = some index ∧
      changed = ⟨program.actors.eraseIdx index⟩ ∧ before = program.idAt (index - 1) := by
  unfold deleteActor
  by_cases h : program.stageId = id
  · simp [h]
  · cases program.actorIndex? id <;> simp [h, eq_comm]

theorem renameActor_eq_ok_iff : program.renameActor id name = .ok changed ↔
    (∃ actor, program.actor? id = some actor) ∧
      Name.fault? ((program.actors.filter (·.id ≠ id)).map Actor.name) name = none ∧
      changed = program.updateActor id fun a => { a with name := name } := by
  unfold renameActor
  cases program.actor? id with
  | none => simp
  | some actor =>
      dsimp only
      cases Name.fault? ((program.actors.filter (·.id ≠ id)).map Actor.name) name <;>
        simp [eq_comm]

theorem renameActor_eq_badName {actor : Actor} {fault : NameFault}
    (ha : program.actor? id = some actor)
    (hname : Name.fault? ((program.actors.filter (·.id ≠ id)).map Actor.name) name = some fault) :
    program.renameActor id name = .error (.badName name fault) := by
  unfold renameActor
  rw [ha]
  dsimp only
  rw [hname]

theorem reorderActors_eq_ok_iff {order : List ActorId} :
    program.reorderActors order = .ok changed ↔
      orderFault? (program.actors.map Actor.id) order = none ∧
        order.head? = some program.stageId ∧ changed = ⟨arrange Actor.id program.actors order⟩ := by
  unfold reorderActors
  cases orderFault? (program.actors.map Actor.id) order with
  | some fault => simp
  | none =>
      by_cases h : order.head? = some program.stageId
      · simp [h, eq_comm]
      · simp [h]

/-! ## 2. Handlers -/

theorem insertHandler_eq_ok_iff {after : Option Nat} {trigger : Trigger} {fresh : HandlerId} :
    program.insertHandler id after trigger fresh = .ok changed ↔
      ∃ actor, program.actor? id = some actor ∧ slot after ≤ actor.handlers.length ∧
        changed = program.updateHandlers id (·.insertIdx (slot after) ⟨fresh, trigger, []⟩) := by
  unfold insertHandler
  cases program.actor? id with
  | none => simp
  | some actor =>
      cases after with
      | none => simp [slot, eq_comm]
      | some index =>
          simp only [slot_some_le]
          by_cases h : index < actor.handlers.length
          · simp [slot, h, eq_comm]
          · simp [h]

theorem deleteHandler_eq_ok_iff : program.deleteHandler id handler = .ok changed ↔
    program.missing? id handler = none ∧
      changed = program.updateHandlers id (·.eraseP (·.id = handler)) := by
  unfold deleteHandler
  cases program.missing? id handler <;> simp [eq_comm]

theorem reorderHandlers_eq_ok_iff {order : List HandlerId} :
    program.reorderHandlers id order = .ok changed ↔
      ∃ actor, program.actor? id = some actor ∧
        orderFault? (actor.handlers.map Handler.id) order = none ∧
        changed = program.updateHandlers id (arrange Handler.id · order) := by
  unfold reorderHandlers
  cases program.actor? id with
  | none => simp
  | some actor =>
      dsimp only
      cases h : orderFault? (actor.handlers.map Handler.id) order <;> simp [h, eq_comm]

theorem setBody_eq_ok_iff {lines : List String} :
    program.setBody id handler lines = .ok changed ↔
      program.missing? id handler = none ∧ (∀ line ∈ lines, Text.hasBreak line = false) ∧
        changed = program.updateHandler id handler fun h => { h with body := lines } := by
  rw [← List.findIdx?_eq_none_iff]
  unfold setBody
  cases program.missing? id handler with
  | some fault => simp
  | none => cases lines.findIdx? Text.hasBreak <;> simp [eq_comm]

theorem setBody_eq_brokenLine {lines : List String} {index : Nat}
    (hthere : program.missing? id handler = none)
    (hbroken : lines.findIdx? Text.hasBreak = some index) :
    program.setBody id handler lines = .error (.brokenLine index) := by
  unfold setBody
  rw [hthere, hbroken]

theorem setTrigger_eq_ok_iff {trigger : Trigger} :
    program.setTrigger id handler trigger = .ok changed ↔
      program.missing? id handler = none ∧
        changed = program.updateHandler id handler fun h => { h with trigger := trigger } := by
  unfold setTrigger
  cases program.missing? id handler <;> simp [eq_comm]

end Program

end Stagecraft
