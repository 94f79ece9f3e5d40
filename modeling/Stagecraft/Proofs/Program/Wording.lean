import Std.Data.String.ToNat
import Stagecraft.Proofs.Ident.Text
import Stagecraft.Proofs.Name.Assessment
import Stagecraft.Proofs.Program.Verdict

/-!
# What the words say of a tree

A tree that is refused is refused in words. Here the defect is read off them.

* `Defect.placeOfWords_reason`: three characters of the words tell the kind of the defect;
* `Defect.Fits`: where the reason against a name repeats the name, it is the same name;
* `Defect.eq_of_reason_eq`: no two defects that fit have the same words;
* `Program.refused_in_different_words` is about trees.

A name is written as it is, with quotes and all, so the words alone do not say where it ends. That
it is written twice, or its reason is a fixed text, does.
-/

namespace Stagecraft

/-! ## 1. The words -/

namespace Defect

theorem reason_secondStage (index : Nat) :
    (secondStage index).reason = "actor " ++ (index.repr ++ " is a second stage") := by
  show toString "actor " ++ toString index ++ toString " is a second stage" = _
  exact String.append_assoc ..

theorem reason_repeatedActor (id : ActorId) :
    (repeatedActor id).reason = "duplicate actor id " ++ id.text := rfl

theorem reason_badName (name : String) (fault : NameFault) : (badName name fault).reason =
    "actor name \"" ++ (name ++ ("\" is invalid: " ++ fault.message)) := by
  show toString "actor name \"" ++ toString name ++ toString "\" is invalid: " ++
    toString fault.message = _
  rw [String.append_assoc, String.append_assoc]
  rfl

theorem reason_repeatedHandler (id : HandlerId) :
    (repeatedHandler id).reason = "duplicate handler id " ++ id.text := rfl

theorem reason_brokenLine (handler : HandlerId) (line : Nat) : (brokenLine handler line).reason =
    "handler " ++ (handler.text ++ (" body line " ++ (line.repr ++ " contains a line break"))) := by
  show toString "handler " ++ toString handler.text ++ toString " body line " ++ toString line ++
    toString " contains a line break" = _
  rw [String.append_assoc, String.append_assoc, String.append_assoc]
  rfl

/-! ## 2. Kinds of defects -/

variable {defect other : Defect}

/-- The place of a defect among the kinds of defects. -/
def place : Defect → Nat
  | noActors => 0
  | stageNotFirst => 1
  | secondStage _ => 2
  | repeatedActor _ => 3
  | badName _ _ => 4
  | repeatedHandler _ => 5
  | brokenLine _ _ => 6

/-- The place of a defect, told from its words. What is wrong with a name ends in a full stop, and
    nothing else does. -/
def placeOfWords (words : List Char) : Nat :=
  match words[0]?, words[10]?, words.getLast? with
  | some 'p', _, _ => 0
  | some 'f', _, _ => 1
  | some 'h', _, _ => 6
  | some 'd', some 'a', _ => 3
  | some 'd', _, _ => 5
  | _, _, some '.' => 4
  | _, _, _ => 2

theorem getLast?_message (fault : NameFault) : fault.message.toList.getLast? = some '.' := by
  cases fault with
  | empty => decide
  | startsWithDigit => decide
  | holdsSpace => decide
  | notIdentifier => decide +kernel
  | reserved name =>
      rw [NameFault.message_reserved, ← String.append_assoc, String.toList_append,
        List.getLast?_append]
      rfl
  | taken name =>
      rw [NameFault.message_taken, ← String.append_assoc, String.toList_append,
        List.getLast?_append]
      rfl

/-- **The words tell the kind of the defect.** -/
theorem placeOfWords_reason (defect : Defect) :
    placeOfWords defect.reason.toList = defect.place := by
  cases defect with
  | noActors => decide
  | stageNotFirst => decide
  | secondStage index =>
      have hlast : (secondStage index).reason.toList.getLast? = some 'e' := by
        rw [reason_secondStage, ← String.append_assoc, String.toList_append, List.getLast?_append]
        rfl
      have hfirst : (secondStage index).reason.toList[0]? = some 'a' := by
        rw [reason_secondStage, String.toList_append]
        rfl
      rw [placeOfWords, hfirst, hlast]
      rfl
  | repeatedActor id =>
      rw [reason_repeatedActor, String.toList_append]
      rfl
  | badName name fault =>
      have hlast : (badName name fault).reason.toList.getLast? = some '.' := by
        rw [reason_badName, ← String.append_assoc, ← String.append_assoc, String.toList_append,
          List.getLast?_append, getLast?_message]
        rfl
      have hfirst : (badName name fault).reason.toList[0]? = some 'a' := by
        rw [reason_badName, String.toList_append]
        rfl
      rw [placeOfWords, hfirst, hlast]
      rfl
  | repeatedHandler id =>
      rw [reason_repeatedHandler, String.toList_append]
      rfl
  | brokenLine handler line =>
      rw [reason_brokenLine, String.toList_append]
      rfl

/-! ## 3. What is reported -/

/-- A reason that repeats the name repeats this one. -/
def Fits : Defect → Prop
  | badName name (.reserved word) => word = name
  | badName name (.taken word) => word = name
  | _ => True

/-- Texts that are put together come apart where their sizes say. -/
theorem append_inj_of_size {front back front' back' : String} (h : front ++ back = front' ++ back')
    (hsize : front.toList.length = front'.toList.length) : front = front' ∧ back = back' := by
  have hchars : front.toList ++ back.toList = front'.toList ++ back'.toList := by
    rw [← String.toList_append, h, String.toList_append]
  obtain ⟨hfront, hback⟩ := List.append_inj hchars hsize
  exact ⟨String.toList_injective hfront, String.toList_injective hback⟩

/-- A text that is written twice is known, whatever stands around it. -/
theorem eq_of_written_twice {text other middle front back : String}
    (h : text ++ (middle ++ (front ++ (text ++ back))) =
      other ++ (middle ++ (front ++ (other ++ back)))) : text = other := by
  have hsizes := congrArg (fun words => words.toList.length) h
  simp only [String.toList_append, List.length_append] at hsizes
  exact (append_inj_of_size h (by omega)).1

theorem badName_eq_of_reason_eq {name name' : String} {fault fault' : NameFault}
    (hfits : (badName name fault).Fits) (hfits' : (badName name' fault').Fits)
    (h : (badName name fault).reason = (badName name' fault').reason) :
    badName name fault = badName name' fault' := by
  rw [reason_badName, reason_badName, String.append_right_inj] at h
  have hrank : fault.rank = fault'.rank := by
    rw [← NameFault.rankOfWords_message (name ++ "\" is invalid: ").toList fault,
      ← NameFault.rankOfWords_message (name' ++ "\" is invalid: ").toList fault',
      ← String.toList_append, ← String.toList_append, String.append_assoc, String.append_assoc,
      h]
  cases fault <;> cases fault' <;> try cases hrank
  case reserved.reserved.refl word word' =>
    obtain rfl : word = name := hfits
    obtain rfl : word' = name' := hfits'
    rw [NameFault.message_reserved, NameFault.message_reserved] at h
    rw [eq_of_written_twice h]
  case taken.taken.refl word word' =>
    obtain rfl : word = name := hfits
    obtain rfl : word' = name' := hfits'
    rw [NameFault.message_taken, NameFault.message_taken] at h
    rw [eq_of_written_twice h]
  -- the others are fixed texts
  all_goals rw [(String.append_left_inj _).mp h]

/-- **No two defects have the same words**, if their reasons fit. -/
theorem eq_of_reason_eq {defect other : Defect} (hfits : defect.Fits) (hother : other.Fits)
    (h : defect.reason = other.reason) : defect = other := by
  have hplace : defect.place = other.place := by
    rw [← placeOfWords_reason, ← placeOfWords_reason, h]
  cases defect <;> cases other <;> try cases hplace
  case noActors.noActors.refl => rfl
  case stageNotFirst.stageNotFirst.refl => rfl
  case secondStage.secondStage.refl index index' =>
    rw [reason_secondStage, reason_secondStage, String.append_right_inj,
      String.append_left_inj] at h
    rw [Nat.repr_injective h]
  case repeatedActor.repeatedActor.refl id id' =>
    rw [reason_repeatedActor, reason_repeatedActor, String.append_right_inj] at h
    exact congrArg (fun ident => repeatedActor ⟨ident⟩) (Ident.text_injective h)
  case badName.badName.refl => exact badName_eq_of_reason_eq hfits hother h
  case repeatedHandler.repeatedHandler.refl id id' =>
    rw [reason_repeatedHandler, reason_repeatedHandler, String.append_right_inj] at h
    exact congrArg (fun ident => repeatedHandler ⟨ident⟩) (Ident.text_injective h)
  case brokenLine.brokenLine.refl id line id' line' =>
    rw [reason_brokenLine, reason_brokenLine, String.append_right_inj] at h
    have hsize : id.text.toList.length = id'.text.toList.length :=
      (Ident.length_text id.ident).trans (Ident.length_text id'.ident).symm
    obtain ⟨hid, hline⟩ := append_inj_of_size h hsize
    rw [String.append_right_inj, String.append_left_inj] at hline
    have hident : id = id' := congrArg HandlerId.mk (Ident.text_injective hid)
    rw [hident, Nat.repr_injective hline]

/-- Where the reasons do not fit, two defects may have the same words: a quote in a name looks like
    the one that closes it. -/
example :
    (badName "a" (.taken "b\" is invalid: There is already an actor called \"c")).reason =
      (badName "a\" is invalid: There is already an actor called \"b" (.taken "c")).reason := by
  decide +kernel

end Defect

/-! ## 4. Trees -/

namespace Program

variable {program other : Program} {defect defect' : Defect}

/-- The reason against a name is about that name. -/
theorem FirstDefect.fits (h : program.FirstDefect defect) : defect.Fits := by
  cases h with
  | @badName before after actor fault hbefore hid hname =>
      have hholds := (Name.isFirst_of_fault? hname).1
      cases fault with
      | reserved word => exact hholds.1
      | taken word => exact hholds.1
      | _ => trivial
  | _ => trivial

/-- **Different first defects are reported in different words.** Two trees that are refused with the
    same complaint have the same defect, down to the index, the id, the name or the line. -/
theorem refused_in_different_words (h : program.validate = .error defect)
    (hother : other.validate = .error defect') (hwords : defect.complaint = defect'.complaint) :
    defect = defect' := by
  have hmessage : "Malformed program: " ++ defect.reason =
      "Malformed program: " ++ defect'.reason := congrArg Complaint.message hwords
  have hreason : defect.reason = defect'.reason := (String.append_right_inj _).mp hmessage
  exact Defect.eq_of_reason_eq (firstDefect_of_validate h).fits
    (firstDefect_of_validate hother).fits hreason

end Program

end Stagecraft
