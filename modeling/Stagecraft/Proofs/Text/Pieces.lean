import Stagecraft.Text.Lines

/-!
# Texts as pieces between line feeds

`pieces` cuts a text at every line feed and nowhere else. Lines without line breaks, joined to a
text, are the pieces of that text (`pieces_joinLines`). No lines at all are the exception: they
make the empty text, which has one piece.
-/

namespace Stagecraft.Text

/-- What stands between the line feeds of a text. -/
def pieces (text : String) : List String :=
  (text.toList.splitOn '\n').map String.ofList

theorem joinChars_eq_intercalate : ∀ lines : List (List Char),
    joinChars lines = ['\n'].intercalate lines
  | [] => rfl
  | [line] => by simp [joinChars]
  | line :: next :: more => by
      rw [joinChars, joinChars_eq_intercalate (next :: more), List.intercalate_cons_cons]
      · simp
      · simp

theorem hasBreak_eq_false_iff {line : String} :
    hasBreak line = false ↔ '\n' ∉ line.toList ∧ '\r' ∉ line.toList := by
  unfold hasBreak
  rw [List.any_eq_false]
  constructor
  · intro h
    exact ⟨fun hn => h _ hn rfl, fun hr => h _ hr rfl⟩
  · rintro ⟨hn, hr⟩ c hc hb
    rcases Bool.or_eq_true_iff.mp hb with h | h
    · exact hn (of_decide_eq_true h ▸ hc)
    · exact hr (of_decide_eq_true h ▸ hc)

/-- **Joined lines are the pieces of their text.** -/
theorem pieces_joinLines {lines : List String} (hne : lines ≠ [])
    (h : ∀ line ∈ lines, hasBreak line = false) : pieces (joinLines lines) = lines := by
  have hn : ∀ cs ∈ lines.map String.toList, '\n' ∉ cs := by
    intro cs hcs
    obtain ⟨line, hline, rfl⟩ := List.mem_map.mp hcs
    exact (hasBreak_eq_false_iff.mp (h line hline)).1
  unfold pieces joinLines
  rw [String.toList_ofList, joinChars_eq_intercalate,
    List.splitOn_intercalate _ hn (by simpa using hne), List.map_map]
  simp

/-- A line of joined lines is the piece in its place. -/
theorem getElem?_pieces_joinLines {lines : List String} (h : ∀ line ∈ lines, hasBreak line = false)
    {index : Nat} {line : String} (hline : lines[index]? = some line) :
    (pieces (joinLines lines))[index]? = some line := by
  rw [pieces_joinLines _ h]
  · exact hline
  · rintro rfl
    simp at hline

end Stagecraft.Text
