import Stagecraft.SourceMap

/-!
# The search in a source map

* `bisect_spec`: where a test holds up to some number and fails from there on, `bisect` finds that
  number;
* `SourceMap.Sorted`: the entries stand in the order of their starts, where several may start at
  the same line;
* `SourceMap.entryBy?_eq_some_iff`: in a sorted map the search finds the entry that starts at the
  line or before and whose successor starts after it. Of entries that start at the same line that
  is the last.
-/

namespace Stagecraft

/-! ## 1. Halving -/

/-- **Below the answer the test holds, from the answer on it fails.** -/
theorem bisect_spec {p : Nat → Bool} (hp : ∀ i j, i ≤ j → p j = true → p i = true)
    (low high : Nat) (h : low ≤ high) :
    low ≤ bisect p low high ∧ bisect p low high ≤ high ∧
      (∀ i, low ≤ i → i < bisect p low high → p i = true) ∧
      ∀ i, bisect p low high ≤ i → i < high → p i = false := by
  fun_induction bisect p low high with
  | case1 low high hlt hmid ih =>
      obtain ⟨h1, h2, h3, h4⟩ := ih (by omega)
      refine ⟨by omega, h2, fun i hi hib => ?_, h4⟩
      by_cases hm : i ≤ low + (high - low) / 2
      · exact hp i _ hm hmid
      · exact h3 i (by omega) hib
  | case2 low high hlt hmid ih =>
      obtain ⟨h1, h2, h3, h4⟩ := ih (by omega)
      refine ⟨h1, by omega, h3, fun i hi hih => ?_⟩
      by_cases hm : i < low + (high - low) / 2
      · exact h4 i hi hm
      · -- the test fails in the middle, so it cannot hold after it
        cases hpi : p i with
        | false => rfl
        | true => exact absurd (hp _ i (by omega) hpi) hmid
  | case3 low high hlt =>
      exact ⟨Nat.le_refl _, h, fun i h1 h2 => absurd h2 (by omega),
        fun i h1 h2 => absurd h2 (by omega)⟩

/-! ## 2. Sorted maps -/

namespace SourceMap

/-- The entries stand in the order of their starts. -/
def Sorted (map : SourceMap) : Prop :=
  map.entries.Pairwise (·.startLine ≤ ·.startLine)

variable {map : SourceMap}

theorem Sorted.le (h : map.Sorted) {i j : Nat} {a b : MapEntry} (hij : i ≤ j)
    (ha : map.entries[i]? = some a) (hb : map.entries[j]? = some b) :
    a.startLine ≤ b.startLine := by
  rcases Nat.lt_or_eq_of_le hij with hlt | rfl
  · obtain ⟨hi, rfl⟩ := List.getElem?_eq_some_iff.mp ha
    obtain ⟨hj, rfl⟩ := List.getElem?_eq_some_iff.mp hb
    exact List.pairwise_iff_getElem.mp h i j hi hj hlt
  · rw [ha] at hb
    cases hb
    exact Nat.le_refl _

theorem startsBy_eq_true_iff {line index : Nat} :
    map.startsBy line index = true ↔
      ∃ entry, map.entries[index]? = some entry ∧ entry.startLine ≤ line := by
  unfold startsBy
  split
  next entry he =>
    rw [he]
    simp
  next he =>
    rw [he]
    simp

/-- In a sorted map, what stands before an entry that starts by a line starts by it too. -/
theorem Sorted.startsBy_mono (h : map.Sorted) (line i j : Nat) (hij : i ≤ j)
    (hj : map.startsBy line j = true) : map.startsBy line i = true := by
  obtain ⟨b, hb, hle⟩ := startsBy_eq_true_iff.mp hj
  have hi : i < map.entries.length :=
    Nat.lt_of_le_of_lt hij (List.getElem?_eq_some_iff.mp hb).1
  have ha := List.getElem?_eq_getElem hi
  exact startsBy_eq_true_iff.mpr ⟨_, ha, Nat.le_trans (h.le hij ha hb) hle⟩

/-- **The entry that the search finds** is the one that starts by the line and whose successor
    does not. -/
theorem entryBy?_eq_some_iff (h : map.Sorted) {line : Nat} {entry : MapEntry} :
    map.entryBy? line = some entry ↔
      ∃ index, map.entries[index]? = some entry ∧ entry.startLine ≤ line ∧
        ∀ next, map.entries[index + 1]? = some next → line < next.startLine := by
  obtain ⟨-, hlen, hbelow, hfrom⟩ :=
    bisect_spec (h.startsBy_mono line) 0 map.entries.length (Nat.zero_le _)
  unfold entryBy?
  constructor
  · intro hfound
    split at hfound
    next => cases hfound
    next after hafter =>
      refine ⟨after, hfound, ?_, fun next hnext => ?_⟩
      · obtain ⟨e, he, hle⟩ := startsBy_eq_true_iff.mp (hbelow after (Nat.zero_le _) (by omega))
        rw [hfound] at he
        cases he
        exact hle
      · have hn : after + 1 < map.entries.length := (List.getElem?_eq_some_iff.mp hnext).1
        have hf := hfrom (after + 1) (by omega) hn
        refine Nat.lt_of_not_le fun hle => ?_
        rw [startsBy_eq_true_iff.mpr ⟨next, hnext, hle⟩] at hf
        cases hf
  · intro h
    obtain ⟨index, he, hle, hnext⟩ := h
    have hi : index < map.entries.length := (List.getElem?_eq_some_iff.mp he).1
    have hstart : map.startsBy line index = true := startsBy_eq_true_iff.mpr ⟨entry, he, hle⟩
    have hlt : index < bisect (map.startsBy line) 0 map.entries.length := by
      refine Nat.lt_of_not_le fun hge => ?_
      rw [hfrom index hge hi] at hstart
      cases hstart
    have heq : bisect (map.startsBy line) 0 map.entries.length = index + 1 := by
      refine Nat.le_antisymm (Nat.le_of_not_lt fun hgt => ?_) hlt
      obtain ⟨next, hn, hnle⟩ := startsBy_eq_true_iff.mp (hbelow (index + 1) (Nat.zero_le _) hgt)
      exact absurd (hnext next hn) (Nat.not_lt.mpr hnle)
    rw [heq]
    exact he

end SourceMap

end Stagecraft
