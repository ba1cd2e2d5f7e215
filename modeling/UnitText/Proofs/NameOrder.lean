import UnitText.Text.Basic
import Mathlib.Data.List.Sort

/-!
# Sorting by name

The order by code point is a total order on texts, and `sortByName` is insertion sort for it: the
entries stay the same and their names ascend. Names that ascend already are in the only order there
is for them.
-/

namespace UnitText

/-! ## The order -/

theorem textLE_total (s t : Text) : textLE s t = true ∨ textLE t s = true := by
  induction s generalizing t with
  | nil => exact .inl rfl
  | cons a s ih =>
    cases t with
    | nil => exact .inr rfl
    | cons b t =>
      by_cases same : a = b
      · subst same
        simpa [textLE] using ih t
      · have other : ¬ b = a := fun h => same h.symm
        have apart := Fin.val_ne_of_ne same
        simp only [textLE, same, other, if_false, decide_eq_true_eq]
        omega

theorem textLE_antisymm {s t : Text} (st : textLE s t = true) (ts : textLE t s = true) : s = t := by
  induction s generalizing t with
  | nil =>
    cases t with
    | nil => rfl
    | cons b t => cases ts
  | cons a s ih =>
    cases t with
    | nil => cases st
    | cons b t =>
      by_cases same : a = b
      · subst same
        simp only [textLE, if_true] at st ts
        rw [ih st ts]
      · have other : ¬ b = a := fun h => same h.symm
        simp only [textLE, same, other, if_false, decide_eq_true_eq] at st ts
        omega

theorem textLE_trans {s t u : Text} (st : textLE s t = true) (tu : textLE t u = true) :
    textLE s u = true := by
  induction s generalizing t u with
  | nil => rfl
  | cons a s ih =>
    cases t with
    | nil => cases st
    | cons b t =>
      cases u with
      | nil => cases tu
      | cons c u =>
        by_cases ab : a = b
        · subst ab
          by_cases ac : a = c
          · subst ac
            simp only [textLE, if_true] at st tu ⊢
            exact ih st tu
          · simpa only [textLE, if_neg ac] using tu
        · by_cases bc : b = c
          · subst bc
            simpa only [textLE, if_neg ab] using st
          · simp only [textLE, if_neg ab, if_neg bc, decide_eq_true_eq] at st tu
            have ac : a ≠ c := fun same => absurd (same ▸ st.trans tu) (Nat.lt_irrefl _)
            simp only [textLE, if_neg ac, decide_eq_true_eq]
            omega

/-! ## Sorting -/

section Sorting

variable {α : Type} (name : α → Text)

/-- Whether the name of an entry does not come after the name of another one. -/
def NameLE (a b : α) : Prop := textLE (name a) (name b) = true

instance instDecidableNameLE : DecidableRel (NameLE name) := fun a b =>
  inferInstanceAs (Decidable (textLE (name a) (name b) = true))

instance instTotalNameLE : Std.Total (NameLE name) := ⟨fun a b => textLE_total (name a) (name b)⟩

instance instIsTransNameLE : IsTrans α (NameLE name) := ⟨fun _ _ _ => textLE_trans⟩

theorem sortByName_eq_insertionSort (l : List α) :
    sortByName name l = l.insertionSort (NameLE name) := by
  -- Inserting is the step of either sort.
  have inserted : ∀ (a : α) (l : List α), insertByName name a l = l.orderedInsert (NameLE name) a := by
    intro a l
    induction l with
    | nil => rfl
    | cons b l ih => rw [insertByName, List.orderedInsert_cons, ih]; rfl
  induction l with
  | nil => rfl
  | cons a l ih =>
    rw [List.insertionSort_cons, ← ih, ← inserted]
    rfl

theorem perm_sortByName (l : List α) : (sortByName name l).Perm l := by
  rw [sortByName_eq_insertionSort]
  exact List.perm_insertionSort ..

theorem pairwise_sortByName (l : List α) : (sortByName name l).Pairwise (NameLE name) := by
  rw [sortByName_eq_insertionSort]
  exact List.pairwise_insertionSort ..

/-- The names of sorted entries are the list of these names that ascends. -/
theorem map_sortByName_eq {l : List α} {names : List Text} (same : (l.map name).Perm names)
    (ascending : names.Pairwise fun s t => textLE s t = true) :
    (sortByName name l).map name = names := by
  have sorted : ((sortByName name l).map name).Pairwise fun s t => textLE s t = true :=
    List.pairwise_map.mpr (pairwise_sortByName name l)
  exact ((perm_sortByName name l).map name |>.trans same).eq_of_pairwise
    (fun _ _ _ _ st ts => textLE_antisymm st ts) sorted ascending

end Sorting

end UnitText
