import Mathlib.Algebra.Order.Ring.Cast
import Mathlib.Order.CompletePartialOrder
import Mathlib.Order.Interval.Set.Disjoint
import Mathlib.Tactic.Linarith

/-!
# Grids of cells

A grid has rows of cells: the cells of a row are a step apart and the rows a pitch. A cell is made
of spans, which are counted from its start. When the spans stay within a step and the steps of a
row within the pitch, a span lies in the grid (`Layout.Grid.span_subset`), and different cells have
nothing in common (`Layout.Grid.disjoint_span`). The positions are those of any ordered ring.
-/

namespace Layout

/-- **A grid** of so many rows and columns. -/
structure Grid (R : Type*) where
  start : R
  /-- From one row to the next. -/
  pitch : R
  /-- From one cell to the next. -/
  step : R
  rows : ℕ
  cols : ℕ

namespace Grid

section

variable {R : Type*} [CommRing R] [LinearOrder R] [IsStrictOrderedRing R]

/-- Where a cell starts. -/
def cell (g : Grid R) (r c : ℕ) : R := g.start + r * g.pitch + c * g.step

/-- A part of a cell. -/
def span (g : Grid R) (r c : ℕ) (offset size : R) : Set R :=
  Set.Ico (g.cell r c + offset) (g.cell r c + offset + size)

/-- Where the rows end. -/
def stop (g : Grid R) : R := g.start + g.rows * g.pitch

/-- What the rows cover. -/
def extent (g : Grid R) : Set R := Set.Ico g.start g.stop

/-- **A row has room for its cells.** -/
structure Proper (g : Grid R) : Prop where
  step : 0 ≤ g.step
  row : g.cols * g.step ≤ g.pitch

variable {g : Grid R} {r c r' c' : ℕ} {offset size offset' size' : R}

theorem Proper.pitch_nonneg (hg : g.Proper) : 0 ≤ g.pitch :=
  (mul_nonneg (Nat.cast_nonneg _) hg.step).trans hg.row

/-- **The cells of a row end with it.** -/
theorem Proper.cell_add_step_le (hg : g.Proper) (hc : c < g.cols) :
    g.cell r c + g.step ≤ g.start + (r + 1 : ℕ) * g.pitch := by
  have hcol : (c + 1 : ℕ) * g.step ≤ g.pitch :=
    (mul_le_mul_of_nonneg_right (Nat.cast_le.mpr hc) hg.step).trans hg.row
  calc
    g.cell r c + g.step = g.start + r * g.pitch + (c + 1 : ℕ) * g.step := by
      rw [cell, Nat.cast_succ, add_one_mul, add_assoc]
    _ ≤ g.start + r * g.pitch + g.pitch := by gcongr
    _ = g.start + (r + 1 : ℕ) * g.pitch := by rw [Nat.cast_succ, add_one_mul, add_assoc]

theorem Proper.row_le_cell (hg : g.Proper) (hr : r ≤ r') :
    g.start + r * g.pitch ≤ g.cell r' c := by
  have hrow : (r : R) * g.pitch ≤ r' * g.pitch :=
    mul_le_mul_of_nonneg_right (Nat.cast_le.mpr hr) hg.pitch_nonneg
  have hcol : 0 ≤ (c : R) * g.step := mul_nonneg (Nat.cast_nonneg _) hg.step
  unfold cell
  linarith

/-- **Cells follow each other**, in a row and from row to row. -/
theorem Proper.cell_add_step_le_cell (hg : g.Proper) (hc : c < g.cols)
    (h : r < r' ∨ r = r' ∧ c < c') : g.cell r c + g.step ≤ g.cell r' c' := by
  rcases h with h | ⟨rfl, h⟩
  · exact (hg.cell_add_step_le hc).trans (hg.row_le_cell h)
  · have hcol : ((c + 1 : ℕ) : R) * g.step ≤ c' * g.step :=
      mul_le_mul_of_nonneg_right (Nat.cast_le.mpr h) hg.step
    rw [Nat.cast_succ, add_one_mul] at hcol
    unfold cell
    linarith

/-- **A part of a cell** lies in the grid. -/
theorem Proper.span_subset (hg : g.Proper) (hr : r < g.rows) (hc : c < g.cols)
    (h₀ : 0 ≤ offset) (h₁ : offset + size ≤ g.step) : g.span r c offset size ⊆ g.extent := by
  have hstart : g.start + (0 : ℕ) * g.pitch ≤ g.cell r c := hg.row_le_cell (Nat.zero_le r)
  have hend := hg.cell_add_step_le (r := r) hc
  have hrows : ((r + 1 : ℕ) : R) * g.pitch ≤ g.rows * g.pitch :=
    mul_le_mul_of_nonneg_right (Nat.cast_le.mpr hr) hg.pitch_nonneg
  rw [Nat.cast_zero, zero_mul, add_zero] at hstart
  refine Set.Ico_subset_Ico ?_ ?_
  · linarith
  · unfold stop
    linarith

/-- **Parts of different cells** have nothing in common. -/
theorem Proper.disjoint_span (hg : g.Proper) (hc : c < g.cols) (hc' : c' < g.cols)
    (h₀ : 0 ≤ offset) (h₁ : offset + size ≤ g.step) (h₀' : 0 ≤ offset')
    (h₁' : offset' + size' ≤ g.step) (hne : (r, c) ≠ (r', c')) :
    Disjoint (g.span r c offset size) (g.span r' c' offset' size') := by
  have horder : (r < r' ∨ r = r' ∧ c < c') ∨ (r' < r ∨ r' = r ∧ c' < c) := by
    by_contra! h
    obtain ⟨⟨hr, hcol⟩, hr', hcol'⟩ := h
    have heq := le_antisymm hr' hr
    exact hne (Prod.ext heq (le_antisymm (hcol' heq.symm) (hcol heq)))
  rcases horder with h | h
  · have hle := hg.cell_add_step_le_cell hc h
    exact Set.Ico_disjoint_Ico.mpr
      ((min_le_left _ _).trans ((show _ ≤ _ by linarith).trans (le_max_right _ _)))
  · have hle := hg.cell_add_step_le_cell hc' h
    exact Set.Ico_disjoint_Ico.mpr
      ((min_le_right _ _).trans ((show _ ≤ _ by linarith).trans (le_max_left _ _)))

/-- Parts of one cell, that follow each other. -/
theorem disjoint_span_of_le (h : offset + size ≤ offset') :
    Disjoint (g.span r c offset size) (g.span r c offset' size') := by
  refine Set.Ico_disjoint_Ico.mpr ((min_le_left _ _).trans (le_trans ?_ (le_max_right _ _)))
  rw [add_assoc]
  gcongr

end

end Grid

end Layout
