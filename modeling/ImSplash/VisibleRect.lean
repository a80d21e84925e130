import ImSplash.WaterfallLayout

/-!
# The cells of a rectangle

`layoutAttributesForElements(in:)` looks for the first and the last frame that intersects the
rectangle and returns what lies between.  When none does, the two scans leave their initial
bounds, which are those of all cells (`layoutAttributesForElements_exact_iff`).

`CGRect.intersects` belongs to the platform: it is the parameter `intersects`.
-/

namespace ImSplash

namespace WaterfallLayout
variable (intersects : CGRect → CGRect → Bool) (layout : WaterfallLayout) (rect : CGRect)

/-- `rect.intersects(frames[index])`. -/
def hit (index : Nat) : Bool :=
  match layout.frames[index]? with
  | some frame => intersects rect frame
  | none => false

def firstFrameIndex : Nat :=
  ((List.range layout.frames.length).find? (hit intersects layout rect)).getD 0

def lastFrameIndex : Nat :=
  match (List.range layout.frames.length).reverse.find? (hit intersects layout rect) with
  | some index => min (index + 1) layout.layoutAttributes.length
  | none => layout.frames.length

/-- The footer, when its frame intersects the rectangle. -/
def visibleFooter : List LayoutAttributes :=
  match layout.pagingViewAttributes with
  | some attributes => if intersects attributes.frame rect then [attributes] else []
  | none => []

/-- `none` is a trap: a range whose bounds are the wrong way round, or an index outside the
array. -/
def layoutAttributesForElements : Option (List LayoutAttributes) :=
  let firstFrameIndex := firstFrameIndex intersects layout rect
  let lastFrameIndex := lastFrameIndex intersects layout rect
  if firstFrameIndex ≤ lastFrameIndex then do
    let cells ← (List.range' firstFrameIndex (lastFrameIndex - firstFrameIndex)).mapM
      fun index => layout.layoutAttributes[index]?
    some (cells ++ visibleFooter intersects layout rect)
  else none

/-- The answer is the footer, if it intersects, and before it the cells of the smallest range
of indices with every cell that does: those between two cells that intersect. -/
def ExactAnswer : Prop :=
  ∃ first last, first ≤ last ∧ last ≤ layout.layoutAttributes.length
    ∧ layoutAttributesForElements intersects layout rect
      = some (layout.layoutAttributes.extract first last ++ visibleFooter intersects layout rect)
    ∧ ∀ index, (first ≤ index ∧ index < last) ↔
      ∃ j k, j ≤ index ∧ index ≤ k
        ∧ hit intersects layout rect j = true ∧ hit intersects layout rect k = true

end WaterfallLayout

open WaterfallLayout

/-! ## The two scans -/

theorem find?_range_eq_some {p : Nat → Bool} {n i : Nat} :
    (List.range n).find? p = some i ↔ p i = true ∧ i < n ∧ ∀ j < i, p j = false := by
  simp [List.find?_range_eq_some]

theorem find?_reverse_range_eq_some {p : Nat → Bool} {n i : Nat} :
    (List.range n).reverse.find? p = some i
      ↔ p i = true ∧ i < n ∧ ∀ j, i < j → j < n → p j = false := by
  induction n with
  | zero => simp
  | succ n ih =>
    rw [List.range_succ, List.reverse_append, List.reverse_singleton, List.singleton_append]
    by_cases hp : p n = true
    · rw [List.find?_cons_of_pos hp]
      constructor
      · intro h
        have heq : n = i := Option.some.inj h
        subst heq
        exact ⟨hp, by omega, fun j hj hjn => by omega⟩
      · rintro ⟨hpi, hi, hafter⟩
        by_cases heq : i = n
        · rw [heq]
        · have hno := hafter n (by omega) (by omega)
          rw [hp] at hno
          cases hno
    · rw [List.find?_cons_of_neg hp, ih]
      have hpn : p n = false := Bool.eq_false_iff.mpr hp
      constructor
      · rintro ⟨hpi, hi, hafter⟩
        refine ⟨hpi, by omega, ?_⟩
        intro j hij hjn
        by_cases heq : j = n
        · rw [heq]
          exact hpn
        · exact hafter j hij (by omega)
      · rintro ⟨hpi, hi, hafter⟩
        have hne : i ≠ n := by
          intro heq
          rw [heq, hpn] at hpi
          cases hpi
        exact ⟨hpi, by omega, fun j hij hjn => hafter j hij (by omega)⟩

/-- Reading the indices of a range that lies in the array. -/
theorem mapM_getElem? {α : Type*} (l : List α) (first count : Nat) (h : first + count ≤ l.length) :
    (List.range' first count).mapM (fun index => l[index]?)
      = some (l.extract first (first + count)) := by
  induction count generalizing first with
  | zero => simp
  | succ count ih =>
    have hlt : first < l.length := by omega
    rw [List.range'_succ, List.mapM_cons, List.getElem?_eq_getElem hlt]
    rw [ih (first + 1) (by omega)]
    show some (l[first] :: l.extract (first + 1) (first + 1 + count)) = _
    rw [List.extract_eq_take_drop, List.extract_eq_take_drop, List.drop_eq_getElem_cons hlt,
      show first + (count + 1) - first = count + 1 by omega,
      show first + 1 + count - (first + 1) = count by omega, List.take_succ_cons]

/-! ## The answer -/

section Answer
variable {intersects : CGRect → CGRect → Bool} {layout : WaterfallLayout} {rect : CGRect}

theorem lt_length_of_hit {index : Nat} (h : hit intersects layout rect index = true) :
    index < layout.frames.length := by
  by_contra hge
  have hnone : layout.frames[index]? = none := List.getElem?_eq_none (by omega)
  simp [hit, hnone] at h

theorem exists_hit_iff : (∃ index, hit intersects layout rect index = true)
    ↔ ∃ frame ∈ layout.frames, intersects rect frame = true := by
  constructor
  · intro ⟨index, h⟩
    have hlt := lt_length_of_hit h
    have hsome : layout.frames[index]? = some layout.frames[index] :=
      List.getElem?_eq_getElem hlt
    simp only [hit, hsome] at h
    exact ⟨_, List.getElem_mem hlt, h⟩
  · intro ⟨frame, hmem, h⟩
    obtain ⟨index, hsome⟩ := List.mem_iff_getElem?.mp hmem
    exact ⟨index, by simpa only [hit, hsome] using h⟩

/-- With bounds the right way round and in the array, the loop reads what lies between. -/
theorem layoutAttributesForElements_eq
    (hle : firstFrameIndex intersects layout rect ≤ lastFrameIndex intersects layout rect)
    (hlast : lastFrameIndex intersects layout rect ≤ layout.layoutAttributes.length) :
    layoutAttributesForElements intersects layout rect
      = some (layout.layoutAttributes.extract (firstFrameIndex intersects layout rect)
          (lastFrameIndex intersects layout rect) ++ visibleFooter intersects layout rect) := by
  unfold layoutAttributesForElements
  rw [if_pos hle, mapM_getElem? _ _ _ (by omega), Nat.add_sub_cancel' hle]
  rfl

/-- Without a hit both scans leave the bound they started from. -/
theorem frameIndices_of_no_hit (h : ∀ index, hit intersects layout rect index = false) :
    firstFrameIndex intersects layout rect = 0
      ∧ lastFrameIndex intersects layout rect = layout.frames.length := by
  have hfirst : (List.range layout.frames.length).find? (hit intersects layout rect) = none := by
    simp [h]
  have hlast : (List.range layout.frames.length).reverse.find? (hit intersects layout rect)
      = none := by
    simp [h]
  simp [firstFrameIndex, lastFrameIndex, hfirst, hlast]

/-- With a hit the bounds are the first hit and the index after the last one. -/
theorem frameIndices_of_hit (hlength : layout.frames.length = layout.layoutAttributes.length)
    (h : ∃ index, hit intersects layout rect index = true) :
    ∃ first last, firstFrameIndex intersects layout rect = first
      ∧ lastFrameIndex intersects layout rect = last + 1
      ∧ first ≤ last ∧ last < layout.frames.length
      ∧ hit intersects layout rect first = true ∧ hit intersects layout rect last = true
      ∧ ∀ index, hit intersects layout rect index = true → first ≤ index ∧ index ≤ last := by
  obtain ⟨index, hindex⟩ := h
  have hlt := lt_length_of_hit hindex
  have hsomeFirst : ((List.range layout.frames.length).find?
      (hit intersects layout rect)).isSome := by
    rw [List.find?_isSome]
    exact ⟨index, List.mem_range.mpr hlt, hindex⟩
  have hsomeLast : ((List.range layout.frames.length).reverse.find?
      (hit intersects layout rect)).isSome := by
    rw [List.find?_isSome]
    exact ⟨index, List.mem_reverse.mpr (List.mem_range.mpr hlt), hindex⟩
  obtain ⟨first, hfirst⟩ := Option.isSome_iff_exists.mp hsomeFirst
  obtain ⟨last, hlast⟩ := Option.isSome_iff_exists.mp hsomeLast
  obtain ⟨hhitFirst, -, hbefore⟩ := find?_range_eq_some.mp hfirst
  obtain ⟨hhitLast, hlastLt, hafter⟩ := find?_reverse_range_eq_some.mp hlast
  have hbetween : ∀ index, hit intersects layout rect index = true →
      first ≤ index ∧ index ≤ last := by
    intro index hindex
    have hlt := lt_length_of_hit hindex
    constructor
    · by_contra hlow
      have hno := hbefore index (by omega)
      rw [hindex] at hno
      cases hno
    · by_contra hhigh
      have hno := hafter index (by omega) hlt
      rw [hindex] at hno
      cases hno
  refine ⟨first, last, ?_, ?_, (hbetween last hhitLast).1, hlastLt, hhitFirst, hhitLast, hbetween⟩
  · simp [firstFrameIndex, hfirst]
  · simp only [lastFrameIndex, hlast]
    omega

/-- The range the loop runs over is well formed and in the array, with a hit or without. -/
theorem lastFrameIndex_le (intersects : CGRect → CGRect → Bool) (rect : CGRect)
    (hlength : layout.frames.length = layout.layoutAttributes.length) :
    firstFrameIndex intersects layout rect ≤ lastFrameIndex intersects layout rect
      ∧ lastFrameIndex intersects layout rect ≤ layout.layoutAttributes.length := by
  by_cases h : ∃ index, hit intersects layout rect index = true
  · obtain ⟨first, last, hfirst, hlast, hle, hlt, -⟩ := frameIndices_of_hit hlength h
    omega
  · obtain ⟨hfirst, hlast⟩ := frameIndices_of_no_hit
      fun index => Bool.eq_false_iff.mpr (not_exists.mp h index)
    omega

theorem exactAnswer_iff (hlength : layout.frames.length = layout.layoutAttributes.length) :
    ExactAnswer intersects layout rect
      ↔ layout.frames = [] ∨ ∃ frame ∈ layout.frames, intersects rect frame = true := by
  obtain ⟨hle, hlast⟩ := lastFrameIndex_le intersects rect hlength
  have hanswer := layoutAttributesForElements_eq hle hlast
  rw [← exists_hit_iff]
  by_cases h : ∃ index, hit intersects layout rect index = true
  · -- the bounds of the loop are the first and the last hit
    obtain ⟨first, last, hfirst, hlast', hfl, hlt, hhitFirst, hhitLast, hbetween⟩ :=
      frameIndices_of_hit hlength h
    rw [hfirst, hlast'] at hanswer
    refine iff_of_true ⟨first, last + 1, by omega, by omega, hanswer, ?_⟩ (.inr h)
    intro index
    constructor
    · intro ⟨hge, hlt'⟩
      exact ⟨first, last, hge, by omega, hhitFirst, hhitLast⟩
    · intro ⟨j, k, hj, hk, hhitj, hhitk⟩
      have hj' := hbetween j hhitj
      have hk' := hbetween k hhitk
      omega
  · have hno : ∀ index, hit intersects layout rect index = false :=
      fun index => Bool.eq_false_iff.mpr (not_exists.mp h index)
    obtain ⟨hfirst, hlast'⟩ := frameIndices_of_no_hit hno
    rw [hfirst, hlast', hlength] at hanswer
    constructor
    · -- the exact range is empty, the answer has every cell
      intro ⟨first, last, hfl, hll, hexact, hrange⟩
      have hempty : first = last := by
        by_contra hne
        obtain ⟨j, -, -, -, hhitj, -⟩ := (hrange first).mp ⟨le_refl first, by omega⟩
        exact h ⟨j, hhitj⟩
      rw [hanswer, hempty] at hexact
      have hcells : layout.layoutAttributes = [] := by
        simpa [List.extract_eq_take_drop] using hexact
      left
      apply List.eq_nil_of_length_eq_zero
      rw [hlength, hcells, List.length_nil]
    · rintro (hnil | hhit)
      · have hzero : layout.layoutAttributes.length = 0 := by
          rw [← hlength, hnil, List.length_nil]
        rw [hzero] at hanswer
        refine ⟨0, 0, le_refl 0, by omega, hanswer, ?_⟩
        intro index
        constructor
        · intro ⟨_, hlt⟩
          omega
        · intro ⟨j, _, _, _, hhitj, _⟩
          exact absurd ⟨j, hhitj⟩ h
      · exact absurd hhit h

end Answer

/-- The query never traps, and it is exact when some cell's frame intersects the rectangle or
there is no cell; with cells and none that intersects it returns them all. -/
theorem layoutAttributesForElements_exact_iff (intersects : CGRect → CGRect → Bool)
    (layout : WaterfallLayout) (collectionView : Option CollectionView)
    (delegate : Option SizeForItemAt) (rect : CGRect) :
    (layoutAttributesForElements intersects (layout.prepare collectionView delegate) rect).isSome
    ∧ (ExactAnswer intersects (layout.prepare collectionView delegate) rect
      ↔ (layout.prepare collectionView delegate).frames = []
        ∨ ∃ frame ∈ (layout.prepare collectionView delegate).frames,
            intersects rect frame = true) := by
  have hlength := length_frames_prepare layout collectionView delegate
  obtain ⟨hle, hlast⟩ := lastFrameIndex_le intersects rect hlength
  refine ⟨?_, exactAnswer_iff hlength⟩
  rw [layoutAttributesForElements_eq hle hlast]
  rfl

/-- Two rectangles with inner points in common. -/
def CGRect.overlaps (f g : CGRect) : Bool :=
  decide (f.minX < g.maxX) && decide (g.minX < f.maxX)
    && decide (f.minY < g.maxY) && decide (g.minY < f.maxY)

/-- A rectangle far below the only cell, which the query returns. -/
theorem layoutAttributesForElements_far :
    let layout := prepare {} (some ⟨200, ⟨0, 16, 0, 16⟩, [1]⟩) (some fun _ => ⟨2, 1⟩)
    let rect : CGRect := ⟨⟨0, 1000⟩, ⟨200, 400⟩⟩
    layoutAttributesForElements CGRect.overlaps layout rect
        = some [⟨.cell, 0, ⟨⟨0, 16⟩, ⟨200, 100⟩⟩⟩]
      ∧ (∀ frame ∈ layout.frames, rect.overlaps frame = false)
      ∧ ¬ ExactAnswer CGRect.overlaps layout rect := by
  refine ⟨by decide +kernel, by decide +kernel, ?_⟩
  rw [exactAnswer_iff (length_frames_prepare _ _ _)]
  decide +kernel

end ImSplash
