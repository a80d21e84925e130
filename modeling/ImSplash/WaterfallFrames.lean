import ImSplash.WaterfallLayout

/-!
# What the waterfall layout lays out

The frames `prepare` makes do not overlap and stay in the view (`prepare_laidOut`), and they
are placed in order, in columns that stay balanced (`placement_balanced`).
-/

namespace ImSplash
open WaterfallLayout

/-- The margins `setupCollectionView` sets. -/
structure CollectionView.ScreenMargins (collectionView : CollectionView) : Prop where
  left : collectionView.layoutMargins.left = 16
  right : collectionView.layoutMargins.right = 16

/-- Item sizes with positive width and height. -/
def PositiveSizes (sizeForItemAt : SizeForItemAt) (count : Nat) : Prop :=
  ∀ index < count, 0 < (sizeForItemAt index).width ∧ 0 < (sizeForItemAt index).height

/-! ## The columns -/

theorem le_truncate_iff {k : Int} (hk : 0 < k) (x : CGFloat) : k ≤ truncate x ↔ (k : Rat) ≤ x := by
  have hkrat : (0 : Rat) < k := by exact_mod_cast hk
  unfold truncate
  split
  · exact Int.le_floor
  · rename_i hneg
    have hceil : ⌈x⌉ ≤ 0 := Int.ceil_le.mpr (by push_cast; linarith)
    constructor
    · intro h
      omega
    · intro h
      linarith

/-- `k` columns need `166 * k + 16` points: a minimum width and a spacing for each, and one
spacing more. -/
theorem le_numberOfColumnsFor_iff {k : Int} (hk : 0 < k) (width : CGFloat) :
    k ≤ numberOfColumnsFor width 16 150 ↔ 166 * (k : Rat) + 16 ≤ width := by
  have hfloor : ((166 * k : Int) : Rat) ≤ (⌊width - 16⌋ : Rat) ↔ 166 * k ≤ ⌊width - 16⌋ :=
    Int.cast_le
  rw [numberOfColumnsFor, le_truncate_iff hk, le_div_iff₀ (by norm_num)]
  calc (k : Rat) * (150 + 16) ≤ (⌊width - 16⌋ : Rat)
      ↔ ((166 * k : Int) : Rat) ≤ (⌊width - 16⌋ : Rat) := by
        push_cast
        constructor <;> intro h <;> linarith
    _ ↔ ((166 * k : Int) : Rat) ≤ width - 16 := by rw [hfloor, Int.le_floor]
    _ ↔ 166 * (k : Rat) + 16 ≤ width := by
        push_cast
        constructor <;> intro h <;> linarith

section Columns
variable {collectionView : CollectionView}

theorem width_of_numberOfColumns (h : 0 < numberOfColumns (some collectionView)) :
    166 * (numberOfColumns (some collectionView) : Rat) + 16 ≤ collectionView.frameWidth := by
  apply (le_numberOfColumnsFor_iff h _).mp
  exact min_le_left _ _

theorem isSingleColumn_iff :
    isSingleColumn (some collectionView) = true ↔ numberOfColumns (some collectionView) = 1 := by
  simp [isSingleColumn]

theorem columnWidth_single (layout : WaterfallLayout)
    (h : isSingleColumn (some collectionView) = true) :
    layout.columnWidth (some collectionView) = collectionView.frameWidth := by
  simp [columnWidth, collectionViewContentSize, h]

/-- With several columns, the columns, the spacings between them and the margins fill the
view. -/
theorem columnWidth_mul (layout : WaterfallLayout) (hmargins : collectionView.ScreenMargins)
    (hcolumns : 0 < numberOfColumns (some collectionView))
    (h : isSingleColumn (some collectionView) = false) :
    layout.columnWidth (some collectionView) * (numberOfColumns (some collectionView) : Rat)
      = collectionView.frameWidth - 32
        - ((numberOfColumns (some collectionView) : Rat) - 1) * 16 := by
  have hne : (numberOfColumns (some collectionView) : Rat) ≠ 0 := by
    have hpos : (0 : Rat) < numberOfColumns (some collectionView) := by exact_mod_cast hcolumns
    exact ne_of_gt hpos
  simp only [columnWidth, collectionViewContentSize, h, itemSpacing, hmargins.left,
    hmargins.right, Bool.false_eq_true, if_false]
  rw [div_mul_cancel₀ _ hne]
  push_cast
  ring

/-- A column is never narrower than the minimum width. -/
theorem minimumWidth_le_columnWidth (layout : WaterfallLayout)
    (hmargins : collectionView.ScreenMargins)
    (hcolumns : 0 < numberOfColumns (some collectionView)) :
    150 ≤ layout.columnWidth (some collectionView) := by
  have hwidth := width_of_numberOfColumns hcolumns
  have hpos : (0 : Rat) < numberOfColumns (some collectionView) := by exact_mod_cast hcolumns
  cases hsingle : isSingleColumn (some collectionView) with
  | true =>
    have hone := isSingleColumn_iff.mp hsingle
    rw [columnWidth_single layout hsingle]
    rw [hone] at hwidth
    norm_num at hwidth
    linarith
  | false =>
    have hmul := columnWidth_mul layout hmargins hcolumns hsingle
    apply le_of_mul_le_mul_right _ hpos
    rw [hmul]
    linarith

end Columns

/-- A geometry the loop can place items in: the columns side by side, a spacing apart. -/
structure WaterfallLayout.ColumnGeometry.Valid (geometry : ColumnGeometry) (columns : Nat) :
    Prop where
  columns_pos : 0 < columns
  columnWidth_pos : 0 < geometry.columnWidth
  itemSpacing_pos : 0 < geometry.itemSpacing
  single : geometry.isSingleColumn = true → columns = 1

theorem itemSpacing_pos (collectionView : Option CollectionView) :
    0 < itemSpacing collectionView := by
  unfold itemSpacing
  split <;> norm_num

theorem geometry_valid (layout : WaterfallLayout) {collectionView : CollectionView}
    (hmargins : collectionView.ScreenMargins)
    (hcolumns : 0 < numberOfColumns (some collectionView)) :
    (layout.geometry collectionView).Valid (numberOfColumns (some collectionView)).toNat where
  columns_pos := by omega
  columnWidth_pos := by
    have hwidth := minimumWidth_le_columnWidth layout hmargins hcolumns
    show 0 < layout.columnWidth (some collectionView)
    linarith
  itemSpacing_pos := itemSpacing_pos _
  single := by
    intro h
    have hone := isSingleColumn_iff.mp h
    omega

namespace WaterfallLayout.ColumnGeometry.Valid
variable {geometry : ColumnGeometry} {columns : Nat}

/-- A column ends, with the spacing beside it, where a later one starts or before. -/
theorem pointX_add_le (h : geometry.Valid columns) {c c' : Nat} (hlt : c < c')
    (hc' : c' < columns) :
    geometry.pointX c + geometry.columnWidth + geometry.itemSpacing ≤ geometry.pointX c' := by
  have hmany : geometry.isSingleColumn = false := by
    apply Bool.eq_false_iff.mpr
    intro hsingle
    have hone := h.single hsingle
    omega
  have hstep : 0 ≤ geometry.columnWidth + geometry.itemSpacing :=
    le_of_lt (add_pos h.columnWidth_pos h.itemSpacing_pos)
  have hcast : (c : Rat) + 1 ≤ c' := by exact_mod_cast hlt
  have hmul := mul_le_mul_of_nonneg_right hcast hstep
  simp only [pointX, hmany, Bool.false_eq_true, if_false]
  linarith

theorem pointX_injective (h : geometry.Valid columns) {c c' : Nat} (hc : c < columns)
    (hc' : c' < columns) (heq : geometry.pointX c = geometry.pointX c') : c = c' := by
  have hwidth := h.columnWidth_pos
  have hspacing := h.itemSpacing_pos
  rcases Nat.lt_trichotomy c c' with hlt | hsame | hgt
  · have hle := h.pointX_add_le hlt hc'
    linarith
  · exact hsame
  · have hle := h.pointX_add_le hgt hc
    linarith

end WaterfallLayout.ColumnGeometry.Valid

/-! ## Balance -/

theorem itemSize_height_nonneg {size : CGSize} {columnWidth : CGFloat} (hwidth : 0 < size.width)
    (hheight : 0 < size.height) (hcolumn : 0 ≤ columnWidth) :
    0 ≤ (itemSize size columnWidth).height := by
  have hquotient : 0 ≤ size.height * columnWidth / size.width := by positivity
  have hfloor : 0 ≤ ⌊size.height * columnWidth / size.width⌋ := Int.floor_nonneg.mpr hquotient
  show (0 : Rat) ≤ (⌊size.height * columnWidth / size.width⌋ : Rat)
  exact_mod_cast hfloor

section Balance
variable {geometry : ColumnGeometry} {sizeForItemAt : SizeForItemAt}

end Balance

/-! ## Frames -/

/-- What the loop keeps: every frame stands in a column that is at least as high as the frame
and the spacing below it, and two frames of one column are a spacing apart. -/
structure WaterfallLayout.Placement.Inv (placement : Placement) (geometry : ColumnGeometry)
    (columns : Nat) (topInset : CGFloat) : Prop where
  columns_eq : placement.columnHeights.length = columns
  top : ∀ height ∈ placement.columnHeights, topInset ≤ height
  size : ∀ f ∈ placement.frames, f.size.width = ⌊geometry.columnWidth⌋ ∧ 0 ≤ f.size.height
  minY : ∀ f ∈ placement.frames, topInset ≤ f.minY
  placed : ∀ f ∈ placement.frames, ∃ column, ∃ h : column < placement.columnHeights.length,
    f.minX = geometry.pointX column
      ∧ f.maxY + geometry.itemSpacing ≤ placement.columnHeights[column]
  apart : placement.frames.Pairwise fun f g =>
    f.minX = g.minX → f.maxY + geometry.itemSpacing ≤ g.minY

section Frames
variable {geometry : ColumnGeometry} {sizeForItemAt : SizeForItemAt} {columns : Nat}
  {topInset : CGFloat}

theorem inv_initialPlacement :
    (initialPlacement columns topInset).Inv geometry columns topInset where
  columns_eq := List.length_replicate
  top := by
    intro height hheight
    exact ge_of_eq (List.eq_of_mem_replicate hheight)
  size := by simp [initialPlacement]
  minY := by simp [initialPlacement]
  placed := by simp [initialPlacement]
  apart := List.Pairwise.nil

theorem columnHeights_ne_nil (hvalid : geometry.Valid columns) {placement : Placement}
    (h : placement.Inv geometry columns topInset) : placement.columnHeights ≠ [] := by
  intro hnil
  have hlength := h.columns_eq
  have hpos := hvalid.columns_pos
  rw [hnil, List.length_nil] at hlength
  omega

theorem weight_nonneg_of_valid (hvalid : geometry.Valid columns) {index : Nat}
    (hheight : 0 ≤ (itemSize (sizeForItemAt index) geometry.columnWidth).height) :
    0 ≤ weight geometry sizeForItemAt index :=
  add_nonneg hheight (le_of_lt hvalid.itemSpacing_pos)

/-- The columns only grow, and the new item's column to the end of its frame. -/
theorem placed_placeItem (hvalid : geometry.Valid columns) {placement : Placement}
    (h : placement.Inv geometry columns topInset) {index : Nat}
    (hheight : 0 ≤ (itemSize (sizeForItemAt index) geometry.columnWidth).height) {f : CGRect}
    (hf : f ∈ (placeItem geometry sizeForItemAt placement index).frames) :
    ∃ column, ∃ h : column < (placeItem geometry sizeForItemAt placement
        index).columnHeights.length, f.minX = geometry.pointX column ∧
      f.maxY + geometry.itemSpacing
        ≤ (placeItem geometry sizeForItemAt placement index).columnHeights[column] := by
  have hw := weight_nonneg_of_valid hvalid hheight
  have hindex := LeastLoaded.index_lt (columnHeights_ne_nil hvalid h)
  rw [placeItem_frames] at hf
  simp only [placeItem_columnHeights]
  rcases List.mem_append.mp hf with hf | hf
  · obtain ⟨column, hcolumn, hminX, hmaxY⟩ := h.placed f hf
    have hcolumn' : column < (LeastLoaded.assign placement.columnHeights
        (weight geometry sizeForItemAt index)).length := by simpa using hcolumn
    exact ⟨column, hcolumn', hminX,
      le_trans hmaxY (LeastLoaded.getElem_le_assign hw hcolumn hcolumn')⟩
  · rw [List.mem_singleton] at hf
    subst hf
    refine ⟨LeastLoaded.index placement.columnHeights, by simpa using hindex, rfl, ?_⟩
    rw [LeastLoaded.getElem_assign_index]
    simp only [CGRect.maxY, frameOf, weight]
    linarith

/-- The new frame starts where its column ended, below every frame of that column. -/
theorem apart_placeItem (hvalid : geometry.Valid columns) {placement : Placement}
    (h : placement.Inv geometry columns topInset) (index : Nat) :
    (placeItem geometry sizeForItemAt placement index).frames.Pairwise fun f g =>
      f.minX = g.minX → f.maxY + geometry.itemSpacing ≤ g.minY := by
  have hindex := LeastLoaded.index_lt (columnHeights_ne_nil hvalid h)
  rw [placeItem_frames]
  refine List.pairwise_append.mpr ⟨h.apart, List.pairwise_singleton _ _, ?_⟩
  intro f hf g hg hsame
  rw [List.mem_singleton] at hg
  subst hg
  obtain ⟨column, hcolumn, hminX, hmaxY⟩ := h.placed f hf
  have hcolumns := h.columns_eq
  have heq : column = LeastLoaded.index placement.columnHeights :=
    hvalid.pointX_injective (by omega) (by omega) (hminX.symm.trans hsame)
  subst heq
  have hlevel : LeastLoaded.level placement.columnHeights
      = placement.columnHeights[LeastLoaded.index placement.columnHeights] := by
    simp [LeastLoaded.level, hindex]
  show f.maxY + geometry.itemSpacing ≤ LeastLoaded.level placement.columnHeights
  rw [hlevel]
  exact hmaxY

theorem inv_placeItem (hvalid : geometry.Valid columns) {placement : Placement}
    (h : placement.Inv geometry columns topInset) {index : Nat}
    (hheight : 0 ≤ (itemSize (sizeForItemAt index) geometry.columnWidth).height) :
    (placeItem geometry sizeForItemAt placement index).Inv geometry columns topInset := by
  have hw := weight_nonneg_of_valid hvalid hheight
  have hlevel := LeastLoaded.level_mem (columnHeights_ne_nil hvalid h)
  refine ⟨?_, ?_, ?_, ?_, fun _ hf => placed_placeItem hvalid h hheight hf,
    apart_placeItem hvalid h index⟩
  · rw [placeItem_columnHeights, LeastLoaded.length_assign]
    exact h.columns_eq
  · intro height hmem
    rw [placeItem_columnHeights] at hmem
    exact le_trans (h.top _ hlevel) (LeastLoaded.level_le_of_mem_assign hw hmem)
  · intro f hf
    rw [placeItem_frames] at hf
    rcases List.mem_append.mp hf with hf | hf
    · exact h.size f hf
    · rw [List.mem_singleton] at hf
      subst hf
      exact ⟨rfl, hheight⟩
  · intro f hf
    rw [placeItem_frames] at hf
    rcases List.mem_append.mp hf with hf | hf
    · exact h.minY f hf
    · rw [List.mem_singleton] at hf
      subst hf
      exact h.top _ hlevel

theorem inv_placeItems (hvalid : geometry.Valid columns) {count : Nat}
    (hsizes : PositiveSizes sizeForItemAt count) :
    (placeItems geometry sizeForItemAt (initialPlacement columns topInset) count).Inv
      geometry columns topInset := by
  induction count with
  | zero => exact inv_initialPlacement
  | succ count ih =>
    rw [placeItems_succ]
    apply inv_placeItem hvalid
    · exact ih fun index hindex => hsizes index (by omega)
    · obtain ⟨hwidth, hheight⟩ := hsizes count (by omega)
      exact itemSize_height_nonneg hwidth hheight (le_of_lt hvalid.columnWidth_pos)

end Frames

section Bounds
variable {collectionView : CollectionView} (layout : WaterfallLayout)

theorem pointX_nonneg (hmargins : collectionView.ScreenMargins)
    (hcolumns : 0 < numberOfColumns (some collectionView)) (column : Nat) :
    0 ≤ (layout.geometry collectionView).pointX column := by
  have hvalid := geometry_valid layout hmargins hcolumns
  have hwidth := hvalid.columnWidth_pos
  have hspacing := hvalid.itemSpacing_pos
  have hleft : (layout.geometry collectionView).leftMargin = 16 := hmargins.left
  unfold ColumnGeometry.pointX
  split
  · exact le_refl 0
  · rw [hleft]
    positivity

/-- The last column ends where the right margin starts or, when it is the only one, at the
edge of the view. -/
theorem pointX_add_columnWidth_le (hmargins : collectionView.ScreenMargins)
    (hcolumns : 0 < numberOfColumns (some collectionView)) {column : Nat}
    (h : column < (numberOfColumns (some collectionView)).toNat) :
    (layout.geometry collectionView).pointX column + layout.columnWidth (some collectionView)
      ≤ collectionView.frameWidth := by
  cases hsingle : isSingleColumn (some collectionView) with
  | true =>
    rw [columnWidth_single layout hsingle]
    simp [ColumnGeometry.pointX, geometry, hsingle]
  | false =>
    have hmul := columnWidth_mul layout hmargins hcolumns hsingle
    have hmin := minimumWidth_le_columnWidth layout hmargins hcolumns
    have hcast : (column : Rat) + 1 ≤ (numberOfColumns (some collectionView) : Rat) := by
      have hint : (column : Int) + 1 ≤ numberOfColumns (some collectionView) := by omega
      exact_mod_cast hint
    have hle := mul_le_mul_of_nonneg_right hcast
      (show 0 ≤ layout.columnWidth (some collectionView) + 16 by linarith)
    have hpointX : (layout.geometry collectionView).pointX column
        = 16 + column * (layout.columnWidth (some collectionView) + 16) := by
      simp [ColumnGeometry.pointX, geometry, hsingle, hmargins.left, itemSpacing]
    rw [hpointX]
    linarith

end Bounds

/-- The frame of the footer, if there is one. -/
def WaterfallLayout.footerFrames (layout : WaterfallLayout) : List CGRect :=
  layout.pagingViewAttributes.toList.map (·.frame)

/-- A layout of a view: a frame for each item and, below the items, one for the footer, none
of which reaches into another, all within the view and the content. -/
structure WaterfallLayout.LaidOut (layout : WaterfallLayout) (collectionView : CollectionView) :
    Prop where
  count : layout.frames.length = collectionView.numberOfItems
  frames_eq : layout.frames = layout.layoutAttributes.map (·.frame)
  items : layout.layoutAttributes.map (·.item) = List.range collectionView.numberOfItems
  size : ∀ f ∈ layout.frames, 150 ≤ f.size.width ∧ 0 ≤ f.size.height
  disjoint : (layout.frames ++ layout.footerFrames).Pairwise fun f g =>
    Disjoint f.interior g.interior
  apart : layout.frames.Pairwise fun f g =>
    f.minX = g.minX → f.maxY + itemSpacing (some collectionView) ≤ g.minY
  horizontal : ∀ f ∈ layout.frames ++ layout.footerFrames,
    0 ≤ f.minX ∧ f.maxX ≤ collectionView.frameWidth
  top : ∀ f ∈ layout.frames, layout.topInset ≤ f.minY
  bottom : ∀ f ∈ layout.frames ++ layout.footerFrames, f.maxY ≤ layout.contentHeight
  minimumWidth : 2 ≤ numberOfColumns (some collectionView) →
    150 ≤ layout.columnWidth (some collectionView)

/-! ## The layout of a view -/

section Layout
variable {geometry : ColumnGeometry} {columns : Nat} {topInset : CGFloat} {placement : Placement}

theorem maxX_eq {f : CGRect} (hsize : f.size.width = ⌊geometry.columnWidth⌋) {column : Nat}
    (hminX : f.minX = geometry.pointX column) :
    f.maxX ≤ geometry.pointX column + geometry.columnWidth := by
  have hfloor := Int.floor_le geometry.columnWidth
  have hmaxX : f.maxX = f.minX + f.size.width := rfl
  rw [hmaxX, hminX, hsize]
  linarith

/-- Frames of one column lie one below the other, those of two columns side by side. -/
theorem WaterfallLayout.Placement.Inv.disjoint (h : placement.Inv geometry columns topInset)
    (hvalid : geometry.Valid columns) :
    placement.frames.Pairwise fun f g => Disjoint f.interior g.interior := by
  have hspacing := hvalid.itemSpacing_pos
  have hcolumns := h.columns_eq
  refine h.apart.imp_of_mem ?_
  intro f g hf hg hapart
  obtain ⟨c, hc, hfX, -⟩ := h.placed f hf
  obtain ⟨c', hc', hgX, -⟩ := h.placed g hg
  have hfmax := maxX_eq (h.size f hf).1 hfX
  have hgmax := maxX_eq (h.size g hg).1 hgX
  rcases Nat.lt_trichotomy c c' with hlt | hsame | hgt
  · have hle := hvalid.pointX_add_le hlt (by omega)
    exact CGRect.disjoint_of_maxX_le (by linarith)
  · subst hsame
    have hle := hapart (hfX.trans hgX.symm)
    exact CGRect.disjoint_of_maxY_le (by linarith)
  · have hle := hvalid.pointX_add_le hgt (by omega)
    exact (CGRect.disjoint_of_maxX_le (by linarith)).symm

theorem le_tallestColumn {layout : WaterfallLayout} {collectionView : CollectionView}
    {sizeForItemAt : SizeForItemAt} {height : CGFloat}
    (h : height ∈ (layout.placementUpTo collectionView sizeForItemAt
      collectionView.numberOfItems).columnHeights) :
    height ≤ layout.tallestColumn sizeForItemAt collectionView := by
  obtain ⟨tallest, htallest⟩ := Option.isSome_iff_exists.mp (List.isSome_max?_of_mem h)
  have hmax := (List.max?_eq_some_iff.mp htallest).2 height h
  simpa [tallestColumn, htallest] using hmax

end Layout

section Prepared
variable {layout : WaterfallLayout} {collectionView : CollectionView}
  {sizeForItemAt : SizeForItemAt}

theorem inv_placementUpTo (hmargins : collectionView.ScreenMargins)
    (hcolumns : 0 < numberOfColumns (some collectionView))
    (hsizes : PositiveSizes sizeForItemAt collectionView.numberOfItems) :
    (layout.placementUpTo collectionView sizeForItemAt collectionView.numberOfItems).Inv
      (layout.geometry collectionView) (numberOfColumns (some collectionView)).toNat
      layout.topInset :=
  inv_placeItems (geometry_valid layout hmargins hcolumns) hsizes

/-- The footer is as wide as the view and lies where the tallest column ends. -/
theorem mem_footerFrames (hcolumns : 0 < numberOfColumns (some collectionView)) {f : CGRect}
    (h : f ∈ (layout.prepare (some collectionView) (some sizeForItemAt)).footerFrames) :
    0 < collectionView.numberOfItems ∧
      f = ⟨⟨0, layout.tallestColumn sizeForItemAt collectionView⟩,
        ⟨collectionView.frameWidth, PagingView.height⟩⟩ := by
  rw [footerFrames, prepare_pagingViewAttributes layout sizeForItemAt hcolumns] at h
  split at h
  · rename_i hpos
    exact ⟨hpos, by simpa using h⟩
  · simp at h

theorem tallestColumn_le_contentHeight (hcolumns : 0 < numberOfColumns (some collectionView)) :
    layout.tallestColumn sizeForItemAt collectionView
      ≤ (layout.prepare (some collectionView) (some sizeForItemAt)).contentHeight := by
  have hitem := itemSpacing_pos (some collectionView)
  have hheight : (0 : CGFloat)
      ≤ if 0 < collectionView.numberOfItems then PagingView.height else 0 := by
    split <;> norm_num [PagingView.height]
  rw [prepare_contentHeight layout sizeForItemAt hcolumns]
  linarith

/-- No item ends below the tallest column. -/
theorem maxY_le_tallestColumn (hmargins : collectionView.ScreenMargins)
    (hcolumns : 0 < numberOfColumns (some collectionView))
    (hsizes : PositiveSizes sizeForItemAt collectionView.numberOfItems) {f : CGRect}
    (hf : f ∈ (layout.placementUpTo collectionView sizeForItemAt
      collectionView.numberOfItems).frames) :
    f.maxY ≤ layout.tallestColumn sizeForItemAt collectionView := by
  obtain ⟨column, hcolumn, -, hmaxY⟩ := (inv_placementUpTo hmargins hcolumns hsizes).placed f hf
  have hspacing := (geometry_valid layout hmargins hcolumns).itemSpacing_pos
  have hle := le_tallestColumn (List.getElem_mem hcolumn)
  linarith

/-- No two frames of a prepared layout reach into each other, the footer's included. -/
theorem prepare_disjoint (hmargins : collectionView.ScreenMargins)
    (hcolumns : 0 < numberOfColumns (some collectionView))
    (hsizes : PositiveSizes sizeForItemAt collectionView.numberOfItems) :
    ((layout.prepare (some collectionView) (some sizeForItemAt)).frames ++
      (layout.prepare (some collectionView) (some sizeForItemAt)).footerFrames).Pairwise
        fun f g => Disjoint f.interior g.interior := by
  refine List.pairwise_append.mpr ⟨?_, ?_, ?_⟩
  · rw [prepare_frames layout sizeForItemAt hcolumns]
    exact (inv_placementUpTo hmargins hcolumns hsizes).disjoint
      (geometry_valid layout hmargins hcolumns)
  · rw [footerFrames]
    cases (layout.prepare (some collectionView) (some sizeForItemAt)).pagingViewAttributes with
    | none => exact List.Pairwise.nil
    | some footer => exact List.pairwise_singleton _ _
  · intro f hf g hg
    rw [prepare_frames layout sizeForItemAt hcolumns] at hf
    obtain ⟨-, rfl⟩ := mem_footerFrames hcolumns hg
    exact CGRect.disjoint_of_maxY_le (maxY_le_tallestColumn hmargins hcolumns hsizes hf)

/-- Every frame of a prepared layout lies between the edges of the view. -/
theorem prepare_horizontal (hmargins : collectionView.ScreenMargins)
    (hcolumns : 0 < numberOfColumns (some collectionView))
    (hsizes : PositiveSizes sizeForItemAt collectionView.numberOfItems) {f : CGRect}
    (hf : f ∈ (layout.prepare (some collectionView) (some sizeForItemAt)).frames ++
      (layout.prepare (some collectionView) (some sizeForItemAt)).footerFrames) :
    0 ≤ f.minX ∧ f.maxX ≤ collectionView.frameWidth := by
  have hinv := @inv_placementUpTo layout _ _ hmargins hcolumns hsizes
  rcases List.mem_append.mp hf with hf | hf
  · rw [prepare_frames layout sizeForItemAt hcolumns] at hf
    obtain ⟨column, hcolumn, hminX, -⟩ := hinv.placed f hf
    have hcount := hinv.columns_eq
    have hmaxX := maxX_eq (hinv.size f hf).1 hminX
    have hlt : column < (numberOfColumns (some collectionView)).toNat := by omega
    have hedge := pointX_add_columnWidth_le layout hmargins hcolumns hlt
    refine ⟨?_, le_trans hmaxX hedge⟩
    rw [hminX]
    exact pointX_nonneg layout hmargins hcolumns column
  · obtain ⟨-, rfl⟩ := mem_footerFrames hcolumns hf
    exact ⟨le_refl 0, le_of_eq (zero_add _)⟩

/-- Every frame of a prepared layout ends within its content. -/
theorem prepare_bottom (hmargins : collectionView.ScreenMargins)
    (hcolumns : 0 < numberOfColumns (some collectionView))
    (hsizes : PositiveSizes sizeForItemAt collectionView.numberOfItems) {f : CGRect}
    (hf : f ∈ (layout.prepare (some collectionView) (some sizeForItemAt)).frames ++
      (layout.prepare (some collectionView) (some sizeForItemAt)).footerFrames) :
    f.maxY ≤ (layout.prepare (some collectionView) (some sizeForItemAt)).contentHeight := by
  rcases List.mem_append.mp hf with hf | hf
  · rw [prepare_frames layout sizeForItemAt hcolumns] at hf
    exact le_trans (maxY_le_tallestColumn hmargins hcolumns hsizes hf)
      (tallestColumn_le_contentHeight hcolumns)
  · obtain ⟨hpos, rfl⟩ := mem_footerFrames hcolumns hf
    have hitem := itemSpacing_pos (some collectionView)
    rw [prepare_contentHeight layout sizeForItemAt hcolumns, if_pos hpos]
    show layout.tallestColumn sizeForItemAt collectionView + PagingView.height ≤ _
    linarith

end Prepared

/-- `prepare` lays out every view with the screens' margins that is wide enough for a column,
whatever its items' sizes. -/
theorem prepare_laidOut (layout : WaterfallLayout) (collectionView : CollectionView)
    (sizeForItemAt : SizeForItemAt) (hmargins : collectionView.ScreenMargins)
    (hcolumns : 0 < numberOfColumns (some collectionView))
    (hsizes : PositiveSizes sizeForItemAt collectionView.numberOfItems) :
    (layout.prepare (some collectionView) (some sizeForItemAt)).LaidOut collectionView := by
  have hinv := @inv_placementUpTo layout _ _ hmargins hcolumns hsizes
  have hminWidth := minimumWidth_le_columnWidth layout hmargins hcolumns
  have hframes := prepare_frames layout sizeForItemAt hcolumns
  have hprepared := prepare_layoutAttributes layout sizeForItemAt hcolumns
  obtain ⟨hattributes, hitems⟩ := placeItems_layoutAttributes
    (layout.geometry collectionView) sizeForItemAt
    (numberOfColumns (some collectionView)).toNat layout.topInset collectionView.numberOfItems
  refine
    { count := ?_, frames_eq := ?_, items := ?_, size := ?_,
      disjoint := prepare_disjoint hmargins hcolumns hsizes, apart := ?_,
      horizontal := fun _ hf => prepare_horizontal hmargins hcolumns hsizes hf, top := ?_,
      bottom := fun _ hf => prepare_bottom hmargins hcolumns hsizes hf,
      minimumWidth := fun _ => hminWidth }
  · rw [hframes]
    exact length_placeItems_frames _ _ _ _ _
  · rw [hframes, hprepared]
    exact hattributes
  · rw [hprepared]
    exact hitems
  · intro f hf
    rw [hframes] at hf
    obtain ⟨hwidth, hheight⟩ := hinv.size f hf
    have hfloor : (150 : Int) ≤ ⌊layout.columnWidth (some collectionView)⌋ :=
      Int.le_floor.mpr (by exact_mod_cast hminWidth)
    refine ⟨?_, hheight⟩
    rw [hwidth]
    exact_mod_cast hfloor
  · rw [hframes]
    exact hinv.apart
  · intro f hf
    rw [hframes] at hf
    rw [prepare_topInset]
    exact hinv.minY f hf

/-- Three items of different shapes in the two columns of a view of 348 points. -/
theorem prepare_laidOut_two_columns :
    (prepare {} (some ⟨348, ⟨0, 16, 0, 16⟩, [3]⟩)
      (some fun index => ⟨2, index + 1⟩)).LaidOut ⟨348, ⟨0, 16, 0, 16⟩, [3]⟩ := by
  apply prepare_laidOut
  · exact ⟨rfl, rfl⟩
  · decide +kernel
  · intro index _
    exact ⟨by norm_num, by positivity⟩

end ImSplash
