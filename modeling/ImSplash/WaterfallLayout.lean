import ImSplash.LeastLoaded
import Mathlib.Data.Rat.Floor
import Mathlib.Data.Set.Disjoint
import Mathlib.Order.CompletePartialOrder
import Mathlib.Tactic.Linarith
import Mathlib.Tactic.Positivity
import Mathlib.Tactic.FieldSimp
import Mathlib.Tactic.Ring

/-!
# The waterfall layout

`WaterfallLayout` places the photos of the Home screen in columns: each item goes to the
first shortest column, scaled to the column's width.  `CGFloat` is an exact rational here.

The placement loop assigns weights to the least loaded bin (`LeastLoaded`): a column's
height is its load and an item's weight is its height and the spacing below it.
-/

namespace ImSplash

abbrev CGFloat := Rat

structure CGPoint where
  x : CGFloat
  y : CGFloat
deriving DecidableEq, Repr

structure CGSize where
  width : CGFloat
  height : CGFloat
deriving DecidableEq, Repr

structure CGRect where
  origin : CGPoint
  size : CGSize
deriving DecidableEq, Repr

structure UIEdgeInsets where
  top : CGFloat
  left : CGFloat
  bottom : CGFloat
  right : CGFloat
deriving DecidableEq, Repr

namespace CGRect

def minX (rect : CGRect) : CGFloat := rect.origin.x
def maxX (rect : CGRect) : CGFloat := rect.origin.x + rect.size.width
def minY (rect : CGRect) : CGFloat := rect.origin.y
def maxY (rect : CGRect) : CGFloat := rect.origin.y + rect.size.height

/-- The points strictly inside a rectangle. -/
def interior (rect : CGRect) : Set (CGFloat × CGFloat) :=
  {p | rect.minX < p.1 ∧ p.1 < rect.maxX ∧ rect.minY < p.2 ∧ p.2 < rect.maxY}

theorem disjoint_of_maxX_le {f g : CGRect} (h : f.maxX ≤ g.minX) :
    Disjoint f.interior g.interior := by
  apply Set.disjoint_left.mpr
  intro p hf hg
  have hlt : p.1 < p.1 := lt_of_lt_of_le hf.2.1 (le_trans h (le_of_lt hg.1))
  exact lt_irrefl p.1 hlt

theorem disjoint_of_maxY_le {f g : CGRect} (h : f.maxY ≤ g.minY) :
    Disjoint f.interior g.interior := by
  apply Set.disjoint_left.mpr
  intro p hf hg
  have hlt : p.2 < p.2 := lt_of_lt_of_le hf.2.2.2 (le_trans h (le_of_lt hg.2.2.1))
  exact lt_irrefl p.2 hlt

end CGRect

/-- What the layout reads of its collection view. -/
structure CollectionView where
  frameWidth : CGFloat
  layoutMargins : UIEdgeInsets
  numberOfItemsInSection : List Nat
deriving Repr

/-- The items of all sections, summed as `prepare` does. -/
def CollectionView.numberOfItems (collectionView : CollectionView) : Nat :=
  collectionView.numberOfItemsInSection.sum

inductive ElementKind
  | cell
  | sectionFooter
deriving DecidableEq, Repr

/-- `UICollectionViewLayoutAttributes`; the section of its index path is always zero. -/
structure LayoutAttributes where
  elementKind : ElementKind
  item : Nat
  frame : CGRect
deriving DecidableEq, Repr

structure WaterfallLayout where
  topInset : CGFloat := 16
  layoutAttributes : List LayoutAttributes := []
  frames : List CGRect := []
  pagingViewAttributes : Option LayoutAttributes := none
  contentHeight : CGFloat := 0
deriving DecidableEq, Repr

/-- `PagingView.height`. -/
def PagingView.height : CGFloat := 44

/-- `Int(_:)` of a `CGFloat` rounds towards zero. -/
def truncate (x : CGFloat) : Int := if 0 ≤ x then ⌊x⌋ else ⌈x⌉

/-- `numberOfColumns(for:itemSpacing:minimumWidth:)`; its defaults are 16 and 150. -/
def numberOfColumnsFor (width itemSpacing minimumWidth : CGFloat) : Int :=
  truncate (⌊width - itemSpacing⌋ / (minimumWidth + itemSpacing))

/-- `PhotosDelegate.waterfallLayout(_:sizeForItemAt:)`. -/
abbrev SizeForItemAt := Nat → CGSize

namespace WaterfallLayout

def numberOfColumns : Option CollectionView → Int
  | none => 1
  | some collectionView => min (numberOfColumnsFor collectionView.frameWidth 16 150) 3

def isSingleColumn (collectionView : Option CollectionView) : Bool :=
  numberOfColumns collectionView == 1

def itemSpacing (collectionView : Option CollectionView) : CGFloat :=
  if isSingleColumn collectionView then 1 else 16

def collectionViewContentSize (layout : WaterfallLayout) : Option CollectionView → CGSize
  | none => ⟨0, 0⟩
  | some collectionView =>
    let width :=
      if isSingleColumn (some collectionView) then collectionView.frameWidth
      else collectionView.frameWidth
        - (collectionView.layoutMargins.left + collectionView.layoutMargins.right)
    ⟨width, layout.contentHeight⟩

def columnWidth (layout : WaterfallLayout) (collectionView : Option CollectionView) : CGFloat :=
  let width := (layout.collectionViewContentSize collectionView).width
  if isSingleColumn collectionView then width
  else (width - ((numberOfColumns collectionView - 1 : Int) : CGFloat)
    * itemSpacing collectionView) / (numberOfColumns collectionView : CGFloat)

/-- `itemSize(from:with:)`. -/
def itemSize (size : CGSize) (columnWidth : CGFloat) : CGSize :=
  ⟨⌊columnWidth⌋, ⌊size.height * columnWidth / size.width⌋⟩

/-- What the placement loop reads and never changes. -/
structure ColumnGeometry where
  isSingleColumn : Bool
  itemSpacing : CGFloat
  columnWidth : CGFloat
  leftMargin : CGFloat
deriving DecidableEq, Repr

/-- What the placement loop changes. -/
structure Placement where
  columnHeights : List CGFloat
  layoutAttributes : List LayoutAttributes := []
  frames : List CGRect := []
deriving DecidableEq, Repr

def ColumnGeometry.pointX (geometry : ColumnGeometry) (column : Nat) : CGFloat :=
  if geometry.isSingleColumn then 0
  else geometry.leftMargin + column * (geometry.columnWidth + geometry.itemSpacing)

/-- The column is one of `indexOfNextColumn`, so it is a column that exists
(`LeastLoaded.index_lt`). -/
def originForColumn (geometry : ColumnGeometry) (columnHeights : List CGFloat) (column : Nat) :
    CGPoint :=
  ⟨geometry.pointX column, columnHeights.getD column 0⟩

def indexOfNextColumn (columnHeights : List CGFloat) : Nat :=
  match columnHeights.min? with
  | none => 0
  | some minHeight => (columnHeights.findIdx? (· == minHeight)).getD 0

/-- The body of the placement loop. -/
def placeItem (geometry : ColumnGeometry) (sizeForItemAt : SizeForItemAt) (placement : Placement)
    (index : Nat) : Placement :=
  let columnIndex := indexOfNextColumn placement.columnHeights
  let origin := originForColumn geometry placement.columnHeights columnIndex
  let size := itemSize (sizeForItemAt index) geometry.columnWidth
  let frame : CGRect := ⟨origin, size⟩
  { columnHeights :=
      placement.columnHeights.set columnIndex (origin.y + size.height + geometry.itemSpacing)
    layoutAttributes := placement.layoutAttributes ++ [⟨.cell, index, frame⟩]
    frames := placement.frames ++ [frame] }

/-- The placement loop, up to item `count`. -/
def placeItems (geometry : ColumnGeometry) (sizeForItemAt : SizeForItemAt) (placement : Placement)
    (count : Nat) : Placement :=
  (List.range count).foldl (placeItem geometry sizeForItemAt) placement

def reset (layout : WaterfallLayout) : WaterfallLayout :=
  { layout with
    pagingViewAttributes := none
    layoutAttributes := []
    frames := []
    contentHeight := 0 }

def geometry (layout : WaterfallLayout) (collectionView : CollectionView) : ColumnGeometry where
  isSingleColumn := isSingleColumn (some collectionView)
  itemSpacing := itemSpacing (some collectionView)
  columnWidth := layout.columnWidth (some collectionView)
  leftMargin := collectionView.layoutMargins.left

/-- No item placed, every column as high as the top inset. -/
def initialPlacement (numberOfColumns : Nat) (topInset : CGFloat) : Placement :=
  { columnHeights := List.replicate numberOfColumns topInset }

/-- The loop of `prepare`, up to item `count`. -/
def placementUpTo (layout : WaterfallLayout) (collectionView : CollectionView)
    (sizeForItemAt : SizeForItemAt) (count : Nat) : Placement :=
  placeItems (layout.geometry collectionView) sizeForItemAt
    (initialPlacement (numberOfColumns (some collectionView)).toNat layout.topInset) count

def prepare (layout : WaterfallLayout) (collectionView : Option CollectionView)
    (delegate : Option SizeForItemAt) : WaterfallLayout :=
  let layout := layout.reset
  match collectionView, delegate with
  | some collectionView, some sizeForItemAt =>
    if 0 < numberOfColumns (some collectionView) then
      let numberOfItems := collectionView.numberOfItems
      let placement := layout.placementUpTo collectionView sizeForItemAt numberOfItems
      let contentHeight := placement.columnHeights.max?.getD 0
      let layout := { layout with
        layoutAttributes := placement.layoutAttributes
        frames := placement.frames }
      let spacing := itemSpacing (some collectionView)
      if 0 < numberOfItems then
        { layout with
          pagingViewAttributes := some ⟨.sectionFooter, numberOfItems - 1,
            ⟨⟨0, contentHeight⟩, ⟨collectionView.frameWidth, PagingView.height⟩⟩⟩
          contentHeight := contentHeight + PagingView.height + spacing }
      else
        { layout with
          pagingViewAttributes := none
          contentHeight := contentHeight + spacing }
    else layout
  | _, _ => layout

/-! ## The next column is the least loaded one -/

theorem indexOfNextColumn_eq (columnHeights : List CGFloat) :
    indexOfNextColumn columnHeights = LeastLoaded.index columnHeights := by
  unfold indexOfNextColumn
  cases hmin : columnHeights.min? with
  | none =>
    rw [List.min?_eq_none_iff] at hmin
    subst hmin
    rfl
  | some m =>
    obtain ⟨hmem, hleast⟩ := List.min?_eq_some_iff.mp hmin
    have hex : ∃ x ∈ columnHeights, (x == m) = true := ⟨m, hmem, by simp⟩
    have hlt := List.findIdx_lt_length_of_exists hex
    show (columnHeights.findIdx? (· == m)).getD 0 = LeastLoaded.index columnHeights
    rw [List.findIdx?_eq_some_of_exists hex, Option.getD_some]
    refine ((List.findIdx_eq hlt).mpr ⟨?_, ?_⟩).symm
    · have hfound : columnHeights[columnHeights.findIdx (· == m)] = m := by
        simpa using List.findIdx_getElem (w := hlt)
      rw [hfound]
      simpa using hleast
    · -- an earlier column as low as every other would be as low as `m` itself
      intro j hj
      have hne := List.not_of_lt_findIdx hj
      have hjlength : j < columnHeights.length := Nat.lt_trans hj hlt
      have hge := hleast _ (List.getElem_mem hjlength)
      apply Bool.eq_false_iff.mpr
      intro hall
      have hle : columnHeights[j] ≤ m :=
        of_decide_eq_true (List.all_eq_true.mp hall m hmem)
      have heq : columnHeights[j] = m := le_antisymm hle hge
      simp [heq] at hne

/-- The weight of an item: its height in the column and the spacing below it. -/
def weight (geometry : ColumnGeometry) (sizeForItemAt : SizeForItemAt) (index : Nat) : CGFloat :=
  (itemSize (sizeForItemAt index) geometry.columnWidth).height + geometry.itemSpacing

/-- The frame the loop gives an item in a state. -/
def frameOf (geometry : ColumnGeometry) (sizeForItemAt : SizeForItemAt)
    (columnHeights : List CGFloat) (index : Nat) : CGRect :=
  ⟨⟨geometry.pointX (LeastLoaded.index columnHeights), LeastLoaded.level columnHeights⟩,
    itemSize (sizeForItemAt index) geometry.columnWidth⟩

section Loop
variable (geometry : ColumnGeometry) (sizeForItemAt : SizeForItemAt)

theorem placeItem_columnHeights (placement : Placement) (index : Nat) :
    (placeItem geometry sizeForItemAt placement index).columnHeights
      = LeastLoaded.assign placement.columnHeights (weight geometry sizeForItemAt index) := by
  simp only [placeItem, originForColumn, indexOfNextColumn_eq, LeastLoaded.assign,
    LeastLoaded.level, weight, add_assoc]

theorem placeItem_frames (placement : Placement) (index : Nat) :
    (placeItem geometry sizeForItemAt placement index).frames
      = placement.frames ++ [frameOf geometry sizeForItemAt placement.columnHeights index] := by
  simp only [placeItem, originForColumn, indexOfNextColumn_eq, frameOf, LeastLoaded.level]

theorem placeItem_layoutAttributes (placement : Placement) (index : Nat) :
    (placeItem geometry sizeForItemAt placement index).layoutAttributes
      = placement.layoutAttributes
        ++ [⟨.cell, index, frameOf geometry sizeForItemAt placement.columnHeights index⟩] := by
  simp only [placeItem, originForColumn, indexOfNextColumn_eq, frameOf, LeastLoaded.level]

theorem placeItems_succ (placement : Placement) (count : Nat) :
    placeItems geometry sizeForItemAt placement (count + 1)
      = placeItem geometry sizeForItemAt
          (placeItems geometry sizeForItemAt placement count) count := by
  simp [placeItems, List.range_succ]

theorem length_placeItems_frames (columns : Nat) (topInset : CGFloat) (count : Nat) :
    (placeItems geometry sizeForItemAt (initialPlacement columns topInset) count).frames.length
      = count := by
  induction count with
  | zero => rfl
  | succ count ih => rw [placeItems_succ, placeItem_frames, List.length_append, ih]; rfl

theorem placeItems_layoutAttributes (columns : Nat) (topInset : CGFloat) (count : Nat) :
    let placement := placeItems geometry sizeForItemAt (initialPlacement columns topInset) count
    placement.frames = placement.layoutAttributes.map (·.frame)
      ∧ placement.layoutAttributes.map (·.item) = List.range count := by
  induction count with
  | zero => exact ⟨rfl, rfl⟩
  | succ count ih =>
    obtain ⟨hframes, hitems⟩ := ih
    simp only [placeItems_succ, placeItem_frames, placeItem_layoutAttributes, List.map_append,
      hitems, List.range_succ, List.map_singleton, hframes, and_self]

end Loop

/-! ## What `prepare` leaves -/

section Prepare
variable (layout : WaterfallLayout) {collectionView : CollectionView}
  (sizeForItemAt : SizeForItemAt)

theorem prepare_topInset (collectionView : Option CollectionView)
    (delegate : Option SizeForItemAt) :
    (layout.prepare collectionView delegate).topInset = layout.topInset := by
  unfold prepare
  split
  · dsimp only
    split
    · split <;> rfl
    · rfl
  · rfl

theorem prepare_frames (hcolumns : 0 < numberOfColumns (some collectionView)) :
    (layout.prepare (some collectionView) (some sizeForItemAt)).frames
      = (layout.placementUpTo collectionView sizeForItemAt
          collectionView.numberOfItems).frames := by
  simp only [prepare, hcolumns, if_true]
  split <;> rfl

theorem prepare_layoutAttributes (hcolumns : 0 < numberOfColumns (some collectionView)) :
    (layout.prepare (some collectionView) (some sizeForItemAt)).layoutAttributes
      = (layout.placementUpTo collectionView sizeForItemAt
          collectionView.numberOfItems).layoutAttributes := by
  simp only [prepare, hcolumns, if_true]
  split <;> rfl

/-- Whatever the view and the delegate, `prepare` leaves a frame for each of its cells. -/
theorem length_frames_prepare (collectionView : Option CollectionView)
    (delegate : Option SizeForItemAt) :
    (layout.prepare collectionView delegate).frames.length
      = (layout.prepare collectionView delegate).layoutAttributes.length := by
  match collectionView, delegate with
  | none, _ => rfl
  | some _, none => rfl
  | some collectionView, some sizeForItemAt =>
    by_cases hcolumns : 0 < numberOfColumns (some collectionView)
    · rw [prepare_frames layout sizeForItemAt hcolumns,
        prepare_layoutAttributes layout sizeForItemAt hcolumns]
      have hframes := (placeItems_layoutAttributes (layout.geometry collectionView) sizeForItemAt
        (numberOfColumns (some collectionView)).toNat layout.topInset
        collectionView.numberOfItems).1
      exact (congrArg List.length hframes).trans (List.length_map _)
    · simp only [prepare, hcolumns, if_false]
      rfl

/-- The height of the tallest column. -/
def tallestColumn (collectionView : CollectionView) : CGFloat :=
  (layout.placementUpTo collectionView sizeForItemAt
    collectionView.numberOfItems).columnHeights.max?.getD 0

theorem prepare_contentHeight (hcolumns : 0 < numberOfColumns (some collectionView)) :
    (layout.prepare (some collectionView) (some sizeForItemAt)).contentHeight
      = layout.tallestColumn sizeForItemAt collectionView
        + (if 0 < collectionView.numberOfItems then PagingView.height else 0)
        + itemSpacing (some collectionView) := by
  simp only [prepare, hcolumns, if_true]
  split
  · rfl
  · rw [add_zero]
    rfl

/-- The footer stands below the tallest column, as wide as the view. -/
theorem prepare_pagingViewAttributes (hcolumns : 0 < numberOfColumns (some collectionView)) :
    (layout.prepare (some collectionView) (some sizeForItemAt)).pagingViewAttributes
      = if 0 < collectionView.numberOfItems then
          some ⟨.sectionFooter, collectionView.numberOfItems - 1,
            ⟨⟨0, layout.tallestColumn sizeForItemAt collectionView⟩,
              ⟨collectionView.frameWidth, PagingView.height⟩⟩⟩
        else none := by
  simp only [prepare, hcolumns, if_true]
  split <;> rfl

end Prepare

end WaterfallLayout
end ImSplash
