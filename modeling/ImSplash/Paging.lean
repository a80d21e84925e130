import Mathlib.Data.List.TakeDrop

/-!
# Pages of a list

A list served page by page: page `k`, counted from zero, has the items from
`k * size` on, at most `size` of them.  A page shorter than `size` is the last one,
and with it the whole list has been served.
-/

namespace Paging
variable {α : Type*}

/-- Page `k` of a list. -/
def page (L : List α) (size k : Nat) : List α := (L.drop (k * size)).take size

theorem length_page (L : List α) (size k : Nat) :
    (page L size k).length = min size (L.length - k * size) := by
  simp [page]

/-- The next page continues what has been served. -/
theorem take_append_page (L : List α) (size k : Nat) :
    L.take (k * size) ++ page L size k = L.take ((k + 1) * size) := by
  rw [page, ← List.take_add, Nat.add_mul, Nat.one_mul]

/-- A page is short exactly when the list ends before the next one would. -/
theorem length_page_lt_iff (L : List α) (size k : Nat) :
    (page L size k).length < size ↔ L.length < (k + 1) * size := by
  rw [length_page, Nat.add_mul]
  rcases Nat.eq_zero_or_pos size with rfl | hpos
  · simp
  · omega

/-- With a short page the list is complete. -/
theorem take_append_page_of_short {L : List α} {size k : Nat}
    (h : (page L size k).length < size) : L.take (k * size) ++ page L size k = L := by
  have hlength := (length_page_lt_iff L size k).mp h
  rw [take_append_page]
  exact List.take_of_length_le (Nat.le_of_lt hlength)

/-! ### Pages that cannot be read

A page is read element by element, and not at all if one of them has no value.  Served page by
page, a list is read up to the page of the first such element. -/

variable {β : Type*}

theorem page_map (f : α → β) (L : List α) (size k : Nat) :
    page (L.map f) size k = (page L size k).map f := by
  rw [page, page, ← List.map_drop, ← List.map_take]

/-- As long as it ends before, a page is one of an initial part. -/
theorem page_take {L : List α} {size k m : Nat} (h : (k + 1) * size ≤ m) :
    page (L.take m) size k = page L size k := by
  rw [Nat.add_mul, Nat.one_mul] at h
  rw [page, List.drop_take, List.take_take, Nat.min_eq_left (by omega), page]

theorem mem_page {L : List α} {size k i : Nat} (h : k * size ≤ i) (h' : i < (k + 1) * size)
    (hi : i < L.length) : L[i] ∈ page L size k := by
  rw [Nat.add_mul, Nat.one_mul] at h'
  refine List.mem_of_getElem? (i := i - k * size) ?_
  rw [page, List.getElem?_take_of_lt (by omega), List.getElem?_drop, Nat.add_sub_cancel' h]
  exact List.getElem?_eq_getElem hi

theorem mapM_eq_some_iff {f : α → Option β} {l : List α} {values : List β} :
    l.mapM f = some values ↔ l.map f = values.map some := by
  induction l generalizing values with
  | nil => cases values <;> simp
  | cons a l ih =>
    rw [List.mapM_cons, List.map_cons]
    cases ha : f a with
    | none => cases values <;> simp
    | some b =>
      cases values with
      | nil => cases l.mapM f <;> simp
      | cons value values =>
        rw [List.map_cons, List.cons.injEq, ← ih]
        cases l.mapM f <;> simp

section Readable
variable (value : α → Option β) (size : Nat) (L : List α)

/-- How many elements the pages have before the one that cannot be read; without such a page,
all of them. -/
def readableLength : Nat :=
  let n := L.findIdx fun a => (value a).isNone
  if n = L.length then n else n / size * size

/-- The values of these. -/
def readable : List β := (L.take (readableLength value size L)).filterMap value

theorem readableLength_le :
    readableLength value size L ≤ L.findIdx fun a => (value a).isNone := by
  simp only [readableLength]
  split
  · exact Nat.le_refl _
  · exact Nat.div_mul_le_self _ _

theorem map_take_readableLength :
    (L.take (readableLength value size L)).map value = (readable value size L).map some := by
  have hmap : ∀ l : List α, (∀ a ∈ l, (value a).isSome = true) →
      l.map value = (l.filterMap value).map some := by
    intro l hl
    induction l with
    | nil => rfl
    | cons a l ih =>
      obtain ⟨b, hb⟩ := Option.isSome_iff_exists.mp (hl a List.mem_cons_self)
      rw [List.map_cons, ih fun a h => hl a (List.mem_cons_of_mem _ h),
        List.filterMap_cons_some hb, List.map_cons, hb]
  refine hmap _ fun a ha => ?_
  obtain ⟨i, hi, rfl⟩ := List.getElem_of_mem ha
  have hle := readableLength_le value size L
  rw [List.length_take] at hi
  have hbefore : i < L.findIdx fun a => (value a).isNone := by omega
  have hsome := List.not_of_lt_findIdx hbefore
  rw [List.getElem_take]
  simpa using hsome

theorem length_readable : (readable value size L).length = readableLength value size L := by
  have hlength := congrArg List.length (map_take_readableLength value size L)
  have hle := Nat.le_trans (readableLength_le value size L) List.findIdx_le_length
  rw [List.length_map, List.length_map, List.length_take] at hlength
  omega

variable {value size L} {k : Nat}

/-- **A page that is read**, with those before it, is one of the readable list; and either all
elements have values, or the readable list is as long as the pages so far. -/
theorem page_readable (hsize : 0 < size) {values : List β}
    (hpage : (page L size k).mapM value = some values)
    (hbefore : k * size ≤ (readable value size L).length) :
    values = page (readable value size L) size k ∧
      ((∀ a ∈ L, (value a).isSome = true) ∨
        (k + 1) * size ≤ (readable value size L).length) := by
  rw [mapM_eq_some_iff] at hpage
  have hsame : page (L.take (readableLength value size L)) size k = page L size k →
      values = page (readable value size L) size k := by
    intro htake
    have hmap := page_map value (L.take (readableLength value size L)) size k
    rw [map_take_readableLength, page_map, htake, hpage] at hmap
    exact ((List.map_inj_right fun _ _ => Option.some.inj).mp hmap).symm
  rw [length_readable] at hbefore ⊢
  by_cases hall : (L.findIdx fun a => (value a).isNone) = L.length
  · have hlength : readableLength value size L = L.length := (if_pos hall).trans hall
    refine ⟨hsame (by rw [hlength, List.take_length]), Or.inl fun a ha => ?_⟩
    have hsome := List.findIdx_eq_length.mp hall a ha
    simpa using hsome
  · have hlength : readableLength value size L =
        (L.findIdx fun a => (value a).isNone) / size * size := if_neg hall
    have hlt : (L.findIdx fun a => (value a).isNone) < L.length :=
      Nat.lt_of_le_of_ne List.findIdx_le_length hall
    -- The page of the element that cannot be read is not this one.
    have hnext : k ≠ (L.findIdx fun a => (value a).isNone) / size := by
      rintro rfl
      have hin : (L.findIdx fun a => (value a).isNone) <
          ((L.findIdx fun a => (value a).isNone) / size + 1) * size := by
        rw [Nat.add_mul, Nat.one_mul]
        exact Nat.lt_div_mul_add hsize
      have hmem := List.mem_map_of_mem (f := value)
        (mem_page (Nat.div_mul_le_self _ size) hin hlt)
      rw [hpage] at hmem
      obtain ⟨b, -, hb⟩ := List.mem_map.mp hmem
      have hnone := List.findIdx_getElem (w := hlt)
      rw [← hb] at hnone
      cases hnone
    have hle := Nat.le_of_mul_le_mul_right (hlength ▸ hbefore) hsize
    have hfits : (k + 1) * size ≤ readableLength value size L := by
      rw [hlength]
      exact Nat.mul_le_mul_right size (by omega)
    exact ⟨hsame (page_take hfits), Or.inr hfits⟩

/-- Without an element that cannot be read, the readable list is the whole. -/
theorem mapM_eq_readable (h : ∀ a ∈ L, (value a).isSome = true) :
    L.mapM value = some (readable value size L) := by
  have hall : (L.findIdx fun a => (value a).isNone) = L.length := by
    rw [List.findIdx_eq_length]
    intro a ha
    simpa using h a ha
  have hlength : readableLength value size L = L.length := (if_pos hall).trans hall
  rw [mapM_eq_some_iff, ← map_take_readableLength, hlength, List.take_length]

/-- With one, the readable list ends before the page of that element. -/
theorem length_readable_le {i : Nat} (hi : i < L.length) (h : value L[i] = none) :
    (readable value size L).length ≤ i / size * size := by
  have hle : (L.findIdx fun a => (value a).isNone) ≤ i := by
    refine Nat.le_of_not_lt fun hlt => ?_
    have hsome := List.not_of_lt_findIdx hlt
    rw [h] at hsome
    cases hsome
  rw [length_readable, readableLength, if_neg (by omega)]
  exact Nat.mul_le_mul_right size (Nat.div_le_div_right hle)

end Readable

end Paging
