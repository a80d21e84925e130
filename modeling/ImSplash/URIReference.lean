import Mathlib.Data.List.TakeWhile

/-!
# References by their parts, and the files that paths name

A URI reference has a scheme and an authority, both of which may be missing, then a path,
and after that a query and a fragment, each behind its mark.  `Parts.ofChars` reads a
reference and `Parts.toChars` writes it: parts that keep clear of the marks of what follows
them are read as they were written (`Parts.ofChars_toChars`).

`resolve` follows a path from the root of a file system: what is empty, and what is a dot,
leads nowhere, and two dots lead back.
-/

namespace URIReference

/-! ### Parts -/

/-- A reference by its parts, each as it is written. -/
structure Parts where
  /-- Scheme and authority, with the colon and the slashes. -/
  root : List Char
  path : List Char
  query : Option (List Char) := none
  fragment : Option (List Char) := none
deriving DecidableEq, Repr

/-- The marks in front of a query and of a fragment. -/
def isMark (c : Char) : Bool := c = '?' || c = '#'

/-- What follows the scheme, if there is one. -/
def afterScheme (reference : List Char) : List Char :=
  match reference.dropWhile fun c => !(c = ':' || c = '/' || isMark c) with
  | ':' :: rest => if reference.head? = some ':' then reference else rest
  | _ => reference

/-- What follows the authority, if there is one. -/
def afterAuthority : List Char → List Char
  | '/' :: '/' :: rest => rest.dropWhile fun c => !(c = '/' || isMark c)
  | rest => rest

/-- The path and what follows it. -/
def afterRoot (reference : List Char) : List Char := afterAuthority (afterScheme reference)

namespace Parts

def ofChars (reference : List Char) : Parts where
  root := reference.take (reference.length - (afterRoot reference).length)
  path := (afterRoot reference).takeWhile (!isMark ·)
  query :=
    match (afterRoot reference).dropWhile (!isMark ·) with
    | '?' :: rest => some (rest.takeWhile (· != '#'))
    | _ => none
  fragment :=
    match (afterRoot reference).dropWhile (· != '#') with
    | _ :: fragment => some fragment
    | [] => none

/-- Query and fragment, behind their marks. -/
def marked (parts : Parts) : List Char :=
  parts.query.elim [] ('?' :: ·) ++ parts.fragment.elim [] ('#' :: ·)

def toChars (parts : Parts) : List Char := parts.root ++ (parts.path ++ parts.marked)

end Parts

/-- A scheme and an authority, with what stands between them. -/
def IsRoot (root : List Char) : Prop :=
  ∃ scheme authority, root = scheme ++ "://".toList ++ authority ∧ scheme ≠ [] ∧
    (∀ c ∈ scheme, c ≠ ':' ∧ c ≠ '/' ∧ isMark c = false) ∧
    ∀ c ∈ authority, c ≠ '/' ∧ isMark c = false

/-- No part holds a mark of what follows it, and the path has its slash. -/
structure Parts.WellFormed (parts : Parts) : Prop where
  root : IsRoot parts.root
  slash : parts.path = [] ∨ parts.path.head? = some '/'
  path : ∀ c ∈ parts.path, isMark c = false
  query : ∀ query, parts.query = some query → '#' ∉ query

theorem dropWhile_append_of_stop {α : Type*} {p : α → Bool} {l rest : List α}
    (h : ∀ a ∈ l, p a = true) (hstop : ∀ a ∈ rest.head?, p a = false) :
    (l ++ rest).dropWhile p = rest := by
  rw [List.dropWhile_append_of_pos h]
  cases rest with
  | nil => rfl
  | cons a rest => exact List.dropWhile_cons_of_neg (by simp [hstop a rfl])

theorem takeWhile_append_of_stop {α : Type*} {p : α → Bool} {l rest : List α}
    (h : ∀ a ∈ l, p a = true) (hstop : ∀ a ∈ rest.head?, p a = false) :
    (l ++ rest).takeWhile p = l := by
  rw [List.takeWhile_append_of_pos h]
  cases rest with
  | nil => simp
  | cons a rest => rw [List.takeWhile_cons_of_neg (by simp [hstop a rfl]), List.append_nil]

/-- The root ends where a path, a query or a fragment begins. -/
theorem afterRoot_append {root tail : List Char} (h : IsRoot root)
    (htail : ∀ c ∈ tail.head?, c = '/' ∨ isMark c = true) : afterRoot (root ++ tail) = tail := by
  obtain ⟨scheme, authority, rfl, hne, hscheme, hauthority⟩ := h
  have hdrop : (scheme ++ "://".toList ++ authority ++ tail).dropWhile
      (fun c => !(c = ':' || c = '/' || isMark c)) = ':' :: '/' :: '/' :: (authority ++ tail) := by
    rw [List.append_assoc, List.append_assoc]
    refine dropWhile_append_of_stop (fun c hc => ?_) ?_
    · obtain ⟨hcolon, hslash, hmark⟩ := hscheme c hc
      simp [hcolon, hslash, hmark]
    · rintro _ ⟨⟩
      rfl
  have hhead : (scheme ++ "://".toList ++ authority ++ tail).head? ≠ some ':' := by
    cases scheme with
    | nil => exact absurd rfl hne
    | cons c scheme =>
      intro hcolon
      exact (hscheme c List.mem_cons_self).1 (Option.some.inj hcolon)
  have hscheme : afterScheme (scheme ++ "://".toList ++ authority ++ tail) =
      '/' :: '/' :: (authority ++ tail) := by
    simp only [afterScheme, hdrop, if_neg hhead]
  rw [afterRoot, hscheme, afterAuthority]
  refine dropWhile_append_of_stop (fun c hc => ?_) fun c hc => ?_
  · obtain ⟨hslash, hmark⟩ := hauthority c hc
    simp [hslash, hmark]
  · rcases htail c hc with hslash | hmark
    · simp [hslash]
    · simp [hmark]

namespace Parts
variable {parts : Parts}

theorem marked_head (parts : Parts) : ∀ c ∈ parts.marked.head?, isMark c = true := by
  rcases hquery : parts.query with _ | query <;> rcases hfragment : parts.fragment with _ | fragment
  all_goals simp [marked, hquery, hfragment, isMark]

theorem afterRoot_toChars (h : parts.WellFormed) :
    afterRoot parts.toChars = parts.path ++ parts.marked := by
  refine afterRoot_append h.root fun c hc => ?_
  rcases h.slash with hpath | hslash
  · rw [hpath, List.nil_append] at hc
    exact Or.inr (parts.marked_head c hc)
  · rw [List.head?_append, hslash] at hc
    exact Or.inl (Option.some.inj hc).symm

/-- **Parts are read as they were written.** -/
theorem ofChars_toChars (h : parts.WellFormed) : ofChars parts.toChars = parts := by
  have hpath : ∀ c ∈ parts.path, (!isMark c) = true := fun c hc => by rw [h.path c hc]; rfl
  have hmark : ∀ c ∈ parts.marked.head?, (!isMark c) = false :=
    fun c hc => by rw [parts.marked_head c hc]; rfl
  have hhash : ∀ c ∈ parts.path, (c != '#') = true := by
    intro c hc
    have hnot := h.path c hc
    simp only [isMark, Bool.or_eq_false_iff, decide_eq_false_iff_not] at hnot
    exact bne_iff_ne.mpr hnot.2
  obtain ⟨root, path, query, fragment⟩ := parts
  have hroot : (toChars ⟨root, path, query, fragment⟩).take
      ((toChars ⟨root, path, query, fragment⟩).length -
        (path ++ marked ⟨root, path, query, fragment⟩).length) = root := by
    simp [toChars]
  rw [ofChars, afterRoot_toChars h, hroot, takeWhile_append_of_stop hpath hmark,
    dropWhile_append_of_stop hpath hmark, List.dropWhile_append_of_pos hhash]
  cases query with
  | none => cases fragment <;> simp [marked]
  | some query =>
    have hquery : ∀ c ∈ query, (c != '#') = true := by
      intro c hc
      rw [bne_iff_ne]
      rintro rfl
      exact h.query query rfl hc
    cases fragment with
    | none =>
      have hdrop := List.dropWhile_eq_nil_iff.mpr hquery
      have htake := List.takeWhile_eq_self_iff.mpr hquery
      simp [marked, hdrop, htake]
    | some fragment =>
      have hstop : ∀ c ∈ ('#' :: fragment).head?, (c != '#') = false := by simp
      have hdrop := dropWhile_append_of_stop hquery hstop
      have htake := takeWhile_append_of_stop hquery hstop
      simp [marked, hdrop, htake]

end Parts

/-! ### Paths -/

/-- One step along a path. -/
def follow (directory : List String) (component : String) : List String :=
  if component = "" ∨ component = "." then directory
  else if component = ".." then directory.dropLast
  else directory ++ [component]

/-- What a path from the root leads to, by the names on the way. -/
def resolve (path : List Char) : List String :=
  ((path.splitOn '/').map String.ofList).foldl follow []

end URIReference
