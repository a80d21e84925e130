import ImSplash.QueryString

/-!
# Query strings as a form is read

A server reads a query as a form: items between `&`, in each a name and a value around the
first `=`, and in both `+` for a space and escapes.  Empty items count for nothing.

Where the separators and `+` stand for themselves, escaping a query changes nothing of
this reading (`decodeForm_escape`): what the query says is settled before it is escaped.
-/

namespace QueryString

/-! ### Reading a form -/

def plusToSpace (component : List Char) : List Char :=
  component.map fun c => if c = '+' then ' ' else c

/-- Plus signs are read before the escapes; what cannot be read counts as empty. -/
def decodeFormComponent (component : List Char) : String :=
  (decodeComponent (plusToSpace component)).getD ""

/-- What stands before and after the first `=`. -/
def splitItem (item : List Char) : List Char × List Char :=
  (item.takeWhile (· != '='), (item.dropWhile (· != '=')).drop 1)

def formItems (query : List Char) : List (List Char × List Char) :=
  ((query.splitOn '&').filter (· ≠ [])).map splitItem

/-- The names and values of a query. -/
def decodeForm (query : String) : List (String × String) :=
  (formItems query.toList).map (Prod.map decodeFormComponent decodeFormComponent)

/-- A part between two separators has none in it. -/
theorem not_mem_of_mem_splitOn {α : Type*} [BEq α] [LawfulBEq α] {a : α} {l part : List α}
    (h : part ∈ l.splitOn a) : a ∉ part := by
  induction l generalizing part with
  | nil =>
    rw [List.splitOn_nil, List.mem_singleton] at h
    simp [h]
  | cons x l ih =>
    rw [List.splitOn_cons_eq_if_modifyHead] at h
    obtain ⟨first, rest, hsplit⟩ := List.exists_cons_of_ne_nil (List.splitOn_ne_nil a l)
    rw [hsplit] at h ih
    split at h
    · rcases List.mem_cons.mp h with rfl | h
      · simp
      · exact ih h
    · rename_i hx
      rcases List.mem_cons.mp h with rfl | h
      · -- the first part, with one element more
        rw [List.mem_cons, not_or]
        exact ⟨fun heq => hx (by simp [heq]), ih List.mem_cons_self⟩
      · exact ih (List.mem_cons_of_mem _ h)

theorem ampersand_not_mem_formItems {query : List Char} {item : List Char × List Char}
    (h : item ∈ formItems query) : '&' ∉ item.1 ∧ '&' ∉ item.2 := by
  obtain ⟨part, hpart, rfl⟩ := List.mem_map.mp h
  have hnot := not_mem_of_mem_splitOn (List.mem_filter.mp hpart).1
  refine ⟨fun hmem => hnot (List.takeWhile_subset _ hmem), fun hmem => hnot ?_⟩
  exact List.dropWhile_subset _ (List.mem_of_mem_drop hmem)

/-- An item with its separator is read back, and what follows it by itself. -/
theorem formItems_item {name value : List Char} (hname : '&' ∉ name ∧ '=' ∉ name)
    (hvalue : '&' ∉ value) (rest : List Char) :
    formItems (name ++ '=' :: value ++ '&' :: rest) = (name, value) :: formItems rest := by
  have hitem : '&' ∉ name ++ '=' :: value := by
    rw [List.mem_append, List.mem_cons]
    rintro (h | h | h)
    · exact hname.1 h
    · exact absurd h (by decide)
    · exact hvalue h
  have hbefore : ∀ c ∈ name, (c != '=') = true := bne_of_not_mem hname.2
  have hsplit : splitItem (name ++ '=' :: value) = (name, value) := by
    simp [splitItem, List.takeWhile_append_of_pos hbefore,
      List.dropWhile_append_of_pos hbefore]
  rw [formItems, List.splitOn_append_cons_self_of_not_mem hitem, List.filter_cons_of_pos (by simp),
    List.map_cons, hsplit, formItems]

/-- Names and values written down one after the other, each item with its separator. -/
def joinItems (items : List (String × String)) : List Char :=
  items.flatMap fun item => item.1.toList ++ '=' :: item.2.toList ++ ['&']

/-- The items are read back as long as the separators are not in them. -/
theorem formItems_joinItems {items : List (String × String)}
    (hnames : ∀ item ∈ items, '&' ∉ item.1.toList ∧ '=' ∉ item.1.toList)
    (hvalues : ∀ item ∈ items, '&' ∉ item.2.toList) :
    formItems (joinItems items) = items.map fun item => (item.1.toList, item.2.toList) := by
  induction items with
  | nil => rfl
  | cons item items ih =>
    have hrest := ih (fun item h => hnames item (List.mem_cons_of_mem _ h))
      fun item h => hvalues item (List.mem_cons_of_mem _ h)
    have hitem := formItems_item (hnames item List.mem_cons_self)
      (hvalues item List.mem_cons_self) (joinItems items)
    rw [joinItems, List.flatMap_cons, ← joinItems, List.map_cons, ← hrest, ← hitem]
    simp

theorem plusToSpace_of_not_mem {component : List Char} (h : '+' ∉ component) :
    plusToSpace component = component := by
  refine (List.map_congr_left fun c hc => ?_).trans (List.map_id component)
  have hplus : c ≠ '+' := by
    rintro rfl
    exact h hc
  rw [if_neg hplus, id]

theorem plus_not_mem_plusToSpace (component : List Char) : '+' ∉ plusToSpace component := by
  intro h
  obtain ⟨c, -, hc⟩ := List.mem_map.mp h
  split at hc
  · exact absurd hc (by decide)
  · rename_i hplus
    exact hplus hc

/-- No character is read as an ampersand but one that is. -/
theorem ampersand_mem_of_plusToSpace {component : List Char} (h : '&' ∈ plusToSpace component) :
    '&' ∈ component := by
  obtain ⟨c, hmem, hc⟩ := List.mem_map.mp h
  split at hc
  · exact absurd hc (by decide)
  · exact hc ▸ hmem

/-! ### Escaping what is read -/

/-- The separators and `+` stand for themselves, the escape does not. -/
structure KeepsSeparators (allowed : Char → Bool) : Prop where
  percent : allowed '%' = false
  ampersand : allowed '&' = true
  equals : allowed '=' = true
  plus : allowed '+' = true

variable {allowed : Char → Bool}

theorem plus_not_mem_escapeByte (b : UInt8) : '+' ∉ escapeByte b :=
  not_mem_escapeByte_of (by decide) (by decide) b

theorem plusToSpace_escapeBytes (bytes : List UInt8) :
    plusToSpace (bytes.flatMap escapeByte) = bytes.flatMap escapeByte := by
  apply plusToSpace_of_not_mem
  intro h
  obtain ⟨b, -, hb⟩ := List.mem_flatMap.mp h
  exact plus_not_mem_escapeByte b hb

theorem unescape_plusToSpace_escape (h : KeepsSeparators allowed) (component : List Char) :
    unescape (plusToSpace (escape allowed component)) =
      some ((plusToSpace component).flatMap String.utf8EncodeChar) := by
  induction component with
  | nil => rfl
  | cons c component ih =>
    have happend : plusToSpace (escape allowed (c :: component)) =
        plusToSpace (escapeChar allowed c) ++ plusToSpace (escape allowed component) := by
      rw [escape, List.flatMap_cons, plusToSpace, List.map_append]
      rfl
    rw [happend]
    by_cases hallowed : allowed c = true
    · -- the character stands for itself, a plus sign for a space
      have hread : (if c = '+' then ' ' else c) ≠ '%' := by
        split
        · decide
        · rintro rfl
          exact absurd (h.percent.symm.trans hallowed) (by decide)
      rw [escapeChar, if_pos hallowed]
      show unescape ((if c = '+' then ' ' else c) :: plusToSpace (escape allowed component)) = _
      rw [unescape_cons hread, ih]
      rfl
    · have hplus : c ≠ '+' := by
        rintro rfl
        exact hallowed h.plus
      rw [escapeChar, if_neg hallowed, plusToSpace_escapeBytes, unescape_escapeBytes, ih]
      simp [plusToSpace, hplus]

theorem decodeFormComponent_escape (h : KeepsSeparators allowed) (component : List Char) :
    decodeFormComponent (escape allowed component) = String.ofList (plusToSpace component) := by
  have hbytes : ((plusToSpace component).flatMap String.utf8EncodeChar).toByteArray.utf8Decode? =
      some (plusToSpace component).toArray := List.utf8Decode?_utf8Encode
  simp [decodeFormComponent, decodeComponent, unescape_plusToSpace_escape h, hbytes]

/-- With its plus signs escaped, a component is read back as it was written. -/
theorem decodeFormComponent_escape_of_plus (hpercent : allowed '%' = false)
    (hplus : allowed '+' = false) (component : String) :
    decodeFormComponent (escape allowed component.toList) = component := by
  have hnot := not_mem_escape hplus plus_not_mem_escapeByte component.toList
  simp [decodeFormComponent, plusToSpace_of_not_mem hnot, decodeComponent_escape hpercent]

theorem escapeChar_of_allowed {c : Char} (h : allowed c = true) : escapeChar allowed c = [c] :=
  if_pos h

theorem escape_of_allowed {component : List Char} (h : ∀ c ∈ component, allowed c = true) :
    escape allowed component = component := by
  induction component with
  | nil => rfl
  | cons c component ih =>
    rw [escape, List.flatMap_cons, ← escape, escapeChar_of_allowed (h c List.mem_cons_self),
      ih fun c hc => h c (List.mem_cons_of_mem _ hc), List.singleton_append]

/-- A character that stands for itself is in no other character's escape. -/
theorem not_mem_escapeChar {separator c : Char} (hdigit : ∀ b, separator ∉ escapeByte b)
    (hc : c ≠ separator) : separator ∉ escapeChar allowed c := by
  unfold escapeChar
  split
  · rw [List.mem_singleton]
    exact hc.symm
  · intro hmem
    obtain ⟨b, -, hb⟩ := List.mem_flatMap.mp hmem
    exact hdigit b hb

theorem escapeChar_ne_nil (c : Char) : escapeChar allowed c ≠ [] := by
  unfold escapeChar
  split
  · simp
  · intro hnil
    have hbytes : String.utf8EncodeChar c ≠ [] := by
      intro hempty
      have hlength := String.length_utf8EncodeChar c
      have hpos := Char.utf8Size_pos c
      rw [hempty, List.length_nil] at hlength
      omega
    obtain ⟨b, bytes, hcons⟩ := List.exists_cons_of_ne_nil hbytes
    rw [hcons] at hnil
    simp [escapeByte] at hnil

theorem escape_eq_nil {component : List Char} : escape allowed component = [] ↔ component = [] := by
  cases component with
  | nil => simp [escape]
  | cons c component => simp [escape, escapeChar_ne_nil]

theorem splitOn_append_of_not_mem {α : Type*} [BEq α] [LawfulBEq α] {a : α} {part : List α}
    (h : a ∉ part) (l : List α) :
    (part ++ l).splitOn a = (l.splitOn a).modifyHead (part ++ ·) := by
  induction part with
  | nil =>
    obtain ⟨first, rest, hsplit⟩ := List.exists_cons_of_ne_nil (List.splitOn_ne_nil a l)
    simp [hsplit]
  | cons x part ih =>
    rw [List.mem_cons, not_or] at h
    have hx : ¬ (x == a) = true := fun heq => h.1 (by simpa using (beq_iff_eq.mp heq).symm)
    rw [List.cons_append, List.splitOn_cons_eq_if_modifyHead, if_neg hx, ih h.2,
      List.modifyHead_modifyHead]
    rfl

/-- Splitting does not see the escapes. -/
theorem splitOn_escape {separator : Char} (hseparator : allowed separator = true)
    (hdigit : ∀ b, separator ∉ escapeByte b) (component : List Char) :
    (escape allowed component).splitOn separator =
      (component.splitOn separator).map (escape allowed) := by
  induction component with
  | nil => rfl
  | cons c component ih =>
    rw [escape, List.flatMap_cons, ← escape, List.splitOn_cons_eq_if_modifyHead]
    by_cases hc : c = separator
    · subst hc
      rw [escapeChar_of_allowed hseparator, List.singleton_append,
        List.splitOn_cons_eq_if_modifyHead, if_pos (by simp), if_pos (by simp), ih]
      rfl
    · rw [splitOn_append_of_not_mem (not_mem_escapeChar hdigit hc), ih, if_neg (by simpa using hc)]
      obtain ⟨first, rest, hsplit⟩ :=
        List.exists_cons_of_ne_nil (List.splitOn_ne_nil separator component)
      simp [hsplit, escape]

theorem splitItem_escape (h : KeepsSeparators allowed) (item : List Char) :
    splitItem (escape allowed item) =
      Prod.map (escape allowed) (escape allowed) (splitItem item) := by
  induction item with
  | nil => rfl
  | cons c item ih =>
    rw [escape, List.flatMap_cons, ← escape]
    by_cases hc : c = '='
    · subst hc
      rw [escapeChar_of_allowed h.equals]
      simp [splitItem, escape]
    · have hnot : '=' ∉ escapeChar allowed c :=
        not_mem_escapeChar (fun b => (not_mem_escapeByte b).2) hc
      have hbefore : ∀ d ∈ escapeChar allowed c, (d != '=') = true := bne_of_not_mem hnot
      obtain ⟨hname, hvalue⟩ := Prod.mk.inj ih
      rw [splitItem, List.takeWhile_append_of_pos hbefore, List.dropWhile_append_of_pos hbefore,
        hname, hvalue]
      simp [splitItem, hc, escape]

/-- **What a query says is settled before it is escaped.** -/
theorem decodeForm_escape (h : KeepsSeparators allowed) (query : List Char) :
    decodeForm (String.ofList (escape allowed query)) =
      (formItems query).map fun item =>
        (String.ofList (plusToSpace item.1), String.ofList (plusToSpace item.2)) := by
  have hempty : (fun part : List Char => decide (part ≠ [])) ∘ escape allowed =
      fun part => decide (part ≠ []) := by
    funext part
    simp [escape_eq_nil]
  rw [decodeForm, String.toList_ofList, formItems, splitOn_escape h.ampersand
    (fun b => (not_mem_escapeByte b).1), List.filter_map, hempty, List.map_map, List.map_map,
    formItems, List.map_map]
  refine List.map_congr_left fun part _ => ?_
  simp only [Function.comp_apply, splitItem_escape h, Prod.map, decodeFormComponent_escape h]

end QueryString
