import ImSplash.QueryString
import Mathlib.Data.Nat.Digits.Defs

/-!
# Does a color survive its hex string?

`UIColor(hexString:)` reads three, six or eight characters, the opacity first when it is
there; `hexString` writes eight, the opacity last.  A color that is written and read has its
channels in each other's places, and is itself again after four times.

A channel is what `strtoul` makes of two characters, over 255.  That is no byte if the first
of them is a minus sign, and a channel that large makes `hexString` trap.
-/

namespace ImSplash

/-- A color by its channels, each in 255ths. -/
@[ext]
structure RGBA where
  red : Nat
  green : Nat
  blue : Nat
  alpha : Nat
deriving DecidableEq, Repr

/-- Every channel is a byte. -/
def RGBA.IsBytes (color : RGBA) : Prop :=
  color.red < 256 ∧ color.green < 256 ∧ color.blue < 256 ∧ color.alpha < 256

theorem RGBA.isBytes_mk {red green blue alpha : Nat} : (RGBA.mk red green blue alpha).IsBytes ↔
    red < 256 ∧ green < 256 ∧ blue < 256 ∧ alpha < 256 :=
  Iff.rfl

/-- How the platform breaks a string into characters; a line break aside, the characters of
an ASCII string are its scalars. -/
structure CharacterView where
  characters : String → List String
  ascii : ∀ s : String, (∀ c ∈ s.toList, c.toNat < 128 ∧ c ≠ '\r') →
    characters s = s.toList.map String.singleton

/-- Each scalar a character. -/
def CharacterView.scalars : CharacterView :=
  ⟨fun s => s.toList.map String.singleton, fun _ _ => rfl⟩

/-! ### `strtoul` -/

/-- `isspace` in the C locale. -/
def isspace (c : Char) : Bool :=
  c = ' ' || c = '\t' || c = '\n' || c.toNat = 11 || c.toNat = 12 || c = '\r'

/-- The digits that a string starts with, as a number. -/
def hexNumber (chars : List Char) : Nat :=
  (chars.map QueryString.hexValue).takeWhile Option.isSome |>.foldl
    (fun value digit => 16 * value + digit.getD 0) 0

/-- `strtoul(_, nil, 16)` where a `long` has 64 bits. -/
def strtoul (chars : List Char) : Nat :=
  let chars := chars.dropWhile isspace
  let isNegative := chars.head? = some '-'
  let chars := if isNegative || chars.head? = some '+' then chars.drop 1 else chars
  -- `0x` counts as a prefix only if a digit follows.
  let isPrefixed := chars.head? = some '0' && (chars[1]? = some 'x' || chars[1]? = some 'X') &&
    ((chars[2]?).bind QueryString.hexValue).isSome
  let value := hexNumber (if isPrefixed then chars.drop 2 else chars)
  if 2 ^ 64 ≤ value then 2 ^ 64 - 1
  else if isNegative then (2 ^ 64 - value) % 2 ^ 64
  else value

/-! ### `UIColor` -/

namespace UIColor

/-- `CGFloat(strtoul(String(chars[i...i + 1]), nil, 16)) / 255`, in 255ths. -/
def channel (chars : List String) (i : Nat) : Nat :=
  strtoul ((chars.getD i "").toList ++ (chars.getD (i + 1) "").toList)

/-- `hexString.hasPrefix("#") ? String(hexString.dropFirst()) : hexString`, as characters. -/
def dropHash : List String → List String
  | [] => []
  | c :: rest => if c = "#" then rest else c :: rest

/-- The cases of the switch, which fall through. -/
def expand (chars : List String) : List String :=
  let chars := if chars.length = 3 then chars.flatMap fun c => [c, c] else chars
  if chars.length = 6 then "F" :: "F" :: chars else chars

/-- The last case, and the default. -/
def ofChars (chars : List String) : RGBA :=
  if chars.length = 8 then
    { alpha := channel chars 0, red := channel chars 2, green := channel chars 4,
      blue := channel chars 6 }
  else { red := 0, green := 0, blue := 0, alpha := 0 }

/-- `UIColor(hexString:)`. -/
def ofHexString (view : CharacterView) (hexString : String) : RGBA :=
  ofChars (expand (dropHash (view.characters hexString)))

/-- `%02X`, of an argument of which it reads 32 bits. -/
def format02X (n : Nat) : List Char :=
  ((Nat.digits 16 (n % 2 ^ 32)).reverse.map QueryString.hexDigit).leftpad 2 '0'

/-- `hexString`; the conversion of a channel to `Int` traps when it does not fit. -/
def hexString (color : RGBA) : Option String :=
  let channels := [color.red, color.green, color.blue, color.alpha]
  if channels.all fun channel => channel < 2 ^ 63 then
    some (String.ofList (channels.flatMap format02X))
  else none

end UIColor

/-! ### Two digits -/

/-- The characters that `strtoul` treats in a way of their own are no digits. -/
theorem le_toNat_of_hexValue {c : Char} {n : Nat} (h : QueryString.hexValue c = some n) :
    48 ≤ c.toNat ∧ c ≠ 'x' ∧ c ≠ 'X' := by
  refine ⟨?_, ?_, ?_⟩
  · unfold QueryString.hexValue at h
    have hle : ∀ d : Char, d ≤ c → d.toNat ≤ c.toNat := fun _ h => h
    split at h
    · exact hle '0' (by tauto)
    · split at h
      · exact Nat.le_trans (by decide) (hle 'A' (by tauto))
      · split at h
        · exact Nat.le_trans (by decide) (hle 'a' (by tauto))
        · cases h
  · rintro rfl
    cases h
  · rintro rfl
    cases h

theorem isspace_of_hexValue {c : Char} {n : Nat} (h : QueryString.hexValue c = some n) :
    isspace c = false ∧ c ≠ '-' ∧ c ≠ '+' := by
  have hle := (le_toNat_of_hexValue h).1
  have hne : ∀ d : Char, d.toNat < 48 → c ≠ d := by
    rintro d hd rfl
    omega
  refine ⟨?_, hne '-' (by decide), hne '+' (by decide)⟩
  simp [isspace, hne ' ' (by decide), hne '\t' (by decide), hne '\n' (by decide),
    hne '\r' (by decide)]
  omega

theorem hexNumber_digits {high low : Char} {h l : Nat} (hhigh : QueryString.hexValue high = some h)
    (hlow : QueryString.hexValue low = some l) : hexNumber [high, low] = 16 * h + l := by
  simp [hexNumber, hhigh, hlow]

theorem hexValue_lt {c : Char} {n : Nat} (h : QueryString.hexValue c = some n) : n < 16 := by
  have hle : ∀ d e : Char, d ≤ c ∧ c ≤ e → d.toNat ≤ c.toNat ∧ c.toNat ≤ e.toNat := fun _ _ h => h
  unfold QueryString.hexValue at h
  split at h
  · obtain ⟨hlow, hhigh⟩ := hle '0' '9' ‹_›
    obtain rfl := Option.some.inj h
    have h0 : '0'.toNat = 48 := rfl
    have h9 : '9'.toNat = 57 := rfl
    omega
  · split at h
    · obtain ⟨hlow, hhigh⟩ := hle 'A' 'F' ‹_›
      obtain rfl := Option.some.inj h
      have hA : 'A'.toNat = 65 := rfl
      have hF : 'F'.toNat = 70 := rfl
      omega
    · split at h
      · obtain ⟨hlow, hhigh⟩ := hle 'a' 'f' ‹_›
        obtain rfl := Option.some.inj h
        have ha : 'a'.toNat = 97 := rfl
        have hf : 'f'.toNat = 102 := rfl
        omega
      · cases h

theorem toNat_lt_of_hexValue {c : Char} {n : Nat} (h : QueryString.hexValue c = some n) :
    c.toNat < 128 ∧ c ≠ '\r' := by
  have hle : ∀ d : Char, c ≤ d → c.toNat ≤ d.toNat := fun _ h => h
  refine ⟨?_, ?_⟩
  · unfold QueryString.hexValue at h
    split at h
    · exact Nat.lt_of_le_of_lt (hle '9' (by tauto)) (by decide)
    · split at h
      · exact Nat.lt_of_le_of_lt (hle 'F' (by tauto)) (by decide)
      · split at h
        · exact Nat.lt_of_le_of_lt (hle 'f' (by tauto)) (by decide)
        · cases h
  · rintro rfl
    cases h

/-- **Two digits are a byte.** -/
theorem strtoul_digits {high low : Char} {h l : Nat} (hhigh : QueryString.hexValue high = some h)
    (hlow : QueryString.hexValue low = some l) : strtoul [high, low] = 16 * h + l := by
  obtain ⟨hspace, hminus, hplus⟩ := isspace_of_hexValue hhigh
  obtain ⟨-, hx, hX⟩ := le_toNat_of_hexValue hlow
  have hh := hexValue_lt hhigh
  have hl := hexValue_lt hlow
  have hsmall : ¬ 2 ^ 64 ≤ 16 * h + l := by omega
  simp [strtoul, hspace, hminus, hplus, hx, hX, hexNumber_digits hhigh hlow]
  omega

namespace UIColor

theorem format02X_byte {n : Nat} (h : n < 256) :
    format02X n = [QueryString.hexDigit (n / 16), QueryString.hexDigit (n % 16)] := by
  have hmod : n % 2 ^ 32 = n := Nat.mod_eq_of_lt (by omega)
  rw [format02X, hmod]
  rcases Nat.lt_or_ge n 16 with hlow | hhigh
  · rcases Nat.eq_zero_or_pos n with rfl | hpos
    · rfl
    · rw [Nat.digits_of_lt 16 n (by omega) hlow, Nat.div_eq_of_lt hlow, Nat.mod_eq_of_lt hlow]
      rfl
  · have hdigits : Nat.digits 16 n = [n % 16, n / 16] := by
      rw [Nat.digits_def' (by decide) (by omega),
        Nat.digits_of_lt 16 (n / 16) (by omega) (by omega)]
    rw [hdigits]
    rfl

/-! ### Strings of digits -/

/-- A character that is one hexadecimal digit. -/
def IsDigit (c : String) : Prop := ∃ d n, c = String.singleton d ∧ QueryString.hexValue d = some n

theorem channel_of_digits {chars : List String} {i : Nat} {high low : Char} {h l : Nat}
    (hi : chars[i]? = some (String.singleton high))
    (hi' : chars[i + 1]? = some (String.singleton low))
    (hhigh : QueryString.hexValue high = some h) (hlow : QueryString.hexValue low = some l) :
    channel chars i = 16 * h + l := by
  rw [channel, List.getD_eq_getElem?_getD, List.getD_eq_getElem?_getD, hi, hi']
  simpa using strtoul_digits hhigh hlow

theorem channel_lt {chars : List String} (hchars : ∀ c ∈ chars, IsDigit c) {i : Nat}
    (hi : i + 1 < chars.length) : channel chars i < 256 := by
  have hget : ∀ j, j < chars.length → ∃ d n, chars[j]? = some (String.singleton d) ∧
      QueryString.hexValue d = some n := by
    intro j hj
    obtain ⟨d, n, hd, hn⟩ := hchars chars[j] (List.getElem_mem hj)
    exact ⟨d, n, by rw [List.getElem?_eq_getElem hj, hd], hn⟩
  obtain ⟨high, h, hhigh, hh⟩ := hget i (by omega)
  obtain ⟨low, l, hlow, hl⟩ := hget (i + 1) hi
  rw [channel_of_digits hhigh hlow hh hl]
  have := hexValue_lt hh
  have := hexValue_lt hl
  omega

theorem characters_digits (view : CharacterView) {chars : List Char}
    (h : ∀ c ∈ chars, ∃ n, QueryString.hexValue c = some n) :
    view.characters (String.ofList chars) = chars.map String.singleton := by
  have hascii : ∀ c ∈ (String.ofList chars).toList, c.toNat < 128 ∧ c ≠ '\r' := by
    rw [String.toList_ofList]
    intro c hc
    obtain ⟨n, hn⟩ := h c hc
    exact toNat_lt_of_hexValue hn
  rw [view.ascii _ hascii, String.toList_ofList]

theorem hexValue_of_mem_format02X {n : Nat} {c : Char} (h : c ∈ format02X n) :
    ∃ digit, QueryString.hexValue c = some digit := by
  rw [format02X, List.leftpad, List.mem_append, List.mem_replicate, List.mem_map] at h
  rcases h with ⟨-, rfl⟩ | ⟨digit, hdigit, rfl⟩
  · exact ⟨0, rfl⟩
  · exact ⟨digit, QueryString.hexValue_hexDigit
      (Nat.digits_lt_base (by decide) (List.mem_reverse.mp hdigit))⟩

theorem isDigit_map_singleton {chars : List Char}
    (h : ∀ c ∈ chars, ∃ n, QueryString.hexValue c = some n) :
    ∀ c ∈ chars.map String.singleton, IsDigit c := by
  intro c hc
  obtain ⟨d, hd, rfl⟩ := List.mem_map.mp hc
  obtain ⟨n, hn⟩ := h d hd
  exact ⟨d, n, rfl, hn⟩

theorem dropHash_digits {chars : List String} (h : ∀ c ∈ chars, IsDigit c) :
    dropHash chars = chars := by
  cases chars with
  | nil => rfl
  | cons c rest =>
    obtain ⟨d, n, rfl, hn⟩ := h c List.mem_cons_self
    refine if_neg fun heq => ?_
    have hd : d = '#' := by simpa using congrArg String.toList heq
    rw [hd] at hn
    cases hn

theorem isDigit_expand {chars : List String} (h : ∀ c ∈ chars, IsDigit c) :
    ∀ c ∈ expand chars, IsDigit c := by
  have hdouble : ∀ c ∈ (if chars.length = 3 then chars.flatMap fun c => [c, c] else chars),
      IsDigit c := by
    intro c hc
    split at hc
    · obtain ⟨d, hd, hc⟩ := List.mem_flatMap.mp hc
      have hcd : c = d := by simpa using hc
      exact hcd ▸ h d hd
    · exact h c hc
  have hF : IsDigit "F" := ⟨'F', 15, rfl, rfl⟩
  intro c hc
  simp only [expand] at hc
  by_cases hlength : (if chars.length = 3 then chars.flatMap fun c => [c, c] else chars).length = 6
  · rw [if_pos hlength] at hc
    rcases List.mem_cons.mp hc with rfl | hc
    · exact hF
    · rcases List.mem_cons.mp hc with rfl | hc
      · exact hF
      · exact hdouble c hc
  · rw [if_neg hlength] at hc
    exact hdouble c hc

theorem isBytes_ofChars {chars : List String} (h : ∀ c ∈ chars, IsDigit c) :
    (ofChars chars).IsBytes := by
  by_cases hlength : chars.length = 8
  · have hread : ∀ i, i + 1 < 8 → channel chars i < 256 :=
      fun i hi => channel_lt h (by omega)
    rw [ofChars, if_pos hlength, RGBA.isBytes_mk]
    exact ⟨hread 2 (by decide), hread 4 (by decide), hread 6 (by decide), hread 0 (by decide)⟩
  · rw [ofChars, if_neg hlength, RGBA.isBytes_mk]
    exact ⟨by decide, by decide, by decide, by decide⟩

theorem ofHexString_digits (view : CharacterView) {chars : List Char}
    (h : ∀ c ∈ chars, ∃ n, QueryString.hexValue c = some n) :
    ofHexString view (String.ofList chars) = ofChars (expand (chars.map String.singleton)) := by
  rw [ofHexString, characters_digits view h, dropHash_digits (isDigit_map_singleton h)]

theorem expand_of_eight {chars : List String} (h : chars.length = 8) : expand chars = chars := by
  simp [expand, h]

theorem ofChars_of_eight (c₀ c₁ c₂ c₃ c₄ c₅ c₆ c₇ : Char) :
    ofChars ([c₀, c₁, c₂, c₃, c₄, c₅, c₆, c₇].map String.singleton) =
      ⟨strtoul [c₂, c₃], strtoul [c₄, c₅], strtoul [c₆, c₇], strtoul [c₀, c₁]⟩ := by
  simp [ofChars, channel]

theorem strtoul_format02X {n : Nat} (h : n < 256) :
    strtoul [QueryString.hexDigit (n / 16), QueryString.hexDigit (n % 16)] = n := by
  rw [strtoul_digits (QueryString.hexValue_hexDigit (by omega))
    (QueryString.hexValue_hexDigit (by omega))]
  omega

/-- Eight digits are read two by two. -/
theorem ofHexString_bytes (view : CharacterView) {alpha red green blue : Nat}
    (halpha : alpha < 256) (hred : red < 256) (hgreen : green < 256) (hblue : blue < 256) :
    ofHexString view (String.ofList ([alpha, red, green, blue].flatMap format02X)) =
      ⟨red, green, blue, alpha⟩ := by
  have hdigits : ∀ c ∈ [alpha, red, green, blue].flatMap format02X,
      ∃ n, QueryString.hexValue c = some n := by
    intro c hc
    obtain ⟨n, -, hc⟩ := List.mem_flatMap.mp hc
    exact hexValue_of_mem_format02X hc
  rw [ofHexString_digits view hdigits, List.flatMap_cons, List.flatMap_cons, List.flatMap_cons,
    List.flatMap_cons, List.flatMap_nil, format02X_byte halpha, format02X_byte hred,
    format02X_byte hgreen, format02X_byte hblue]
  simp only [List.cons_append, List.nil_append]
  rw [expand_of_eight rfl, ofChars_of_eight, strtoul_format02X halpha, strtoul_format02X hred,
    strtoul_format02X hgreen, strtoul_format02X hblue]

/-- The color of a photo as the server sends it: three bytes behind a `#`, and opaque. -/
theorem ofHexString_hash (view : CharacterView) {red green blue : Nat} (hred : red < 256)
    (hgreen : green < 256) (hblue : blue < 256) :
    ofHexString view (String.ofList ('#' :: [red, green, blue].flatMap format02X)) =
      ⟨red, green, blue, 255⟩ := by
  have hascii : ∀ c ∈ (String.ofList ('#' :: [red, green, blue].flatMap format02X)).toList,
      c.toNat < 128 ∧ c ≠ '\r' := by
    rw [String.toList_ofList, List.forall_mem_cons]
    refine ⟨by decide, fun c hc => ?_⟩
    obtain ⟨n, -, hc⟩ := List.mem_flatMap.mp hc
    obtain ⟨digit, hdigit⟩ := hexValue_of_mem_format02X hc
    exact toNat_lt_of_hexValue hdigit
  have hhash : dropHash (('#' :: [red, green, blue].flatMap format02X).map String.singleton) =
      ([red, green, blue].flatMap format02X).map String.singleton := by
    rw [List.map_cons, dropHash, if_pos (by decide)]
  rw [ofHexString, view.ascii _ hascii, String.toList_ofList, hhash, List.flatMap_cons,
    List.flatMap_cons, List.flatMap_cons, List.flatMap_nil, format02X_byte hred,
    format02X_byte hgreen, format02X_byte hblue]
  simp only [List.cons_append, List.nil_append]
  -- The two characters that are put in front are the digits of 255.
  refine (ofChars_of_eight 'F' 'F' _ _ _ _ _ _).trans ?_
  have hF : strtoul ['F', 'F'] = 255 := strtoul_format02X (n := 255) (by decide)
  rw [strtoul_format02X hred, strtoul_format02X hgreen, strtoul_format02X hblue, hF]

/-! ### Written and read -/

/-- `UIColor(hexString: color.hexString)`. -/
def rewrite (view : CharacterView) (color : RGBA) : Option RGBA :=
  (hexString color).map (ofHexString view)

/-- Each channel in the place of another: the opacity is what was the red. -/
def rotate (color : RGBA) : RGBA where
  red := color.green
  green := color.blue
  blue := color.alpha
  alpha := color.red

theorem rewrite_of_isBytes (view : CharacterView) {color : RGBA} (h : color.IsBytes) :
    rewrite view color = some (rotate color) := by
  obtain ⟨hred, hgreen, hblue, halpha⟩ := h
  have hfits : ([color.red, color.green, color.blue, color.alpha].all
      fun channel => channel < 2 ^ 63) = true := by
    simp only [List.all_cons, List.all_nil, Bool.and_true, Bool.and_eq_true, decide_eq_true_iff]
    omega
  rw [rewrite, hexString, if_pos hfits, Option.map_some,
    ofHexString_bytes view hred hgreen hblue halpha]
  rfl

/-- What is read of what was written has bytes for its channels. -/
theorem isBytes_of_rewrite (view : CharacterView) {color after : RGBA}
    (h : rewrite view color = some after) : after.IsBytes := by
  obtain ⟨written, hwritten, rfl⟩ := Option.map_eq_some_iff.mp h
  simp only [hexString, Option.ite_none_right_eq_some, Option.some.injEq] at hwritten
  obtain ⟨-, rfl⟩ := hwritten
  have hdigits : ∀ c ∈ [color.red, color.green, color.blue, color.alpha].flatMap format02X,
      ∃ n, QueryString.hexValue c = some n := by
    intro c hc
    obtain ⟨n, -, hc⟩ := List.mem_flatMap.mp hc
    exact hexValue_of_mem_format02X hc
  rw [ofHexString_digits view hdigits]
  exact isBytes_ofChars (isDigit_expand (isDigit_map_singleton hdigits))

/-- **Writing and reading a color rotates its channels**, exactly when they are bytes; such a
color is read back as it was only if its channels are all one, or after four times. -/
theorem rewrite_rotates (view : CharacterView) (color : RGBA) :
    (rewrite view color = some (rotate color) ↔ color.IsBytes) ∧
    (rewrite view color = some color ↔ color.IsBytes ∧ color.red = color.green ∧
      color.green = color.blue ∧ color.blue = color.alpha) ∧
    (color.IsBytes → (rewrite view color >>= rewrite view >>= rewrite view >>= rewrite view) =
      some color) := by
  have hrotated : ∀ color : RGBA, color.IsBytes → (rotate color).IsBytes :=
    fun _ h => ⟨h.2.1, h.2.2.1, h.2.2.2, h.1⟩
  refine ⟨⟨fun h => ?_, rewrite_of_isBytes view⟩, ⟨fun h => ?_, ?_⟩, fun h => ?_⟩
  · obtain ⟨hgreen, hblue, halpha, hred⟩ := isBytes_of_rewrite view h
    exact ⟨hred, hgreen, hblue, halpha⟩
  · have hbytes := isBytes_of_rewrite view h
    rw [rewrite_of_isBytes view hbytes, Option.some.injEq, RGBA.ext_iff] at h
    exact ⟨hbytes, h.1.symm, h.2.1.symm, h.2.2.1.symm⟩
  · rintro ⟨hbytes, hred, hgreen, hblue⟩
    rw [rewrite_of_isBytes view hbytes]
    exact congrArg some
      (RGBA.ext hred.symm hgreen.symm hblue.symm (hred.trans (hgreen.trans hblue)))
  · have h2 := hrotated _ h
    have h3 := hrotated _ h2
    rw [rewrite_of_isBytes view h, Option.bind_eq_bind, Option.bind_some,
      rewrite_of_isBytes view h2]
    simp only [Option.bind_some, rewrite_of_isBytes view h3,
      rewrite_of_isBytes view (hrotated _ h3)]
    rfl

example : rewrite .scalars ⟨0x0C, 0x26, 0x59, 0xFF⟩ = some ⟨0x26, 0x59, 0xFF, 0x0C⟩ :=
  rewrite_of_isBytes _ ⟨by decide, by decide, by decide, by decide⟩

end UIColor

end ImSplash
