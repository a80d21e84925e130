import Mathlib.Data.Rat.Defs
import ImSplash.NetworkRequest

/-!
# JSON as text

What `JSONSerialization` writes of a value, and what it reads of it again: a value with whole
numbers and without control characters is read as it was written
(`JSONSerialization.jsonObject_text`).  Blanks, fractions and the longer escapes are left out.
-/

namespace ImSplash
namespace JSON

/-! ### Writing -/

/-- A slash is escaped as well. -/
def writeChar (c : Char) : List Char :=
  if c = '"' ∨ c = '\\' ∨ c = '/' then ['\\', c] else [c]

def writeString (string : List Char) : List Char := '"' :: (string.flatMap writeChar ++ ['"'])

def writeInt (n : Int) : List Char :=
  if n < 0 then '-' :: Nat.toDigits 10 n.natAbs else Nat.toDigits 10 n.natAbs

mutual

/-- A value without blanks; only the numerator of a number is written. -/
def write : JSON → List Char
  | null => ['n', 'u', 'l', 'l']
  | bool true => ['t', 'r', 'u', 'e']
  | bool false => ['f', 'a', 'l', 's', 'e']
  | number value => writeInt value.num
  | string value => writeString value.toList
  | array [] => ['[', ']']
  | array (element :: elements) => '[' :: (write element ++ writeElements elements)
  | object [] => ['\x7b', '\x7d']
  | object ((key, value) :: members) =>
    '\x7b' :: (writeString key.toList ++ ':' :: (write value ++ writeMembers members))

/-- The elements after the first, and the bracket. -/
def writeElements : List JSON → List Char
  | [] => [']']
  | element :: elements => ',' :: (write element ++ writeElements elements)

def writeMembers : List (String × JSON) → List Char
  | [] => ['\x7d']
  | (key, value) :: members =>
    ',' :: (writeString key.toList ++ ':' :: (write value ++ writeMembers members))

end

/-! ### Reading -/

/-- A string after its quotation mark, or after a backslash in it, and what follows it. -/
def readString (escaped : Bool) : List Char → Option (List Char × List Char)
  | [] => none
  | c :: rest =>
    if escaped then (readString false rest).map fun (chars, rest) => (c :: chars, rest)
    else if c = '"' then some ([], rest)
    else if c = '\\' then readString true rest
    else (readString false rest).map fun (chars, rest) => (c :: chars, rest)

def readNat (text : List Char) : Option (Nat × List Char) :=
  if text.takeWhile Char.isDigit = [] then none
  else some (Nat.ofDigitChars 10 (text.takeWhile Char.isDigit) 0, text.dropWhile Char.isDigit)

def readInt (text : List Char) : Option (Int × List Char) :=
  if text.head? = some '-' then (readNat text.tail).map fun (n, rest) => (-n, rest)
  else (readNat text).map fun (n, rest) => (n, rest)

mutual

/-- A value, and what follows it. -/
def readValue : Nat → List Char → Option (JSON × List Char)
  | 0, _ => none
  | _ + 1, [] => none
  | fuel + 1, c :: rest =>
    if c = '"' then
      (readString false rest).map fun (chars, rest) => (string (String.ofList chars), rest)
    else if c = '[' then
      if rest.head? = some ']' then some (array [], rest.tail)
      else do
        let (element, rest) ← readValue fuel rest
        let (elements, rest) ← readElements fuel rest
        return (array (element :: elements), rest)
    else if c = '\x7b' then
      if rest.head? = some '\x7d' then some (object [], rest.tail)
      else do
        let (member, rest) ← readMember fuel rest
        let (members, rest) ← readMembers fuel rest
        return (object (member :: members), rest)
    else if ['n', 'u', 'l', 'l'].isPrefixOf (c :: rest) then some (null, rest.drop 3)
    else if ['t', 'r', 'u', 'e'].isPrefixOf (c :: rest) then some (bool true, rest.drop 3)
    else if ['f', 'a', 'l', 's', 'e'].isPrefixOf (c :: rest) then some (bool false, rest.drop 4)
    else (readInt (c :: rest)).map fun (n, rest) => (number n, rest)

def readElements : Nat → List Char → Option (List JSON × List Char)
  | 0, _ => none
  | _ + 1, [] => none
  | fuel + 1, c :: rest =>
    if c = ']' then some ([], rest)
    else if c = ',' then do
      let (element, rest) ← readValue fuel rest
      let (elements, rest) ← readElements fuel rest
      return (element :: elements, rest)
    else none

/-- A key and its value. -/
def readMember : Nat → List Char → Option ((String × JSON) × List Char)
  | 0, _ => none
  | _ + 1, [] => none
  | fuel + 1, c :: rest =>
    if c = '"' then do
      let (key, rest) ← readString false rest
      if rest.head? = some ':' then do
        let (value, rest) ← readValue fuel rest.tail
        return ((String.ofList key, value), rest)
      else none
    else none

def readMembers : Nat → List Char → Option (List (String × JSON) × List Char)
  | 0, _ => none
  | _ + 1, [] => none
  | fuel + 1, c :: rest =>
    if c = '\x7d' then some ([], rest)
    else if c = ',' then do
      let (member, rest) ← readMember fuel rest
      let (members, rest) ← readMembers fuel rest
      return (member :: members, rest)
    else none

end

mutual

/-- Whole numbers, and no control characters. -/
def isPlain : JSON → Bool
  | null | bool _ => true
  | number value => value.den = 1
  | string value => value.toList.all fun c => 32 ≤ c.toNat
  | array elements => arePlain elements
  | object members => membersArePlain members

def arePlain : List JSON → Bool
  | [] => true
  | element :: elements => isPlain element && arePlain elements

def membersArePlain : List (String × JSON) → Bool
  | [] => true
  | (key, value) :: members =>
    (key.toList.all fun c => 32 ≤ c.toNat) && isPlain value && membersArePlain members

end

theorem arePlain_iff {elements : List JSON} :
    arePlain elements = true ↔ ∀ element ∈ elements, element.isPlain = true := by
  induction elements with
  | nil => simp [arePlain]
  | cons element elements ih => rw [arePlain, Bool.and_eq_true, ih, List.forall_mem_cons]

/-! ### Reading what was written -/

theorem readString_writeString (string rest : List Char) :
    readString false (string.flatMap writeChar ++ '"' :: rest) = some (string, rest) := by
  induction string with
  | nil => simp [readString]
  | cons c string ih =>
    rw [List.flatMap_cons, List.append_assoc, writeChar]
    split
    · -- An escaped character is taken as it is.
      simp [readString, ih]
    · rename_i hc
      rw [not_or, not_or] at hc
      simp [readString, hc.1, hc.2.1, ih]

/-- What follows a number has no digit in front. -/
def NoDigit (rest : List Char) : Prop := ∀ c ∈ rest.head?, c.isDigit = false

theorem readNat_toDigits (n : Nat) {rest : List Char} (h : NoDigit rest) :
    readNat (Nat.toDigits 10 n ++ rest) = some (n, rest) := by
  have hdigits : ∀ c ∈ Nat.toDigits 10 n, c.isDigit = true :=
    fun c hc => Nat.isDigit_of_mem_toDigits (by decide) (by decide) hc
  rw [readNat, URIReference.takeWhile_append_of_stop hdigits h,
    URIReference.dropWhile_append_of_stop hdigits h, if_neg Nat.toDigits_ne_nil,
    Nat.ofDigitChars_toDigits (by decide) (by decide)]

theorem exists_toDigits (n : Nat) : ∃ c digits, Nat.toDigits 10 n = c :: digits ∧
    c.isDigit = true := by
  obtain ⟨c, digits, hcons⟩ := List.exists_cons_of_ne_nil (Nat.toDigits_ne_nil (b := 10) (n := n))
  refine ⟨c, digits, hcons, Nat.isDigit_of_mem_toDigits (b := 10) (n := n) ?_ ?_ ?_⟩
  · decide
  · decide
  · rw [hcons]
    exact List.mem_cons_self

theorem readInt_writeInt (n : Int) {rest : List Char} (h : NoDigit rest) :
    readInt (writeInt n ++ rest) = some (n, rest) := by
  unfold writeInt
  split
  · rename_i hn
    have habs : -(n.natAbs : Int) = n := by omega
    simp only [readInt, List.cons_append, List.head?_cons, List.tail_cons, if_true,
      readNat_toDigits _ h, Option.map_some, habs]
  · rename_i hn
    have habs : (n.natAbs : Int) = n := by omega
    obtain ⟨c, digits, hcons, hdigit⟩ := exists_toDigits n.natAbs
    have hminus : (Nat.toDigits 10 n.natAbs ++ rest).head? ≠ some '-' := by
      rw [hcons]
      rintro ⟨⟩
      exact absurd hdigit (by decide)
    rw [readInt, if_neg hminus, readNat_toDigits _ h, Option.map_some]
    dsimp only
    rw [habs]

theorem exists_writeInt (n : Int) : ∃ c rest, writeInt n = c :: rest ∧
    (c = '-' ∨ c.isDigit = true) := by
  unfold writeInt
  split
  · exact ⟨_, _, rfl, Or.inl rfl⟩
  · obtain ⟨c, digits, hcons, hdigit⟩ := exists_toDigits n.natAbs
    exact ⟨c, digits, hcons, Or.inr hdigit⟩

/-- No value begins with the end of an array. -/
theorem exists_write (json : JSON) : ∃ c rest, write json = c :: rest ∧ c ≠ ']' := by
  cases json with
  | null => exact ⟨_, _, rfl, by decide⟩
  | bool value => cases value <;> exact ⟨_, _, rfl, by decide⟩
  | number value =>
    obtain ⟨c, rest, hcons, hc⟩ := exists_writeInt value.num
    refine ⟨c, rest, by rw [write, hcons], ?_⟩
    rintro rfl
    exact absurd hc (by decide)
  | string value => exact ⟨_, _, by rw [write, writeString], by decide⟩
  | array elements => cases elements <;> exact ⟨_, _, by rw [write], by decide⟩
  | object members => rcases members with _ | ⟨⟨key, value⟩, members⟩ <;>
      exact ⟨_, _, by rw [write], by decide⟩

theorem readValue_number (fuel : Nat) (n : Int) {rest : List Char} (h : NoDigit rest) :
    readValue (fuel + 1) (writeInt n ++ rest) = some (number n, rest) := by
  have hread := readInt_writeInt n h
  obtain ⟨c, digits, hcons, hc⟩ := exists_writeInt n
  have hne : ∀ d : Char, d ≠ '-' → d.isDigit = false → c ≠ d := by
    rintro d hminus hdigit rfl
    rcases hc with rfl | hc
    · exact hminus rfl
    · exact absurd (hdigit.symm.trans hc) (by decide)
  have hinit : ∀ (d : Char) (word : List Char), d ≠ '-' → d.isDigit = false →
      ¬ (d :: word).isPrefixOf (c :: (digits ++ rest)) = true := by
    intro d word hminus hdigit h
    rw [List.isPrefixOf_cons_cons, Bool.and_eq_true, beq_iff_eq] at h
    exact hne d hminus hdigit h.1.symm
  rw [hcons, List.cons_append] at hread ⊢
  rw [readValue, if_neg (hne _ (by decide) (by decide)), if_neg (hne _ (by decide) (by decide)),
    if_neg (hne _ (by decide) (by decide)), if_neg (hinit _ _ (by decide) (by decide)),
    if_neg (hinit _ _ (by decide) (by decide)), if_neg (hinit _ _ (by decide) (by decide)),
    hread]
  rfl

theorem noDigit_writeElements (elements : List JSON) (rest : List Char) :
    NoDigit (writeElements elements ++ rest) := by
  cases elements with
  | nil =>
    rintro _ ⟨⟩
    decide
  | cons element elements =>
    rw [writeElements]
    rintro _ ⟨⟩
    decide

theorem noDigit_writeMembers (members : List (String × JSON)) (rest : List Char) :
    NoDigit (writeMembers members ++ rest) := by
  cases members with
  | nil =>
    rintro _ ⟨⟩
    decide
  | cons member members =>
    rw [writeMembers]
    rintro _ ⟨⟩
    decide

mutual

/-- **A value is read as it was written**, with fuel for its text. -/
theorem readValue_write : ∀ (json : JSON) (fuel : Nat) (rest : List Char), json.isPlain = true →
    (write json).length ≤ fuel → NoDigit rest → readValue fuel (write json ++ rest) =
      some (json, rest)
  | json, 0, _, _, hfuel, _ => by
    obtain ⟨c, rest, hcons, -⟩ := exists_write json
    rw [hcons] at hfuel
    cases hfuel
  | null, fuel + 1, rest, _, _, _ => by
    simp [write, readValue]
  | bool true, fuel + 1, rest, _, _, _ => by
    simp [write, readValue]
  | bool false, fuel + 1, rest, _, _, _ => by
    simp [write, readValue]
  | number value, fuel + 1, rest, hplain, _, hrest => by
    have hwhole : ((value.num : Int) : Rat) = value := Rat.coe_int_num_of_den_eq_one (by
      simpa [isPlain] using hplain)
    rw [write, readValue_number fuel value.num hrest, hwhole]
  | string value, fuel + 1, rest, _, _, _ => by
    simp [write, writeString, readValue, readString_writeString]
  | array [], fuel + 1, rest, _, _, _ => by
    simp [write, readValue]
  | array (element :: elements), fuel + 1, rest, hplain, hfuel, hrest => by
    obtain ⟨hfirst, hothers⟩ : element.isPlain = true ∧ arePlain elements = true := by
      simpa [isPlain, arePlain] using hplain
    have hlength : (write element).length + (writeElements elements).length ≤ fuel := by
      simpa [write] using hfuel
    obtain ⟨c, text, hcons, hc⟩ := exists_write element
    have helement := readValue_write element fuel (writeElements elements ++ rest) hfirst
      (by omega) (noDigit_writeElements elements rest)
    have helements := readElements_write elements fuel rest hothers (by omega)
    have hhead : (write element ++ (writeElements elements ++ rest)).head? ≠ some ']' := by
      rw [hcons]
      rintro ⟨⟩
      exact hc rfl
    rw [write, List.cons_append, List.append_assoc, readValue, if_neg (by decide), if_pos rfl,
      if_neg hhead, helement]
    simp [helements]
  | object [], fuel + 1, rest, _, _, _ => by
    simp [write, readValue]
  | object ((key, value) :: members), fuel + 1, rest, hplain, hfuel, hrest => by
    obtain ⟨⟨-, hvalue⟩, hothers⟩ : ((key.toList.all fun c => 32 ≤ c.toNat) = true ∧
        value.isPlain = true) ∧ membersArePlain members = true := by
      simpa [isPlain, membersArePlain] using hplain
    have hlength : (writeString key.toList).length + (write value).length +
        (writeMembers members).length < fuel := by
      simp only [write, List.length_cons, List.length_append] at hfuel
      omega
    have hmember := readMember_write key value fuel (writeMembers members ++ rest) hvalue
      (by omega) (noDigit_writeMembers members rest)
    have hmembers := readMembers_write members fuel rest hothers (by omega)
    have hhead : (writeString key.toList ++ ':' :: (write value ++
        (writeMembers members ++ rest))).head? ≠ some '\x7d' := by
      rw [writeString]
      rintro ⟨⟩
    rw [write, List.cons_append, List.append_assoc, List.cons_append, List.append_assoc,
      readValue, if_neg (by decide), if_neg (by decide), if_pos rfl, if_neg hhead, hmember]
    simp [hmembers]

theorem readElements_write : ∀ (elements : List JSON) (fuel : Nat) (rest : List Char),
    arePlain elements = true → (writeElements elements).length ≤ fuel →
      readElements fuel (writeElements elements ++ rest) = some (elements, rest)
  | [], 0, _, _, hfuel => by cases hfuel
  | [], fuel + 1, rest, _, _ => by simp [writeElements, readElements]
  | element :: elements, 0, _, _, hfuel => by
    rw [writeElements] at hfuel
    cases hfuel
  | element :: elements, fuel + 1, rest, hplain, hfuel => by
    obtain ⟨hfirst, hothers⟩ : element.isPlain = true ∧ arePlain elements = true := by
      simpa [arePlain] using hplain
    have hlength : (write element).length + (writeElements elements).length ≤ fuel := by
      simpa [writeElements] using hfuel
    have helement := readValue_write element fuel (writeElements elements ++ rest) hfirst
      (by omega) (noDigit_writeElements elements rest)
    have helements := readElements_write elements fuel rest hothers (by omega)
    rw [writeElements, List.cons_append, List.append_assoc, readElements, if_neg (by decide),
      if_pos rfl, helement]
    simp [helements]

theorem readMember_write : ∀ (key : String) (value : JSON) (fuel : Nat) (rest : List Char),
    value.isPlain = true → (writeString key.toList).length + (write value).length ≤ fuel →
      NoDigit rest → readMember fuel (writeString key.toList ++ ':' :: (write value ++ rest)) =
        some ((key, value), rest)
  | key, value, 0, _, _, hfuel, _ => by
    rw [writeString, List.length_cons] at hfuel
    omega
  | key, value, fuel + 1, rest, hplain, hfuel, hrest => by
    have hlength : (write value).length ≤ fuel := by
      rw [writeString, List.length_cons] at hfuel
      omega
    have hvalue := readValue_write value fuel rest hplain hlength hrest
    rw [writeString, List.cons_append, readMember, if_pos rfl, List.append_assoc,
      List.singleton_append, readString_writeString]
    simp [hvalue]

theorem readMembers_write : ∀ (members : List (String × JSON)) (fuel : Nat) (rest : List Char),
    membersArePlain members = true → (writeMembers members).length ≤ fuel →
      readMembers fuel (writeMembers members ++ rest) = some (members, rest)
  | [], 0, _, _, hfuel => by cases hfuel
  | [], fuel + 1, rest, _, _ => by simp [writeMembers, readMembers]
  | (key, value) :: members, 0, _, _, hfuel => by
    rw [writeMembers] at hfuel
    cases hfuel
  | (key, value) :: members, fuel + 1, rest, hplain, hfuel => by
    obtain ⟨⟨-, hvalue⟩, hothers⟩ : ((key.toList.all fun c => 32 ≤ c.toNat) = true ∧
        value.isPlain = true) ∧ membersArePlain members = true := by
      simpa [isPlain, membersArePlain] using hplain
    have hlength : (writeString key.toList).length + (write value).length +
        (writeMembers members).length < fuel := by
      simp only [writeMembers, List.length_cons, List.length_append] at hfuel
      omega
    have hmember := readMember_write key value fuel (writeMembers members ++ rest) hvalue
      (by omega) (noDigit_writeMembers members rest)
    have hmembers := readMembers_write members fuel rest hothers (by omega)
    rw [writeMembers, List.cons_append, List.append_assoc, List.cons_append, List.append_assoc,
      readMembers, if_neg (by decide), if_pos rfl, hmember]
    simp [hmembers]

end

/-- The bytes of a value. -/
def text (json : JSON) : Data := (write json).flatMap String.utf8EncodeChar

end JSON

namespace JSONSerialization

/-- `jsonObject(with:)`. -/
def jsonObject (body : Data) : Option JSON := do
  let chars ← body.toByteArray.utf8Decode?
  let (json, rest) ← JSON.readValue chars.size chars.toList
  if rest = [] then some json else none

/-- `data(withJSONObject:)`, of an array. -/
def data (results : List JSON) : Except NSError Data :=
  if (JSON.array results).isPlain then .ok (JSON.array results).text
  else .error ⟨"NSCocoaErrorDomain", 3840⟩

/-- **What was written is read again.** -/
theorem jsonObject_text {json : JSON} (hplain : json.isPlain = true) :
    jsonObject json.text = some json := by
  have hchars : (json.write.flatMap String.utf8EncodeChar).toByteArray.utf8Decode? =
      some json.write.toArray := List.utf8Decode?_utf8Encode
  have hread := JSON.readValue_write json json.write.length [] hplain le_rfl
    (fun c hc => by cases hc)
  rw [List.append_nil] at hread
  rw [jsonObject, JSON.text, hchars]
  simp [hread]

theorem jsonObject_of_data {results : List JSON} {body : Data} (h : data results = .ok body) :
    jsonObject body = some (.array results) := by
  unfold data at h
  split at h
  · rename_i hplain
    obtain rfl := Except.ok.inj h
    exact jsonObject_text hplain
  · cases h

end JSONSerialization
end ImSplash
