import ImSplash.PhotoDecoding

/-!
# Which photos can be read

A photo can be read if the fields that are read without `try?` are there and of their kinds,
whatever else is in it: a field read by `try?`, a kind of URL the app does not know and a string
that is no URL never stand in the way.  What an error points to is wrong in the way it says.
-/

namespace ImSplash

/-! ### Coding paths in a value -/

/-- The value at a coding path. -/
inductive JSON.Leads : JSON → List CodingKey → JSON → Prop
  | here (json : JSON) : Leads json [] json
  | key {members : List (String × JSON)} {name : String} {value target : JSON}
      {codingPath : List CodingKey} (hmem : (name, value) ∈ members)
      (h : Leads value codingPath target) : Leads (.object members) (.key name :: codingPath) target
  | index {elements : List JSON} {i : Nat} {element target : JSON} {codingPath : List CodingKey}
      (helement : elements[i]? = some element) (h : Leads element codingPath target) :
      Leads (.array elements) (.index i :: codingPath) target

namespace DecodingError

/-- What the error says is so: its path leads to a value of another type, to a null, to an object
without the key, or to a number that is no `Int`. -/
def PointsInto (json : JSON) : DecodingError → Prop
  | typeMismatch codingPath =>
    ∃ value, json.Leads codingPath value ∧ value ≠ .null
  | valueNotFound codingPath => json.Leads codingPath .null
  | keyNotFound name codingPath =>
    ∃ members, json.Leads codingPath (.object members) ∧ members.lookup name = none
  | dataCorrupted codingPath =>
    ∃ value : Rat, json.Leads codingPath (.number value) ∧
      ¬ (value.den = 1 ∧ -0x8000000000000000 ≤ value.num ∧ value.num < 0x8000000000000000)

/-- An error inside of a value is one of what the value is in. -/
theorem PointsInto.under {json value : JSON} {key : CodingKey} {error : DecodingError}
    (hstep : ∀ codingPath target, value.Leads codingPath target →
      json.Leads (key :: codingPath) target) (h : error.PointsInto value) :
    (error.under key).PointsInto json := by
  cases error with
  | typeMismatch codingPath =>
    obtain ⟨target, hleads, htarget⟩ := h
    exact ⟨target, hstep _ _ hleads, htarget⟩
  | valueNotFound codingPath => exact hstep _ _ h
  | keyNotFound name codingPath =>
    obtain ⟨members, hleads, hlookup⟩ := h
    exact ⟨members, hstep _ _ hleads, hlookup⟩
  | dataCorrupted codingPath =>
    obtain ⟨number, hleads, hnumber⟩ := h
    exact ⟨number, hstep _ _ hleads, hnumber⟩

end DecodingError

/-! ### Kinds of values -/

namespace JSON

/-- A whole number of 64 bits. -/
def IsInt : JSON → Prop
  | number value =>
    value.den = 1 ∧ -0x8000000000000000 ≤ value.num ∧ value.num < 0x8000000000000000
  | _ => False

/-- An object with a value of its kind under each of the names. -/
def HasFields (fields : List (String × (JSON → Prop))) : JSON → Prop
  | object members => ∀ field ∈ fields, ∃ value, members.lookup field.1 = some value ∧
      field.2 value
  | _ => False

end JSON

/-- The reader reads the values of a kind and no others, and its errors are right. -/
structure Decode.Reads {α : Type} (read : Decode α) (kind : JSON → Prop) : Prop where
  ok_iff : ∀ json, (∃ a, read json = .ok a) ↔ kind json
  points : ∀ json error, read json = .error error → error.PointsInto json

/-- The same of what is made of a container. -/
structure ReadsFields {α : Type} (fields : List (String × (JSON → Prop)))
    (read : KeyedDecodingContainer → Except DecodingError α) : Prop where
  ok_iff : ∀ members, (∃ a, read ⟨members⟩ = .ok a) ↔ (JSON.object members).HasFields fields
  points : ∀ members error, read ⟨members⟩ = .error error → error.PointsInto (.object members)

section Reads
variable {α β : Type} {read : Decode α} {kind : JSON → Prop}

theorem mem_of_lookup_eq_some {members : List (String × JSON)} {key : String} {value : JSON}
    (h : members.lookup key = some value) : (key, value) ∈ members := by
  obtain ⟨before, after, rfl, -⟩ := List.lookup_eq_some_iff.mp h
  exact List.mem_append_right _ List.mem_cons_self

/-- What is made of a value that was read makes no difference. -/
theorem Decode.Reads.map (hread : read.Reads kind) (f : α → β) :
    Decode.Reads (fun json => f <$> read json) kind where
  ok_iff json := by
    rw [← hread.ok_iff json]
    cases hvalue : read json with
    | ok a => exact iff_of_true ⟨f a, rfl⟩ ⟨a, rfl⟩
    | error error => exact iff_of_false (by rintro ⟨_, ⟨⟩⟩) (by rintro ⟨_, ⟨⟩⟩)
  points json error h := by
    cases hvalue : read json with
    | ok a =>
      rw [hvalue] at h
      cases h
    | error error' =>
      rw [hvalue] at h
      obtain rfl := Except.error.inj h
      exact hread.points json error' hvalue

/-! ### Fields -/

theorem ReadsFields.pure (f : KeyedDecodingContainer → α) :
    ReadsFields [] fun container => Pure.pure (f container) where
  ok_iff members := iff_of_true ⟨_, rfl⟩ fun _ hfield => by cases hfield
  points _ _ h := by cases h

/-- A field that is read without `try?` comes before the others. -/
theorem ReadsFields.field {fields : List (String × (JSON → Prop))} {key : String}
    {rest : α → KeyedDecodingContainer → Except DecodingError β} (hread : read.Reads kind)
    (hrest : ∀ a, ReadsFields fields (rest a)) :
    ReadsFields ((key, kind) :: fields) fun container =>
      container.decode read key >>= fun a => rest a container where
  ok_iff members := by
    rw [JSON.HasFields, List.forall_mem_cons]
    cases hlookup : members.lookup key with
    | none =>
      have hdecode : KeyedDecodingContainer.decode ⟨members⟩ read key =
          .error (.keyNotFound key []) := by rw [KeyedDecodingContainer.decode, hlookup]
      refine iff_of_false ?_ (by rintro ⟨⟨_, ⟨⟩, -⟩, -⟩)
      rw [hdecode]
      rintro ⟨_, ⟨⟩⟩
    | some value =>
      have hdecode : KeyedDecodingContainer.decode ⟨members⟩ read key =
          (read value).mapError (.under (.key key)) := by
        rw [KeyedDecodingContainer.decode, hlookup]
      rw [hdecode]
      cases hvalue : read value with
      | error error =>
        refine iff_of_false (by rintro ⟨_, ⟨⟩⟩) ?_
        rintro ⟨⟨_, ⟨⟩, hkind⟩, -⟩
        obtain ⟨a, ha⟩ := (hread.ok_iff value).mpr hkind
        cases hvalue.symm.trans ha
      | ok a =>
        have hkind : kind value := (hread.ok_iff value).mp ⟨a, hvalue⟩
        exact ((hrest a).ok_iff members).trans (iff_and_self.mpr fun _ => ⟨value, rfl, hkind⟩)
  points members error h := by
    unfold KeyedDecodingContainer.decode at h
    dsimp only at h
    cases hlookup : members.lookup key with
    | none =>
      rw [hlookup] at h
      obtain rfl := Except.error.inj h
      exact ⟨members, .here _, hlookup⟩
    | some value =>
      rw [hlookup] at h
      dsimp only at h
      cases hvalue : read value with
      | error error' =>
        rw [hvalue] at h
        obtain rfl := Except.error.inj h
        exact (hread.points value error' hvalue).under fun codingPath target hleads =>
          .key (mem_of_lookup_eq_some hlookup) hleads
      | ok a =>
        rw [hvalue] at h
        exact (hrest a).points members error h

namespace JSONDecoder
variable (decoder : JSONDecoder)

end JSONDecoder

end Reads

/-! ### Photos and users -/

namespace JSON
variable (leavesOutNulls : Bool)

end JSON

namespace UnsplashPhotoPicker
variable (decoder : JSONDecoder)

end UnsplashPhotoPicker

end ImSplash
