import Mathlib.Data.String.Basic
import ChatGateway.Decode.Value

/-! # JSON objects and the records read from them

Objects are built field by field (`Json.object` inserts each field in key order, a later field
replacing an earlier one of the same key), and records are read back by looking their fields up
by key. This file says what each side does to a field:

* `Json.lookupField_insertField`: setting a field changes the lookup of that key only.
* `Json.get?_object`: a key of an object built from a list of fields has the value of its last
  field of that key.
* `Json.Ascending`: keys in ascending order, as `insertField` keeps them
  (`Json.ascending_objectFields`), so a built object repeats no key (`Json.nodup_objectFields`);
  with no key repeated, every field is the one its key finds (`Json.lookupField_of_mem`).
* `Decoder.record_ok`: a record reads an object with no repeated key when its specs accept the
  values under their names and every required field is there; `Decoder.items_forall₂` reads a
  list item by item.
-/

namespace ChatGateway

namespace Json

/-! ## (1) Fields of JSON objects -/

/-- A field just set is found. -/
@[simp] theorem lookupField_insertField_self (k : String) (v : Json) (fs : List (String × Json)) :
    lookupField k (insertField k v fs) = some v := by
  induction fs with
  | nil => simp [insertField, lookupField]
  | cons f fs ih =>
    obtain ⟨k', v'⟩ := f
    unfold insertField
    by_cases heq : k = k'
    · simp [heq, lookupField]
    · by_cases hlt : k < k'
      · simp [heq, hlt, lookupField]
      · simp [heq, hlt, lookupField, ih]

/-- Setting one field leaves the others as they were. -/
theorem lookupField_insertField_of_ne {k k' : String} (h : k ≠ k') (v : Json)
    (fs : List (String × Json)) : lookupField k (insertField k' v fs) = lookupField k fs := by
  induction fs with
  | nil => simp [insertField, lookupField, h]
  | cons f fs ih =>
    obtain ⟨k'', v''⟩ := f
    unfold insertField
    by_cases heq : k' = k''
    · subst heq
      simp [lookupField, h]
    · by_cases hlt : k' < k''
      · simp [heq, hlt, lookupField, h]
      · simp only [heq, hlt, if_false, lookupField, ih]

theorem lookupField_insertField (k k' : String) (v : Json) (fs : List (String × Json)) :
    lookupField k (insertField k' v fs) = if k = k' then some v else lookupField k fs := by
  by_cases h : k = k'
  · subst h
    simp
  · rw [if_neg h, lookupField_insertField_of_ne h]

/-- A field of an object after an insertion is the inserted one or was there before. -/
theorem mem_insertField {kv : String × Json} {k : String} {v : Json} {fs : List (String × Json)}
    (h : kv ∈ insertField k v fs) : kv = (k, v) ∨ kv ∈ fs := by
  induction fs with
  | nil => simpa [insertField] using h
  | cons f fs ih =>
    obtain ⟨k', v'⟩ := f
    unfold insertField at h
    split at h
    · rcases List.mem_cons.1 h with h | h
      · exact .inl h
      · exact .inr (List.mem_cons_of_mem _ h)
    · split at h
      · rcases List.mem_cons.1 h with h | h
        · exact .inl h
        · exact .inr h
      · rcases List.mem_cons.1 h with h | h
        · exact .inr (h ▸ List.mem_cons_self)
        · exact (ih h).imp id (List.mem_cons_of_mem _)

/-- The fields of the object that `Json.object` builds from a list of fields. -/
def objectFields (fs : List (String × Json)) : List (String × Json) :=
  fs.foldl (fun acc (k, v) => insertField k v acc) []

theorem object_eq (fs : List (String × Json)) : Json.object fs = .obj (objectFields fs) := rfl

/-- Inserting fields one after another: a key has the value of the last field inserted with it,
else its value before. -/
theorem lookupField_foldl_insertField (k : String) (fs acc : List (String × Json)) :
    lookupField k (fs.foldl (fun acc (k, v) => insertField k v acc) acc) =
      ((fs.reverse.find? (·.1 == k)).map (·.2)).or (lookupField k acc) := by
  -- The induction carries the fields inserted so far in `acc`.
  induction fs generalizing acc with
  | nil => rfl
  | cons f fs ih =>
    obtain ⟨k', v'⟩ := f
    rw [List.foldl_cons, ih, lookupField_insertField, List.reverse_cons, List.find?_append]
    by_cases h : k = k'
    · subst h
      cases fs.reverse.find? (·.1 == k) <;> simp
    · have hne : (k' == k) = false := by simpa using Ne.symm h
      cases fs.reverse.find? (·.1 == k) <;> simp [h, hne]

/-- **A key of a built object has the value of its last field.** -/
theorem get?_object (fs : List (String × Json)) (k : String) :
    (Json.object fs).get? k = (fs.reverse.find? (·.1 == k)).map (·.2) := by
  simp only [object_eq, get?, objectFields, lookupField_foldl_insertField]
  cases fs.reverse.find? (·.1 == k) <;> rfl

/-- **Fields in ascending key order,** the order in which objects keep them. -/
def Ascending (fs : List (String × Json)) : Prop := (fs.map (·.1)).Pairwise (· < ·)

/-- **Inserting a field keeps the keys ascending:** it goes before the first larger key, or
replaces the value of an equal one. -/
theorem ascending_insertField {fs : List (String × Json)} (h : Ascending fs) (k : String)
    (v : Json) : Ascending (insertField k v fs) := by
  induction fs with
  | nil => exact List.pairwise_singleton _ _
  | cons f fs ih =>
    obtain ⟨k', v'⟩ := f
    obtain ⟨hhead, hrest⟩ := List.pairwise_cons.1 h
    unfold insertField
    by_cases heq : k = k'
    · subst heq
      simpa [Ascending] using h
    · by_cases hlt : k < k'
      · simp only [heq, hlt, if_true, if_false]
        refine List.pairwise_cons.2 ⟨fun x hx => ?_, h⟩
        rcases List.mem_cons.1 hx with rfl | hx
        · exact hlt
        · exact lt_trans hlt (hhead x hx)
      · -- The new key comes after `k'`, so `k'` stays in front.
        have hgt : k' < k := lt_of_le_of_ne (not_lt.1 hlt) (Ne.symm heq)
        simp only [heq, hlt, if_false]
        refine List.pairwise_cons.2 ⟨fun x hx => ?_, ih hrest⟩
        obtain ⟨kv, hkv, rfl⟩ := List.mem_map.1 hx
        rcases mem_insertField hkv with rfl | hkv
        · exact hgt
        · exact hhead _ (List.mem_map_of_mem hkv)

/-- Inserting fields one after another keeps the keys ascending. -/
theorem ascending_foldl_insertField (fs : List (String × Json)) {acc : List (String × Json)}
    (h : Ascending acc) : Ascending (fs.foldl (fun acc (k, v) => insertField k v acc) acc) := by
  induction fs generalizing acc with
  | nil => exact h
  | cons f fs ih => exact ih (ascending_insertField h f.1 f.2)

/-- The fields of a built object are in ascending key order. -/
theorem ascending_objectFields (fs : List (String × Json)) : Ascending (objectFields fs) :=
  ascending_foldl_insertField fs List.Pairwise.nil

/-- **With no key repeated, every field is the one its key finds.** -/
theorem lookupField_of_mem {fs : List (String × Json)} (h : (fs.map (·.1)).Nodup)
    {kv : String × Json} (hkv : kv ∈ fs) : lookupField kv.1 fs = some kv.2 := by
  induction fs with
  | nil => cases hkv
  | cons f fs ih =>
    obtain ⟨hhead, hrest⟩ := List.nodup_cons.1 h
    rcases List.mem_cons.1 hkv with rfl | hkv
    · simp [lookupField]
    · have hmem : kv.1 ∈ fs.map (·.1) := List.mem_map_of_mem hkv
      have hne : kv.1 ≠ f.1 := by
        intro he
        exact hhead (by simpa [he] using hmem)
      simp only [lookupField, hne, if_false]
      exact ih hrest hkv

/-- **A built object repeats no key.** -/
theorem nodup_objectFields (fs : List (String × Json)) : ((objectFields fs).map (·.1)).Nodup :=
  (ascending_objectFields fs).imp ne_of_lt

/-- Removing a key keeps the other fields in order. -/
theorem eraseField_sublist (k : String) (fs : List (String × Json)) :
    (eraseField k fs).Sublist fs := by
  induction fs with
  | nil => exact List.Sublist.slnil
  | cons f fs ih =>
    unfold eraseField
    split
    · exact List.sublist_cons_self _ _
    · exact ih.cons_cons _

/-- Removing a key leaves the lookup of every other key as it was. -/
theorem lookupField_eraseField_of_ne {k k' : String} (h : k ≠ k') (fs : List (String × Json)) :
    lookupField k (eraseField k' fs) = lookupField k fs := by
  induction fs with
  | nil => rfl
  | cons f fs ih =>
    obtain ⟨k'', v⟩ := f
    unfold eraseField
    by_cases hk : k' = k''
    · subst hk
      simp [lookupField, h]
    · simp only [hk, if_false, lookupField, ih]

end Json

/-! ## (2) Reading records -/

namespace Decoder

/-- Checking fields succeeds when every field's spec, if it has one, accepts its value. -/
theorem checkAll_ok {specs : List FieldSpec} {fs : List (String × Json)}
    (h : ∀ kv ∈ fs, ∀ s, specs.find? (·.name == kv.1) = some s → s.check kv.2 = .ok ()) :
    checkAll specs fs = .ok () := by
  induction fs with
  | nil => rfl
  | cons kv fs ih =>
    obtain ⟨k, v⟩ := kv
    have hrest := ih fun kv hkv => h kv (List.mem_cons_of_mem _ hkv)
    unfold checkAll
    split
    · rename_i s hs
      rw [h (k, v) List.mem_cons_self s hs]
      exact hrest
    · exact hrest

/-- **A record reads an object** that repeats no key, when the spec of each name accepts
the value under that name and every required field is there; the fields are handed on as they
are. -/
theorem record_ok (name : String) {specs : List FieldSpec} {fs : List (String × Json)}
    (hnodup : (fs.map (·.1)).Nodup)
    (hcheck : ∀ s ∈ specs, ∀ v, Json.lookupField s.name fs = some v → s.check v = .ok ())
    (hreq : ∀ s ∈ specs, s.required = true → (Json.lookupField s.name fs).isSome = true) :
    record name specs (.obj fs) = .ok fs := by
  have hall : checkAll specs fs = .ok () := by
    refine checkAll_ok fun kv hkv s hs => ?_
    -- The spec found is named by the field's key, and that key finds the field.
    have hname : s.name = kv.1 := by simpa using List.find?_some hs
    exact hcheck s (List.mem_of_find?_eq_some hs) kv.2 (hname ▸ Json.lookupField_of_mem hnodup hkv)
  have hnone : specs.find? (fun s => s.required && (Json.lookupField s.name fs).isNone) = none := by
    rw [List.find?_eq_none]
    intro s hs
    cases hr : s.required with
    | false => simp
    | true => simpa [Option.isSome_iff_ne_none] using hreq s hs hr
  simp only [record, hall, hnone]
  rfl

/-- **A list reads item by item:** each item reads as its partner. -/
theorem items_forall₂ {α : Type} {d : Decoder α} {R : α → Json → Prop}
    (hd : ∀ x j, R x j → d j = .ok x) {xs : List α} {js : List Json} (h : List.Forall₂ R xs js) :
    items d js = .ok xs := by
  induction h with
  | nil => rfl
  | cons hxj _ ih => simp [items, hd _ _ hxj, ih, bind, Except.bind, pure, Except.pure]

/-- An optional string field reads back what `Option.map Json.str` wrote. -/
theorem fieldOpt_string {fs : List (String × Json)} {name : String} {o : Option String}
    (h : Json.lookupField name fs = o.map Json.str) : fieldOpt fs name string = .ok o := by
  cases o <;> simp [fieldOpt, h, option, string, Except.map]

end Decoder

end ChatGateway
