import Mathlib.Data.List.Nodup
import Mathlib.Data.List.Sort
import SettingsConsole.Json.Basic

/-!
# Objects

`Json.ofFields` makes an object of any list of fields: it has the keys of the list, each once and in
ascending order.
-/

namespace SettingsConsole

namespace Json

variable {key k : String} {value : Json} {fields : List (String × Json)}

/-- The keys stand in ascending order, so each stands there once. -/
def Ascending {α : Type} (fields : List (String × α)) : Prop :=
  (fields.map Prod.fst).Pairwise (· < ·)

/-! ## Values -/

theorem lookup_of_mem (distinct : (fields.map Prod.fst).Nodup) (member : (key, value) ∈ fields) :
    fields.lookup key = some value := by
  induction fields with
  | nil => cases member
  | cons f rest ih =>
    rw [List.map_cons, List.nodup_cons] at distinct
    rcases List.mem_cons.1 member with rfl | member
    · exact lookup_cons_self ..
    · have other : key ≠ f.1 := fun e => distinct.1 (e ▸ List.mem_map_of_mem member)
      rw [lookup_cons_ne other, ih distinct.2 member]

theorem mem_iff_lookup (distinct : (fields.map Prod.fst).Nodup) :
    (key, value) ∈ fields ↔ fields.lookup key = some value := by
  refine ⟨lookup_of_mem distinct, fun found => ?_⟩
  obtain ⟨before, after, rfl, -⟩ := List.lookup_eq_some_iff.1 found
  exact List.mem_append_right _ List.mem_cons_self

/-- With distinct keys every value stands under its key. -/
theorem field?_ofFields_of_mem (distinct : (fields.map Prod.fst).Nodup)
    (member : (key, value) ∈ fields) : (ofFields fields).field? key = some value := by
  rw [field?_ofFields]
  refine lookup_of_mem ?_ (List.mem_reverse.2 member)
  rw [List.map_reverse]
  exact List.nodup_reverse.2 distinct

theorem lookup_filter_ne (fields : List (String × Json)) (other : k ≠ key) :
    (fields.filter (·.1 ≠ key)).lookup k = fields.lookup k := by
  induction fields with
  | nil => rfl
  | cons f rest ih =>
    obtain ⟨name, v⟩ := f
    by_cases it : name = key
    · rw [List.filter_cons_of_neg (by simpa using it), ih, lookup_cons_ne (it ▸ other)]
    · rw [List.filter_cons_of_pos (by simpa using it), List.lookup_cons, List.lookup_cons, ih]

theorem lookup_filter_self (fields : List (String × Json)) (key : String) :
    (fields.filter (·.1 ≠ key)).lookup key = none := by
  rw [List.lookup_eq_none_iff]
  intro f member
  have other : f.1 ≠ key := by simpa using (List.mem_filter.1 member).2
  simpa using other.symm

/-! ## Keys -/

theorem ofFields_eq (fields : List (String × Json)) :
    ofFields fields =
      .object (fields.foldl (fun done (key, value) => insertField key value done) []) :=
  rfl

theorem mem_keys_insertField :
    k ∈ (insertField key value fields).map Prod.fst ↔ k = key ∨ k ∈ fields.map Prod.fst := by
  induction fields with
  | nil => simp [insertField]
  | cons f rest ih =>
    unfold insertField
    split
    · simp
    · split
      next same => simp [same]
      next => simp only [List.map_cons, List.mem_cons, ih, or_left_comm]

theorem Ascending.insertField (h : Ascending fields) :
    Ascending (Json.insertField key value fields) := by
  induction fields with
  | nil => simp [Ascending, Json.insertField]
  | cons f rest ih =>
    obtain ⟨first, later⟩ := List.pairwise_cons.1 h
    unfold Json.insertField
    split
    next before =>
      refine List.pairwise_cons.2 ⟨fun k member => ?_, h⟩
      rcases List.mem_cons.1 member with rfl | member
      · exact before
      · exact String.lt_trans before (first k member)
    next notBefore =>
      split
      next same => exact List.pairwise_cons.2 ⟨same ▸ first, later⟩
      next other =>
        refine List.pairwise_cons.2 ⟨fun k member => ?_, ih later⟩
        rcases mem_keys_insertField.1 member with rfl | member
        · exact String.not_le.1 fun le => other (String.le_antisymm le (String.not_lt.1 notBefore))
        · exact first k member

theorem mem_keys_foldl_insertField (done : List (String × Json)) :
    k ∈ (fields.foldl (fun done (key, value) => insertField key value done) done).map Prod.fst ↔
      k ∈ fields.map Prod.fst ∨ k ∈ done.map Prod.fst := by
  induction fields generalizing done with
  | nil => simp
  | cons f rest ih =>
    rw [List.foldl_cons, ih, mem_keys_insertField, List.map_cons, List.mem_cons, or_left_comm,
      or_assoc]

theorem Ascending.foldl_insertField {done : List (String × Json)} (h : Ascending done)
    (fields : List (String × Json)) :
    Ascending (fields.foldl (fun done (key, value) => Json.insertField key value done) done) := by
  induction fields generalizing done with
  | nil => exact h
  | cons f rest ih => exact ih h.insertField

/-- The object of a list of fields has the keys of the list, each once. -/
theorem exists_ofFields (fields : List (String × Json)) :
    ∃ made, ofFields fields = .object made ∧ Ascending made ∧
      ∀ k, k ∈ made.map Prod.fst ↔ k ∈ fields.map Prod.fst := by
  have empty : Ascending ([] : List (String × Json)) := .nil
  refine ⟨_, ofFields_eq fields, empty.foldl_insertField fields, fun k => ?_⟩
  rw [mem_keys_foldl_insertField]
  simp

/-! ## Fields that ascend already -/

theorem insertField_eq_append (last : ∀ k ∈ fields.map Prod.fst, k < key) :
    insertField key value fields = fields ++ [(key, value)] := by
  induction fields with
  | nil => rfl
  | cons f rest ih =>
    obtain ⟨before, last⟩ := List.forall_mem_cons.1 last
    have not_lt : ¬ key < f.1 := String.lt_asymm before
    have ne : key ≠ f.1 := fun same => String.lt_irrefl _ (same ▸ before)
    rw [insertField, if_neg not_lt, if_neg ne, ih last, List.cons_append]

theorem foldl_insertField_eq_append {done : List (String × Json)}
    (ascending : Ascending (done ++ fields)) :
    fields.foldl (fun done (key, value) => insertField key value done) done = done ++ fields := by
  induction fields generalizing done with
  | nil => exact (List.append_nil done).symm
  | cons f rest ih =>
    obtain ⟨key, value⟩ := f
    have last : ∀ k ∈ done.map Prod.fst, k < key := by
      intro k member
      rw [Ascending, List.map_append, List.pairwise_append] at ascending
      exact ascending.2.2 k member key List.mem_cons_self
    rw [List.append_cons] at ascending ⊢
    rw [← ih ascending, ← insertField_eq_append last]
    rfl

/-- An object of ascending fields has just these. -/
theorem Ascending.ofFields (ascending : Ascending fields) :
    Json.ofFields fields = .object fields := by
  rw [← List.nil_append fields] at ascending
  exact congrArg object (foldl_insertField_eq_append ascending)

theorem Ascending.nodup {α : Type} {fields : List (String × α)} (h : Ascending fields) :
    (fields.map Prod.fst).Nodup :=
  List.Pairwise.imp (fun lt => String.ne_of_lt lt) h

/-- Fields that ascend are told by what stands under each key. -/
theorem Ascending.ext {fields' : List (String × Json)} (h : Ascending fields)
    (h' : Ascending fields') (same : ∀ key, fields.lookup key = fields'.lookup key) :
    fields = fields' := by
  have irrefl : Std.Irrefl fun f f' : String × Json => f.1 < f'.1 := ⟨fun _ => String.lt_irrefl _⟩
  refine List.Pairwise.eq_of_mem_iff (List.pairwise_map.1 h) (List.pairwise_map.1 h') fun f => ?_
  rw [mem_iff_lookup h.nodup, mem_iff_lookup h'.nodup, same]

/-- So are the objects that are made of fields. -/
theorem ofFields_ext {fields' : List (String × Json)}
    (same : ∀ key, (Json.ofFields fields).field? key = (Json.ofFields fields').field? key) :
    Json.ofFields fields = Json.ofFields fields' := by
  obtain ⟨made, it, ascending, -⟩ := exists_ofFields fields
  obtain ⟨made', it', ascending', -⟩ := exists_ofFields fields'
  rw [it, it'] at same ⊢
  exact congrArg object (ascending.ext ascending' same)

/-! ## Telling written values apart -/

theorem string_ne_null (t : String) : string t ≠ .null := nofun

theorem ofFields_ne_null (fields : List (String × Json)) : Json.ofFields fields ≠ .null := nofun

theorem ofFields_single_inj {v w : Json} (h : Json.ofFields [(key, v)] = Json.ofFields [(key, w)]) :
    v = w := by
  simpa [Json.ofFields, Json.insertField] using h

variable {α : Type} {encode : α → Json}

theorem eq_none_of_ofOption {a? : Option α} (ne : ∀ a, encode a ≠ .null)
    (h : ofOption encode a? = .null) : a? = none := by
  cases a? with
  | none => rfl
  | some a => exact absurd h (ne a)

theorem ofList_eq_nil {as : List α} (h : ofList encode as = .list []) : as = [] :=
  List.map_eq_nil_iff.1 (list.inj h)

end Json

end SettingsConsole
