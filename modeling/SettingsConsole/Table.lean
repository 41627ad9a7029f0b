/-!
# Tables

A table has one entry for a name, in the order of the names.  Its keys are what has a name: a text
has itself.  An entry that is inserted takes its place in the order, and the place of the one that
had its name.
-/

namespace SettingsConsole

/-- Entries in the order of the names of their keys, one for a name. -/
structure Table {κ : Type} (name : κ → String) (α : Type) where
  entries : List (κ × α)
  ordered : entries.Pairwise fun a b => name a.1 < name b.1
  deriving DecidableEq, Repr

namespace Table

variable {κ α : Type} {name : κ → String} {key k : κ} {value v : α} {entries rest : List (κ × α)}

/-! ## Inserting an entry -/

/-- The entries with one more, in its place. -/
def insertEntry (name : κ → String) (key : κ) (value : α) : List (κ × α) → List (κ × α)
  | [] => [(key, value)]
  | (k, v) :: rest =>
    if name key < name k then (key, value) :: (k, v) :: rest
    else if name key = name k then (key, value) :: rest
    else (k, v) :: insertEntry name key value rest

theorem insertEntry_of_lt (before : name key < name k) :
    insertEntry name key value ((k, v) :: rest) = (key, value) :: (k, v) :: rest :=
  if_pos before

theorem insertEntry_of_eq (same : name key = name k) :
    insertEntry name key value ((k, v) :: rest) = (key, value) :: rest := by
  have not_before : ¬ name key < name k := same ▸ String.lt_irrefl _
  rw [insertEntry, if_neg not_before, if_pos same]

theorem insertEntry_of_gt (after : name k < name key) :
    insertEntry name key value ((k, v) :: rest) = (k, v) :: insertEntry name key value rest := by
  have other : ¬ name key = name k := fun same => String.lt_irrefl _ (same ▸ after)
  rw [insertEntry, if_neg (String.lt_asymm after), if_neg other]

theorem lt_trichotomy (s t : String) : s < t ∨ s = t ∨ t < s := by
  by_cases before : s < t
  · exact .inl before
  by_cases after : t < s
  · exact .inr (.inr after)
  · exact .inr (.inl (String.le_antisymm (String.not_lt.1 after) (String.not_lt.1 before)))

theorem eq_or_mem_of_mem_insertEntry {entry : κ × α}
    (member : entry ∈ insertEntry name key value entries) :
    entry = (key, value) ∨ entry ∈ entries := by
  induction entries with
  | nil => exact .inl (List.mem_singleton.1 member)
  | cons first rest ih =>
    rcases lt_trichotomy (name key) (name first.1) with before | same | after
    · rw [insertEntry_of_lt before] at member
      exact List.mem_cons.1 member
    · rw [insertEntry_of_eq same] at member
      exact (List.mem_cons.1 member).imp_right (List.mem_cons_of_mem _)
    · rw [insertEntry_of_gt after] at member
      rcases List.mem_cons.1 member with rfl | behind
      · exact .inr List.mem_cons_self
      · exact (ih behind).imp_right (List.mem_cons_of_mem _)

theorem ordered_insertEntry (key : κ) (value : α)
    (ordered : entries.Pairwise fun a b => name a.1 < name b.1) :
    (insertEntry name key value entries).Pairwise fun a b => name a.1 < name b.1 := by
  induction entries with
  | nil => exact List.pairwise_singleton _ _
  | cons first rest ih =>
    obtain ⟨least, later⟩ := List.pairwise_cons.1 ordered
    rcases lt_trichotomy (name key) (name first.1) with before | same | after
    · rw [insertEntry_of_lt before]
      refine List.pairwise_cons.2 ⟨fun entry member => ?_, ordered⟩
      rcases List.mem_cons.1 member with rfl | behind
      · exact before
      · exact String.lt_trans before (least entry behind)
    · rw [insertEntry_of_eq same]
      exact List.pairwise_cons.2 ⟨fun entry member => same ▸ least entry member, later⟩
    · rw [insertEntry_of_gt after]
      refine List.pairwise_cons.2 ⟨fun entry member => ?_, ih later⟩
      rcases eq_or_mem_of_mem_insertEntry member with rfl | behind
      · exact after
      · exact least entry behind

/-! ## Tables -/

instance : EmptyCollection (Table name α) := ⟨⟨[], .nil⟩⟩

instance : CoeOut (Table name α) (List (κ × α)) := ⟨Table.entries⟩

/-- The table with one more entry, in the place of the one that has its name. -/
def insert (key : κ) (value : α) (t : Table name α) : Table name α :=
  ⟨insertEntry name key value t.entries, ordered_insertEntry key value t.ordered⟩

/-- The entries whose values have a property. -/
def filter (p : α → Bool) (t : Table name α) : Table name α :=
  ⟨t.entries.filter fun (_, v) => p v, t.ordered.sublist List.filter_sublist⟩

/-- The value under a key. -/
def lookup [BEq κ] (key : κ) (t : Table name α) : Option α := t.entries.lookup key

/-- The table of any entries, the last of one name counting. -/
def ofEntries (entries : List (κ × α)) : Table name α :=
  entries.foldl (fun t (key, value) => t.insert key value) ∅

theorem ext {t u : Table name α} (same : t.entries = u.entries) : t = u := by
  cases t
  cases u
  cases same
  rfl

/-! ## What is found -/

section Lookup

variable [BEq κ] [LawfulBEq κ] (t : Table name α)

theorem lookup_insert_self (key : κ) (value : α) :
    (t.insert key value).lookup key = some value := by
  obtain ⟨entries, ordered⟩ := t
  show (insertEntry name key value entries).lookup key = _
  clear ordered
  induction entries with
  | nil => exact List.lookup_cons_self
  | cons first rest ih =>
    obtain ⟨k, v⟩ := first
    rcases lt_trichotomy (name key) (name k) with before | same | after
    · rw [insertEntry_of_lt before, List.lookup_cons_self]
    · rw [insertEntry_of_eq same, List.lookup_cons_self]
    · have other : (key == k) = false := beq_false_of_ne fun same =>
        String.lt_irrefl _ (same ▸ after)
      rw [insertEntry_of_gt after, List.lookup_cons, other, ih]

/-- If keys are told apart by their names, nothing else is found in another place. -/
theorem lookup_insert_of_ne (injective : ∀ a b, name a = name b → a = b) {other : κ}
    (apart : other ≠ key) (value : α) : (t.insert key value).lookup other = t.lookup other := by
  obtain ⟨entries, ordered⟩ := t
  show (insertEntry name key value entries).lookup other = entries.lookup other
  have ne : (other == key) = false := beq_false_of_ne apart
  clear ordered
  induction entries with
  | nil =>
    show [(key, value)].lookup other = none
    rw [List.lookup_cons, ne, List.lookup_nil]
  | cons first rest ih =>
    obtain ⟨k, v⟩ := first
    rcases lt_trichotomy (name key) (name k) with before | same | after
    · rw [insertEntry_of_lt before, List.lookup_cons, ne]
    · obtain rfl := injective _ _ same
      rw [insertEntry_of_eq same, List.lookup_cons, List.lookup_cons, ne]
    · rw [insertEntry_of_gt after, List.lookup_cons, List.lookup_cons, ih]

/-- The one value under a key is dropped or found again. -/
theorem lookup_filter (p : α → Bool) (key : κ) :
    (t.filter p).lookup key = (t.lookup key).filter p := by
  obtain ⟨entries, ordered⟩ := t
  show (entries.filter fun (_, v) => p v).lookup key = (entries.lookup key).filter p
  induction entries with
  | nil => rfl
  | cons first rest ih =>
    obtain ⟨k, v⟩ := first
    obtain ⟨least, later⟩ := List.pairwise_cons.1 ordered
    have behind := ih later
    by_cases here : key = k
    · subst here
      have once : rest.lookup key = none := by
        rw [List.lookup_eq_none_iff]
        rintro ⟨other, w⟩ member
        have apart : key ≠ other := fun same =>
          String.lt_irrefl _ (same ▸ least (other, w) member)
        simpa using apart
      rw [once] at behind
      cases kept : p v <;> simp [Option.filter, kept, behind]
    · have other : (key == k) = false := beq_false_of_ne here
      cases kept : p v <;> simp [List.lookup_cons, kept, other, behind]

end Lookup

/-! ## The order of insertions -/

section Insertions

variable {a b : κ}

theorem insertEntry_comm_of_lt (order : name a < name b) (v w : α) (entries : List (κ × α)) :
    insertEntry name b w (insertEntry name a v entries) =
      insertEntry name a v (insertEntry name b w entries) := by
  induction entries with
  | nil =>
    show insertEntry name b w [(a, v)] = insertEntry name a v [(b, w)]
    rw [insertEntry_of_gt order, insertEntry_of_lt order]
    rfl
  | cons first rest ih =>
    obtain ⟨k, x⟩ := first
    -- What stands first is compared with the later name: in front of it both find their places.
    rcases lt_trichotomy (name b) (name k) with before | same | after
    · rw [insertEntry_of_lt before, insertEntry_of_lt order,
        insertEntry_of_lt (String.lt_trans order before), insertEntry_of_gt order,
        insertEntry_of_lt before]
    · rw [insertEntry_of_eq same, insertEntry_of_lt order,
        insertEntry_of_lt (same ▸ order : name a < name k), insertEntry_of_gt order,
        insertEntry_of_eq same]
    · rw [insertEntry_of_gt after]
      rcases lt_trichotomy (name a) (name k) with before | same | after'
      · rw [insertEntry_of_lt before, insertEntry_of_lt before, insertEntry_of_gt order,
          insertEntry_of_gt after]
      · rw [insertEntry_of_eq same, insertEntry_of_eq same, insertEntry_of_gt order]
      · rw [insertEntry_of_gt after', insertEntry_of_gt after', insertEntry_of_gt after, ih]

/-- Entries of different names may be inserted in either order. -/
theorem insert_comm (apart : name a ≠ name b) (v w : α) (t : Table name α) :
    (t.insert a v).insert b w = (t.insert b w).insert a v := by
  refine ext ?_
  show insertEntry name b w (insertEntry name a v t.entries) =
    insertEntry name a v (insertEntry name b w t.entries)
  rcases lt_trichotomy (name a) (name b) with order | same | order
  · exact insertEntry_comm_of_lt order v w t.entries
  · exact absurd same apart
  · exact (insertEntry_comm_of_lt order w v t.entries).symm

theorem insertEntry_eq_append (last : ∀ entry ∈ entries, name entry.1 < name key) :
    insertEntry name key value entries = entries ++ [(key, value)] := by
  induction entries with
  | nil => rfl
  | cons first rest ih =>
    obtain ⟨before, last⟩ := List.forall_mem_cons.1 last
    rw [insertEntry_of_gt before, ih last, List.cons_append]

theorem entries_foldl_insert {t : Table name α}
    (ordered : (t.entries ++ entries).Pairwise fun a b => name a.1 < name b.1) :
    (entries.foldl (fun t (key, value) => t.insert key value) t).entries =
      t.entries ++ entries := by
  induction entries generalizing t with
  | nil => exact (List.append_nil _).symm
  | cons first rest ih =>
    obtain ⟨key, value⟩ := first
    have last : ∀ entry ∈ t.entries, name entry.1 < name key := fun entry member =>
      (List.pairwise_append.1 ordered).2.2 entry member (key, value) List.mem_cons_self
    have inserted : (t.insert key value).entries = t.entries ++ [(key, value)] :=
      insertEntry_eq_append last
    rw [List.append_cons, ← inserted] at ordered ⊢
    exact ih ordered

/-- The table of its own entries. -/
theorem ofEntries_entries (t : Table name α) : ofEntries t.entries = t :=
  ext (entries_foldl_insert t.ordered)

end Insertions

end Table

end SettingsConsole
