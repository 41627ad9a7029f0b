/-!
# JSON values

JSON as data: settings are sent as JSON and the page arrives as JSON.  The fields of an object are
kept in ascending order of their keys with each key once, so that equal objects are equal values;
`Json.ofFields` builds one from any list of fields, where the last of equal keys counts.
-/

namespace SettingsConsole

namespace Json

/-- A number: a whole number, or a double given by its bits. -/
inductive Number where
  | whole (value : Int)
  | double (bits : UInt64)
  deriving DecidableEq, Repr

end Json

/-- A JSON value. -/
inductive Json where
  | null
  | bool (value : Bool)
  | number (value : Json.Number)
  | string (value : String)
  | list (items : List Json)
  | object (fields : List (String × Json))
  deriving Repr, Inhabited

namespace Json

/-! ## Equality -/

mutual

/-- Decides whether two values are equal. -/
def decEq : (a b : Json) → Decidable (a = b)
  | .null, .null => isTrue rfl
  | .bool a, .bool b =>
    if h : a = b then isTrue (h ▸ rfl) else isFalse (fun e => h (by injection e))
  | .number a, .number b =>
    if h : a = b then isTrue (h ▸ rfl) else isFalse (fun e => h (by injection e))
  | .string a, .string b =>
    if h : a = b then isTrue (h ▸ rfl) else isFalse (fun e => h (by injection e))
  | .list a, .list b =>
    match decEqList a b with
    | isTrue h => isTrue (h ▸ rfl)
    | isFalse h => isFalse (fun e => h (by injection e))
  | .object a, .object b =>
    match decEqFields a b with
    | isTrue h => isTrue (h ▸ rfl)
    | isFalse h => isFalse (fun e => h (by injection e))
  | .null, .bool _ | .null, .number _ | .null, .string _ | .null, .list _ | .null, .object _
  | .bool _, .null | .bool _, .number _ | .bool _, .string _ | .bool _, .list _
  | .bool _, .object _ | .number _, .null | .number _, .bool _ | .number _, .string _
  | .number _, .list _ | .number _, .object _ | .string _, .null | .string _, .bool _
  | .string _, .number _ | .string _, .list _ | .string _, .object _ | .list _, .null
  | .list _, .bool _ | .list _, .number _ | .list _, .string _ | .list _, .object _
  | .object _, .null | .object _, .bool _ | .object _, .number _ | .object _, .string _
  | .object _, .list _ => isFalse (fun e => by injection e)

/-- Decides whether two lists of values are equal. -/
def decEqList : (a b : List Json) → Decidable (a = b)
  | [], [] => isTrue rfl
  | [], _ :: _ | _ :: _, [] => isFalse (fun e => by injection e)
  | x :: xs, y :: ys =>
    match decEq x y, decEqList xs ys with
    | isTrue h, isTrue t => isTrue (h ▸ t ▸ rfl)
    | isFalse h, _ => isFalse (fun e => h (by injection e))
    | _, isFalse t => isFalse (fun e => t (by injection e))

/-- Decides whether two lists of fields are equal. -/
def decEqFields : (a b : List (String × Json)) → Decidable (a = b)
  | [], [] => isTrue rfl
  | [], _ :: _ | _ :: _, [] => isFalse (fun e => by injection e)
  | (k, x) :: xs, (l, y) :: ys =>
    if hk : k = l then
      match decEq x y, decEqFields xs ys with
      | isTrue h, isTrue t => isTrue (hk ▸ h ▸ t ▸ rfl)
      | isFalse h, _ => isFalse (fun e => h (by injection e with e; injection e))
      | _, isFalse t => isFalse (fun e => t (by injection e))
    else isFalse (fun e => hk (by injection e with e; injection e))

end

instance : DecidableEq Json := decEq

/-! ## Objects -/

/-- Puts a field into its place in ascending key order; one that has the key already gives way. -/
def insertField (key : String) (value : Json) : List (String × Json) → List (String × Json)
  | [] => [(key, value)]
  | (k, v) :: rest =>
    if key < k then (key, value) :: (k, v) :: rest
    else if key = k then (key, value) :: rest
    else (k, v) :: insertField key value rest

/-- The object with the given fields, the last of equal keys counting. -/
def ofFields (fields : List (String × Json)) : Json :=
  .object (fields.foldl (fun done (key, value) => insertField key value done) [])

/-- The value under a key, for an object that has it. -/
def field? (key : String) : Json → Option Json
  | .object fields => fields.lookup key
  | _ => none

/-- The natural number as a JSON value. -/
def ofNat (n : Nat) : Json := .number (.whole n)

/-- `null` for nothing. -/
def ofOption {α : Type} (write : α → Json) : Option α → Json
  | none => .null
  | some a => write a

/-- The list of the written elements. -/
def ofList {α : Type} (write : α → Json) (xs : List α) : Json := .list (xs.map write)

/-- A text, or `null` for none. -/
def ofText? (s : Option String) : Json := ofOption .string s

theorem lookup_cons_self (key : String) (value : Json) (rest : List (String × Json)) :
    ((key, value) :: rest).lookup key = some value := by
  simp

theorem lookup_cons_ne {key other : String} (h : other ≠ key) (value : Json)
    (rest : List (String × Json)) : ((key, value) :: rest).lookup other = rest.lookup other := by
  have hb : (other == key) = false := beq_false_of_ne h
  simp [List.lookup_cons, hb]

theorem lookup_insertField_self (key : String) (value : Json) (fields : List (String × Json)) :
    (insertField key value fields).lookup key = some value := by
  induction fields with
  | nil => exact lookup_cons_self ..
  | cons f rest ih =>
    unfold insertField
    split
    · exact lookup_cons_self ..
    · split
      · exact lookup_cons_self ..
      · next h => rw [lookup_cons_ne h, ih]

theorem lookup_insertField_of_ne {key other : String} (h : other ≠ key) (value : Json)
    (fields : List (String × Json)) :
    (insertField key value fields).lookup other = fields.lookup other := by
  induction fields with
  | nil => exact lookup_cons_ne h ..
  | cons f rest ih =>
    obtain ⟨k, v⟩ := f
    unfold insertField
    split
    · exact lookup_cons_ne h ..
    · split
      · next hk => rw [lookup_cons_ne h, lookup_cons_ne (hk ▸ h)]
      · simp only [List.lookup_cons, ih]

theorem lookup_foldl_insertField (key : String) (fields done : List (String × Json)) :
    (fields.foldl (fun done (key, value) => insertField key value done) done).lookup key =
      (fields.reverse.lookup key).or (done.lookup key) := by
  induction fields generalizing done with
  | nil => rfl
  | cons f rest ih =>
    obtain ⟨k, v⟩ := f
    rw [List.foldl_cons, ih, List.reverse_cons, List.lookup_append, Option.or_assoc]
    congr 1
    by_cases h : key = k
    · subst h
      rw [lookup_insertField_self, lookup_cons_self, Option.some_or]
    · rw [lookup_insertField_of_ne h, lookup_cons_ne h, List.lookup_nil, Option.none_or]

/-- Of equal keys the last one counts. -/
theorem field?_ofFields (key : String) (fields : List (String × Json)) :
    (ofFields fields).field? key = fields.reverse.lookup key := by
  show List.lookup key (List.foldl _ [] fields) = _
  rw [lookup_foldl_insertField, List.lookup_nil, Option.or_none]

end Json

end SettingsConsole
