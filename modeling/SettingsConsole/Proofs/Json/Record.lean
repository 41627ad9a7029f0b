import SettingsConsole.Json.Decode

/-!
# Records written as objects

A field of a record either has a value or is absent where it may be (`Gives`).  If this is so of
every field, then none has a fault, and the record is read with these values.
-/

namespace SettingsConsole

/-- An object has a value under a key, or the key is absent where it may be. -/
def Gives {α : Type} (fields : List (String × Json)) (key : String) (decode : Decoder α) (a : α)
    (absent : Prop) : Prop :=
  (fields.lookup key).map decode = some (.ok a) ∨ fields.lookup key = none ∧ absent

namespace Decode

variable {α β : Type} {decode : Decoder α}

@[simp] theorem ok_bind (a : α) (next : α → Except DecodeError β) : (.ok a >>= next) = next a := rfl

@[simp] theorem pure_eq_ok (a : α) : (pure a : Except DecodeError α) = .ok a := rfl

theorem optional_of_ne {v : Json} (ne : v ≠ .null) : optional decode v = (decode v).map some := by
  cases v with
  | null => exact absurd rfl ne
  | _ => rfl

end Decode

namespace Gives

variable {α : Type} {fields : List (String × Json)} {key name : String} {decode : Decoder α}
  {a d : α} {absent : Prop} {size position : Nat}

theorem outcome (h : Gives fields key decode a absent) :
    (Record.slot ⟨name, size, .named fields⟩ position key decode).outcome = some (.ok a) ∨
      (Record.slot ⟨name, size, .named fields⟩ position key decode).outcome = none ∧ absent := by
  refine h.imp_right fun ⟨missing, may⟩ => ⟨?_, may⟩
  show (fields.lookup key).map decode = none
  rw [missing]
  rfl

theorem fault (h : Gives fields key decode a absent) :
    (Record.slot ⟨name, size, .named fields⟩ position key decode).fault = (key, none) := by
  unfold Slot.fault
  rcases h.outcome with given | ⟨missing, -⟩
  · rw [given]
    rfl
  · rw [missing]
    rfl

theorem required (h : Gives fields key decode a False) (r : Record) :
    r.required (Record.slot ⟨name, size, .named fields⟩ position key decode) = .ok a := by
  unfold Record.required
  rw [h.outcome.resolve_right And.right]
  rfl

theorem defaulted (h : Gives fields key decode a (a = d)) (r : Record) :
    r.defaulted d (Record.slot ⟨name, size, .named fields⟩ position key decode) = .ok a := by
  unfold Record.defaulted
  rcases h.outcome with given | ⟨missing, same⟩
  · rw [given]
    rfl
  · rw [missing, same]
    rfl

theorem optional {decode : Decoder (Option α)} {o : Option α}
    (h : Gives fields key decode o (o = none)) :
    Record.optional ⟨name, size, .named fields⟩
      (Record.slot ⟨name, size, .named fields⟩ position key decode) = .ok o :=
  h.defaulted ⟨name, size, .named fields⟩

end Gives

namespace Record

variable {name : String} {size : Nat} {fields : List (String × Json)}

@[simp] theorem ofJson_object :
    ofJson name size (.object fields) = .ok ⟨name, size, .named fields⟩ := rfl

@[simp] theorem close_eq_ok : close ⟨name, size, .named fields⟩ = .ok () := rfl

/-- Where no field has a fault, none is raised. -/
@[simp] theorem check_eq_ok {faults : List (String × Option DecodeError)}
    (sound : ∀ fault ∈ faults, fault.2 = none) :
    check ⟨name, size, .named fields⟩ faults = .ok () := by
  have unfaulted (key : String) : (faults.lookup key).join = none := by
    cases found : faults.lookup key with
    | none => rfl
    | some fault =>
      obtain ⟨before, after, rfl, -⟩ := List.lookup_eq_some_iff.1 found
      exact sound (key, fault) (by simp)
  unfold check
  dsimp only
  split
  next e raised =>
    obtain ⟨field, -, fault⟩ := List.exists_of_findSome?_eq_some raised
    cases (unfaulted field.1).symm.trans fault
  next => rfl

end Record

end SettingsConsole
