import SettingsConsole.Json.Decode

/-!
# Outlines

Notification settings and wiki permissions arrive as forests: every entry may have a target, which
has a title, and a detail, and it has entries below it.  The two kinds differ in the detail only;
an `Outline.Format` says how a kind is written.  `Outline.flatten` adds the lines of a forest to
those that are there, in pre-order: each entry before the entries below it.
-/

namespace SettingsConsole

/-- An entry with the entries below it. -/
inductive Outline (δ : Type) where
  | node (target : Option String) (detail : Option δ) (children : List (Outline δ))
  deriving Repr, Inhabited

namespace Outline

/-! ## Equality -/

section Equality

variable {δ : Type} [DecidableEq δ]

mutual

/-- Decides whether two entries are equal. -/
def decEq : (a b : Outline δ) → Decidable (a = b)
  | .node t d cs, .node t' d' cs' =>
    if ht : t = t' then
      if hd : d = d' then
        match decEqForest cs cs' with
        | isTrue h => isTrue (ht ▸ hd ▸ h ▸ rfl)
        | isFalse h => isFalse (fun e => h (by injection e))
      else isFalse (fun e => hd (by injection e))
    else isFalse (fun e => ht (by injection e))

/-- Decides whether two forests are equal. -/
def decEqForest : (a b : List (Outline δ)) → Decidable (a = b)
  | [], [] => isTrue rfl
  | [], _ :: _ | _ :: _, [] => isFalse (fun e => by injection e)
  | x :: xs, y :: ys =>
    match decEq x y, decEqForest xs ys with
    | isTrue h, isTrue t => isTrue (h ▸ t ▸ rfl)
    | isFalse h, _ => isFalse (fun e => h (by injection e))
    | _, isFalse t => isFalse (fun e => t (by injection e))

end

instance : DecidableEq (Outline δ) := decEq

end Equality

/-! ## Written form -/

/-- How the entries of one kind are written. -/
structure Format (δ : Type) where
  /-- The name of the record of an entry. -/
  record : String
  /-- The field of the detail. -/
  detailField : String
  decodeDetail : Decoder δ
  encodeDetail : δ → Json

/-- Reads the title of a target. -/
def decodeTarget : Decoder String := Decode.singleDefaulted "TreeTarget" "title" "" Decode.text

section Codec

variable {δ : Type} (f : Format δ)

/-- An entry from its record, once the entries below it are decoded. -/
def ofRecord (r : Record) (children : Option (Except DecodeError (List (Outline δ)))) :
    Except DecodeError (Outline δ) := do
  let target := r.slot 0 "node" (Decode.optional decodeTarget)
  let detail := r.slot 1 f.detailField (Decode.optional f.decodeDetail)
  let children : Slot (List (Outline δ)) := ⟨2, "children", children⟩
  r.check [target.fault, detail.fault, children.fault]
  let target ← r.optional target
  let detail ← r.optional detail
  let children ← r.defaulted [] children
  r.close
  return .node target detail children

mutual

/-- Reads an entry. -/
def decode : Json → Except DecodeError (Outline δ)
  | .object fields => ofRecord f ⟨f.record, 3, .named fields⟩ (decodeUnder fields)
  | .list items => ofRecord f ⟨f.record, 3, .positional items⟩ (decodeAt 2 items)
  | v => .error (.wrongKind v (.record f.record))
termination_by structural v => v

/-- Reads the forest under the key of the children, if the object has it. -/
def decodeUnder : List (String × Json) → Option (Except DecodeError (List (Outline δ)))
  | [] => none
  | (key, v) :: rest => if key = "children" then some (decodeForest v) else decodeUnder rest
termination_by structural fields => fields

/-- Reads the forest at a position of a list, if it is as long. -/
def decodeAt (position : Nat) : List Json → Option (Except DecodeError (List (Outline δ)))
  | [] => none
  | v :: rest =>
    match position with
    | 0 => some (decodeForest v)
    | n + 1 => decodeAt n rest
termination_by structural items => items

/-- Reads a forest. -/
def decodeForest : Json → Except DecodeError (List (Outline δ))
  | .list items => decodeEach items
  | v => .error (.wrongKind v .list)
termination_by structural v => v

/-- Reads the entries of a forest, in order up to the first that fails. -/
def decodeEach : List Json → Except DecodeError (List (Outline δ))
  | [] => .ok []
  | v :: rest =>
    match decode v with
    | .error e => .error e
    | .ok entry => (decodeEach rest).map (entry :: ·)
termination_by structural items => items

end

mutual

/-- Writes an entry. -/
def encode : Outline δ → Json
  | .node target detail children =>
    Json.ofFields
      [("node", Json.ofOption (fun title => Json.ofFields [("title", .string title)]) target),
       (f.detailField, Json.ofOption f.encodeDetail detail),
       ("children", .list (encodeEach children))]

/-- Writes the entries of a forest. -/
def encodeEach : List (Outline δ) → List Json
  | [] => []
  | entry :: rest => encode entry :: encodeEach rest

end

/-- Writes a forest. -/
def encodeForest (forest : List (Outline δ)) : Json := .list (encodeEach f forest)

end Codec

/-! ## Lines -/

section Lines

variable {δ : Type}

/-- A line of a flattened forest. -/
structure Line where
  text : String
  /-- Whether the line names a target. -/
  isHeading : Bool
  deriving DecidableEq, Repr

/-- The blanks before a line at a depth. -/
def indent (depth : Nat) : String := String.ofList (List.replicate (2 * depth) ' ')

section Flatten

variable (own : Nat → Option String → Option δ → List Line)

mutual

/-- The lines that are there, then those of an entry at a depth: its own, then those of the entries
below it. -/
def lines (depth : Nat) (out : List Line) : Outline δ → List Line
  | .node target detail children =>
    flatten (depth + 1) (out ++ own depth target detail) children

/-- The lines that are there, then those of a forest at a depth. -/
def flatten (depth : Nat) (out : List Line) : List (Outline δ) → List Line
  | [] => out
  | entry :: rest => flatten depth (lines depth out entry) rest

end

theorem flatten_append (depth : Nat) (out : List Line) (xs ys : List (Outline δ)) :
    flatten own depth out (xs ++ ys) = flatten own depth (flatten own depth out xs) ys := by
  induction xs generalizing out with
  | nil => simp [flatten]
  | cons x xs ih => simp [flatten, ih]

end Flatten

end Lines

end Outline

/-! ## Notifications -/

/-- How the user is notified of one kind of event. -/
structure Subscription where
  title : String
  /-- None if the setting of the entry above counts. -/
  delivery : Option String
  deriving DecidableEq, Repr

namespace Subscription

/-- Reads a subscription. -/
def decode : Decoder Subscription := fun v => do
  let r ← Record.ofJson "SubscriptionEvent" 2 v
  let title := r.slot 0 "title" Decode.text
  let delivery := r.slot 1 "notificationType" (Decode.optional Decode.text)
  r.check [title.fault, delivery.fault]
  let title ← r.required title
  let delivery ← r.optional delivery
  r.close
  return { title, delivery }

/-- Writes a subscription. -/
def encode (s : Subscription) : Json :=
  Json.ofFields [("title", .string s.title), ("notificationType", Json.ofText? s.delivery)]

/-- How notification settings are written. -/
def format : Outline.Format Subscription := ⟨"SubscriptionNode", "event", decode, encode⟩

/-- The lines of an entry: the title of its target as a heading, then its event. -/
def lines (depth : Nat) (target : Option String) (event : Option Subscription) :
    List Outline.Line :=
  (target.map fun title => ⟨Outline.indent depth ++ title, true⟩).toList ++
    (event.map fun s =>
      ⟨Outline.indent depth ++ s.title ++ ": " ++ s.delivery.getD "adopt parent", false⟩).toList

end Subscription

/-! ## Wiki permissions -/

namespace WikiPermission

/-- Reads a permission. -/
def decode : Decoder String := Decode.single "WikiPermission" "permission" Decode.text

/-- Writes a permission. -/
def encode (permission : String) : Json := Json.ofFields [("permission", .string permission)]

/-- How wiki permissions are written. -/
def format : Outline.Format String := ⟨"WikiSettingsNode", "select", decode, encode⟩

/-- The line of an entry: the title of its target and who may edit. -/
def lines (depth : Nat) (target : Option String) (permission : Option String) :
    List Outline.Line :=
  [⟨Outline.indent depth ++ target.getD "" ++ ": " ++ permission.getD "-", false⟩]

end WikiPermission

end SettingsConsole
