import Mathlib.Data.List.Basic
import SettingsConsole.Page.Outline

/-!
# Outlines in pre-order

An entry of a forest is found on a way down from the top, which says which of the entries to take at
each step (`Outline.find?`).  Pre-order is the order of these ways as words: an entry comes before
those below it, and these come before the entries beside it that stand further down the list.
Flattening goes through the entries of a forest in this order and adds the lines of each at its
depth to those that are there (`Outline.flatten_eq`), so nothing is lost
(`Outline.flattens_in_preorder`).
-/

namespace SettingsConsole

namespace Outline

variable {δ : Type}

/-! ## Ways down -/

/-- The title of the target of an entry. -/
def target? : Outline δ → Option String
  | .node target _ _ => target

/-- The detail of an entry. -/
def detail? : Outline δ → Option δ
  | .node _ detail _ => detail

/-- The entries below an entry. -/
def children : Outline δ → List (Outline δ)
  | .node _ _ children => children

/-- The entry on a way down from an entry. -/
def descend? (x : Outline δ) : List Nat → Option (Outline δ)
  | [] => some x
  | i :: way => x.children[i]?.bind (·.descend? way)

/-- The entry of a forest on a way down from the top. -/
def find? (forest : List (Outline δ)) : List Nat → Option (Outline δ)
  | [] => none
  | i :: way => forest[i]?.bind (·.descend? way)

/-- An entry with the way down to it. -/
structure Placed (δ : Type) where
  way : List Nat
  entry : Outline δ

namespace Placed

/-- How many entries an entry is below. -/
def depth (p : Placed δ) : Nat := p.way.tail.length

/-- An entry as it is found from one step further up. -/
def under (i : Nat) (p : Placed δ) : Placed δ := ⟨i :: p.way, p.entry⟩

/-- Whether an entry is earlier in pre-order: the ways are compared as words. -/
def Before (p q : Placed δ) : Prop := p.way < q.way

variable {p q : Placed δ} {i j : Nat}

theorem Before.under (before : p.Before q) (i : Nat) : (p.under i).Before (q.under i) :=
  List.cons_lt_cons_iff.2 (.inr ⟨rfl, before⟩)

theorem under_before_under (lt : i < j) : (p.under i).Before (q.under j) :=
  List.cons_lt_cons_iff.2 (.inl lt)

theorem top_before_under (x : Outline δ) : (⟨[], x⟩ : Placed δ).Before (q.under i) :=
  List.nil_lt_cons _ _

end Placed

/-- Whether a list has the entries of a forest, each once and in pre-order. -/
structure IsPreorder (forest : List (Outline δ)) (ps : List (Placed δ)) : Prop where
  ordered : ps.Pairwise Placed.Before
  mem_iff : ∀ way entry, ⟨way, entry⟩ ∈ ps ↔ find? forest way = some entry

/-! ## Pre-order -/

mutual

/-- An entry and those below it, in pre-order. -/
def placed : Outline δ → List (Placed δ)
  | .node target detail children => ⟨[], .node target detail children⟩ :: placedFrom 0 children

/-- The entries of a forest in pre-order; those at the top are counted from the given number. -/
def placedFrom (start : Nat) : List (Outline δ) → List (Placed δ)
  | [] => []
  | x :: rest => (placed x).map (.under start) ++ placedFrom (start + 1) rest

end

theorem placed_eq (x : Outline δ) : placed x = ⟨[], x⟩ :: placedFrom 0 x.children := by
  cases x with
  | node target detail children => rw [placed, Outline.children]

theorem mem_placedFrom_iff {start : Nat} {forest : List (Outline δ)} {p : Placed δ} :
    p ∈ placedFrom start forest ↔
      ∃ i x q, forest[i]? = some x ∧ q ∈ placed x ∧ p = q.under (start + i) := by
  induction forest generalizing start with
  | nil => simp [placedFrom]
  | cons first rest ih =>
    rw [placedFrom, List.mem_append, List.mem_map, ih]
    constructor
    · rintro (⟨q, mem, rfl⟩ | ⟨i, x, q, found, mem, rfl⟩)
      · exact ⟨0, first, q, rfl, mem, rfl⟩
      · exact ⟨i + 1, x, q, found, mem, by rw [Nat.add_assoc, Nat.add_comm 1]⟩
    · rintro ⟨i, x, q, found, mem, rfl⟩
      cases i with
      | zero =>
        obtain rfl := Option.some.inj found
        exact .inl ⟨q, mem, rfl⟩
      | succ i => exact .inr ⟨i, x, q, found, mem, by rw [Nat.add_assoc, Nat.add_comm 1]⟩

theorem not_mem_placedFrom {start : Nat} {forest : List (Outline δ)} {entry : Outline δ} :
    ⟨[], entry⟩ ∉ placedFrom start forest := by
  intro mem
  obtain ⟨i, x, q, -, -, same⟩ := mem_placedFrom_iff.1 mem
  cases same

theorem cons_mem_placedFrom_iff {forest : List (Outline δ)} {entry : Outline δ} {i : Nat}
    {way : List Nat} :
    ⟨i :: way, entry⟩ ∈ placedFrom 0 forest ↔
      ∃ x, forest[i]? = some x ∧ ⟨way, entry⟩ ∈ placed x := by
  rw [mem_placedFrom_iff]
  constructor
  · rintro ⟨j, x, q, found, mem, same⟩
    cases same
    exact ⟨x, by rwa [Nat.zero_add], mem⟩
  · rintro ⟨x, found, mem⟩
    exact ⟨i, x, _, found, mem, by rw [Nat.zero_add]; rfl⟩

theorem mem_placed_iff {x entry : Outline δ} {way : List Nat} :
    ⟨way, entry⟩ ∈ placed x ↔ x.descend? way = some entry := by
  induction way generalizing x with
  | nil => simp [placed_eq, not_mem_placedFrom, descend?, eq_comm]
  | cons i way ih =>
    rw [descend?, Option.bind_eq_some_iff, placed_eq, List.mem_cons, cons_mem_placedFrom_iff]
    simp [ih]

mutual

theorem pairwise_placed : (x : Outline δ) → (placed x).Pairwise Placed.Before
  | .node target detail children => by
    rw [placed, List.pairwise_cons]
    refine ⟨fun p mem => ?_, pairwise_placedFrom 0 children⟩
    obtain ⟨i, x, q, -, -, rfl⟩ := mem_placedFrom_iff.1 mem
    exact Placed.top_before_under _

theorem pairwise_placedFrom (start : Nat) :
    (forest : List (Outline δ)) → (placedFrom start forest).Pairwise Placed.Before
  | [] => .nil
  | x :: rest => by
    rw [placedFrom, List.pairwise_append]
    have first : ((placed x).map (Placed.under start)).Pairwise Placed.Before :=
      List.pairwise_map.2 ((pairwise_placed x).imp fun before => before.under start)
    refine ⟨first, pairwise_placedFrom (start + 1) rest, fun p mem q mem' => ?_⟩
    obtain ⟨p, -, rfl⟩ := List.mem_map.1 mem
    obtain ⟨i, y, q, -, -, rfl⟩ := mem_placedFrom_iff.1 mem'
    exact Placed.under_before_under (by omega)

end

theorem isPreorder_placedFrom (forest : List (Outline δ)) :
    IsPreorder forest (placedFrom 0 forest) where
  ordered := pairwise_placedFrom 0 forest
  mem_iff way entry := by
    cases way with
    | nil => simp [find?, not_mem_placedFrom]
    | cons i way =>
      rw [find?, Option.bind_eq_some_iff, cons_mem_placedFrom_iff]
      simp only [mem_placed_iff]

/-! ## Flattening -/

section Flatten

variable (own : Nat → Option String → Option δ → List Line)

mutual

theorem lines_eq (d : Nat) (out : List Line) : (x : Outline δ) → lines own d out x =
    out ++ (placed x).flatMap fun p => own (d + p.way.length) p.entry.target? p.entry.detail?
  | .node target detail children => by
    rw [lines, placed, flatten_eq (d + 1) 0, List.flatMap_cons, List.append_assoc]
    congr 2
    refine List.flatMap_congr fun p mem => ?_
    obtain ⟨i, x, q, -, -, rfl⟩ := mem_placedFrom_iff.1 mem
    show own (d + 1 + q.way.length) _ _ = own (d + (q.way.length + 1)) _ _
    rw [Nat.add_assoc, Nat.add_comm 1]

theorem flatten_eq (d start : Nat) (out : List Line) : (forest : List (Outline δ)) →
    flatten own d out forest =
      out ++ (placedFrom start forest).flatMap fun p =>
        own (d + p.depth) p.entry.target? p.entry.detail?
  | [] => by rw [flatten, placedFrom, List.flatMap_nil, List.append_nil]
  | x :: rest => by
    rw [flatten, placedFrom, flatten_eq d (start + 1), lines_eq d out x, List.flatMap_append,
      List.append_assoc, List.flatMap_map]
    rfl

end

end Flatten

/-! ## The two kinds -/

/-- The line of a target at a depth. -/
def headingLine (depth : Nat) (title : String) : Line :=
  ⟨String.ofList (List.replicate (2 * depth) ' ') ++ title, true⟩

/-- The line of an event at a depth. -/
def eventLine (depth : Nat) (event : Subscription) : Line :=
  ⟨String.ofList (List.replicate (2 * depth) ' ') ++ event.title ++ ": " ++
    event.delivery.getD "adopt parent", false⟩

/-- The line of an entry of the wiki permissions at a depth. -/
def permissionLine (depth : Nat) (title permission : Option String) : Line :=
  ⟨String.ofList (List.replicate (2 * depth) ' ') ++ title.getD "" ++ ": " ++
    permission.getD "-", false⟩

theorem length_flatMap_lines (d : Nat) (ps : List (Placed Subscription)) :
    (ps.flatMap fun p =>
      Subscription.lines (d + p.depth) p.entry.target? p.entry.detail?).length =
      ps.countP (·.entry.target?.isSome) + ps.countP (·.entry.detail?.isSome) := by
  induction ps with
  | nil => rfl
  | cons p rest ih =>
    rw [List.flatMap_cons, List.length_append, ih, List.countP_cons, List.countP_cons]
    unfold Subscription.lines
    cases p.entry.target? <;> cases p.entry.detail? <;> simp <;> omega

theorem flatten_permissions (d : Nat) (out : List Line) (forest : List (Outline String)) :
    flatten WikiPermission.lines d out forest = out ++ (placedFrom 0 forest).map fun p =>
      permissionLine (d + p.depth) p.entry.target? p.entry.detail? := by
  rw [flatten_eq _ d 0, List.map_eq_flatMap]
  rfl

/-- A forest is flattened in pre-order behind the lines that are there.  An entry of the
notification settings adds a line for its target and then one for its event, as far as it has them,
and an entry of the wiki permissions adds one line, each two blanks further in than those of the
entry above.  Flattening two forests in turn is flattening the one followed by the other. -/
theorem flattens_in_preorder :
    (∀ (forest : List (Outline Subscription)) (d : Nat) (out : List Line),
      ∃ ps, IsPreorder forest ps ∧
        flatten Subscription.lines d out forest = out ++ ps.flatMap (fun p =>
          (p.entry.target?.map (headingLine (d + p.depth))).toList ++
            (p.entry.detail?.map (eventLine (d + p.depth))).toList) ∧
        (flatten Subscription.lines d out forest).length = out.length +
          (ps.countP (·.entry.target?.isSome) + ps.countP (·.entry.detail?.isSome))) ∧
      (∀ (forest : List (Outline String)) (d : Nat) (out : List Line),
        ∃ ps, IsPreorder forest ps ∧
          flatten WikiPermission.lines d out forest = out ++ ps.map (fun p =>
            permissionLine (d + p.depth) p.entry.target? p.entry.detail?) ∧
          (flatten WikiPermission.lines d out forest).length = out.length + ps.length) ∧
      (∀ (xs ys : List (Outline Subscription)) (d : Nat) (out : List Line),
        flatten Subscription.lines d out (xs ++ ys) =
          flatten Subscription.lines d (flatten Subscription.lines d out xs) ys) ∧
      ∀ (xs ys : List (Outline String)) (d : Nat) (out : List Line),
        flatten WikiPermission.lines d out (xs ++ ys) =
          flatten WikiPermission.lines d (flatten WikiPermission.lines d out xs) ys := by
  refine ⟨fun forest d out => ⟨placedFrom 0 forest, isPreorder_placedFrom forest, ?_, ?_⟩,
    fun forest d out => ⟨placedFrom 0 forest, isPreorder_placedFrom forest, ?_, ?_⟩,
    fun xs ys d out => flatten_append _ d out xs ys,
    fun xs ys d out => flatten_append _ d out xs ys⟩
  · exact flatten_eq Subscription.lines d 0 out forest
  · rw [flatten_eq _ d 0, List.length_append, length_flatMap_lines]
  · exact flatten_permissions d out forest
  · rw [flatten_permissions, List.length_append, List.length_map]

/-- An entry without lines has those below it further in. -/
example : flatten Subscription.lines 1 [] [.node none none [.node (some "Demo") none []]] =
    [⟨"    Demo", true⟩] := by decide

end Outline

end SettingsConsole
