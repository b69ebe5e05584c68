import Mathlib.Data.List.Infix
import Mathlib.Logic.Function.Basic

/-! A tree of files with symbolic links, how a path leads through it, and trees that were only
changed below one place. -/
namespace FileTree
variable {α β : Type}

/-- One part of a path. -/
inductive Step (α : Type) where
  | name (a : α)
  | stay
  | up
deriving DecidableEq

/-- A path as it is written. -/
structure Route (α : Type) where
  absolute : Bool
  steps : List (Step α)
deriving DecidableEq

/-- Where something is: the names that lead to it, the last one first. -/
abbrev Place (α : Type) := List α

inductive Node (α : Type) where
  | dir
  | file (inode : Nat)
  | link (target : Route α)
deriving DecidableEq

/-- Files have their contents under a number, so that several names can stand for one file. -/
structure Tree (α β : Type) where
  node : Place α → Option (Node α)
  content : Nat → β
  next : Nat
  numbered : ∀ p i, node p = some (.file i) → i < next

section Walking
variable (t : Tree α β)

/-- Walks along a path; what a link leads to is walked by `again`. The last name need not exist. -/
def walkWith (again : Place α → List (Step α) → Option (Place α)) :
    Place α → List (Step α) → Option (Place α)
  | here, [] => some here
  | here, .stay :: rest => walkWith again here rest
  | here, .up :: rest => walkWith again here.tail rest
  | here, .name a :: rest =>
    match t.node (a :: here) with
    | some .dir => walkWith again (a :: here) rest
    | some (.link target) => again (if target.absolute then [] else here) (target.steps ++ rest)
    | some (.file _) => if rest.isEmpty then some (a :: here) else none
    | none => if rest.isEmpty then some (a :: here) else none

/-- Walks along a path through at most so many links. -/
def walk : Nat → Place α → List (Step α) → Option (Place α)
  | 0 => walkWith t fun _ _ => none
  | links + 1 => walkWith t (walk links)

/-- Where the last name of a path stands itself, whatever it is. -/
def entry (links : Nat) (here : Place α) (steps : List (Step α)) : Option (Place α) :=
  match steps.getLast?, walk t links here steps.dropLast with
  | some (.name a), some p => if t.node p matches some .dir then some (a :: p) else none
  | _, _ => none

end Walking

/-- A path that only leads further down. -/
def Route.Downward (r : Route α) : Prop := r.absolute = false ∧ Step.up ∉ r.steps

section Confinement
variable {base : Place α} {start t : Tree α β}

/-- Only what is below a place differs from the tree at the start; the links there lead down, and
the files there are new. -/
structure Confined (base : Place α) (start t : Tree α β) : Prop where
  outside : ∀ p, ¬(base <:+ p ∧ p ≠ base) → t.node p = start.node p
  links : ∀ p target, base <:+ p → t.node p = some (.link target) → target.Downward
  files : ∀ p i, base <:+ p → t.node p = some (.file i) → start.next ≤ i
  content : ∀ i < start.next, t.content i = start.content i
  later : start.next ≤ t.next

theorem walkWith_inside (h : Confined base start t)
    {again : Place α → List (Step α) → Option (Place α)}
    (hagain : ∀ here steps p, base <:+ here → Step.up ∉ steps → again here steps = some p →
      base <:+ p)
    {here : Place α} {steps : List (Step α)} {p : Place α} (hhere : base <:+ here)
    (hdown : Step.up ∉ steps) (hwalk : walkWith t again here steps = some p) : base <:+ p := by
  induction steps generalizing here with
  | nil =>
    cases hwalk
    exact hhere
  | cons step rest ih =>
    have hrest : Step.up ∉ rest := fun hmem => hdown (List.mem_cons_of_mem _ hmem)
    cases step with
    | stay => exact ih hhere hrest hwalk
    | up => exact absurd List.mem_cons_self hdown
    | name a =>
      have hbelow : base <:+ a :: here := hhere.trans (List.suffix_cons a here)
      rw [walkWith] at hwalk
      cases hnode : t.node (a :: here) with
      | none =>
        simp only [hnode, Option.ite_none_right_eq_some, Option.some.injEq] at hwalk
        rw [← hwalk.2]
        exact hbelow
      | some node =>
        cases node with
        | dir =>
          simp only [hnode] at hwalk
          exact ih hbelow hrest hwalk
        | file i =>
          simp only [hnode, Option.ite_none_right_eq_some, Option.some.injEq] at hwalk
          rw [← hwalk.2]
          exact hbelow
        | link target =>
          obtain ⟨hrelative, htarget⟩ := h.links _ _ hbelow hnode
          simp only [hnode, hrelative, Bool.false_eq_true, if_false] at hwalk
          apply hagain here (target.steps ++ rest) p hhere ?_ hwalk
          intro hmem
          rcases List.mem_append.mp hmem with hmem | hmem
          · exact htarget hmem
          · exact hrest hmem

/-- A path without a step up stays inside, whatever links it passes. -/
theorem walk_inside (h : Confined base start t) (links : Nat) {here : Place α}
    {steps : List (Step α)} {p : Place α} (hhere : base <:+ here) (hdown : Step.up ∉ steps)
    (hwalk : walk t links here steps = some p) : base <:+ p := by
  induction links generalizing here steps p with
  | zero => exact walkWith_inside h (fun _ _ _ _ _ hnone => by cases hnone) hhere hdown hwalk
  | succ links ih =>
    exact walkWith_inside h (fun here steps p hhere hdown hwalk => ih hhere hdown hwalk) hhere hdown
      hwalk

theorem entry_inside (h : Confined base start t) (links : Nat) {here : Place α}
    {steps : List (Step α)} {p : Place α} (hhere : base <:+ here) (hdown : Step.up ∉ steps)
    (hentry : entry t links here steps = some p) : base <:+ p ∧ p ≠ base := by
  unfold entry at hentry
  cases hlast : steps.getLast? with
  | none => simp [hlast] at hentry
  | some step =>
    cases step with
    | stay => simp [hlast] at hentry
    | up => simp [hlast] at hentry
    | name a =>
      cases hwalk : walk t links here steps.dropLast with
      | none => simp [hlast, hwalk] at hentry
      | some q =>
        have hinside : base <:+ q := by
          apply walk_inside h links hhere ?_ hwalk
          intro hmem
          exact hdown (List.mem_of_mem_dropLast hmem)
        simp only [hlast, hwalk, Option.ite_none_right_eq_some, Option.some.injEq] at hentry
        rw [← hentry.2]
        refine ⟨hinside.trans (List.suffix_cons a q), ?_⟩
        intro heq
        have hlength := hinside.length_le
        rw [← heq, List.length_cons] at hlength
        omega

theorem Confined.refl (hempty : ∀ p, base <:+ p → p ≠ base → start.node p = none)
    (hroot : start.node base = some .dir) : Confined base start start where
  outside _ _ := rfl
  links p target hp hlink := by
    by_cases hbase : p = base
    · rw [hbase, hroot] at hlink
      cases hlink
    · rw [hempty p hp hbase] at hlink
      cases hlink
  files p i hp hfile := by
    by_cases hbase : p = base
    · rw [hbase, hroot] at hfile
      cases hfile
    · rw [hempty p hp hbase] at hfile
      cases hfile
  content _ _ := rfl
  later := Nat.le_refl _

end Confinement

section Changes
variable [DecidableEq α] {base : Place α} {start : Tree α β}

/-- Puts a node, or nothing, at a place. -/
def Tree.put (t : Tree α β) (p : Place α) (n : Option (Node α))
    (h : ∀ i, n = some (.file i) → i < t.next) : Tree α β where
  node := Function.update t.node p n
  content := t.content
  next := t.next
  numbered q i hq := by
    by_cases heq : q = p
    · subst heq
      rw [Function.update_self] at hq
      exact h i hq
    · rw [Function.update_of_ne heq] at hq
      exact t.numbered q i hq

/-- A new file at a place. -/
def Tree.create (t : Tree α β) (p : Place α) (b : β) : Tree α β where
  node := Function.update t.node p (some (.file t.next))
  content := Function.update t.content t.next b
  next := t.next + 1
  numbered q i hq := by
    by_cases heq : q = p
    · subst heq
      rw [Function.update_self] at hq
      cases hq
      omega
    · rw [Function.update_of_ne heq] at hq
      have hless := t.numbered q i hq
      omega

def Tree.write (t : Tree α β) (i : Nat) (b : β) : Tree α β :=
  { t with content := Function.update t.content i b }

variable {t : Tree α β} {p : Place α}

@[simp] theorem Tree.put_node {n : Option (Node α)} {h : ∀ i, n = some (.file i) → i < t.next} :
    (t.put p n h).node = Function.update t.node p n := rfl

@[simp] theorem Tree.create_node (b : β) :
    (t.create p b).node = Function.update t.node p (some (.file t.next)) := rfl

@[simp] theorem Tree.create_content (b : β) :
    (t.create p b).content = Function.update t.content t.next b := rfl

omit [DecidableEq α] in
@[simp] theorem Tree.write_content (i : Nat) (b : β) :
    (t.write i b).content = Function.update t.content i b := rfl

theorem Confined.put (h : Confined base start t) {n : Option (Node α)}
    {hn : ∀ i, n = some (.file i) → i < t.next} (hp : base <:+ p ∧ p ≠ base)
    (hlink : ∀ target, n = some (.link target) → target.Downward)
    (hfile : ∀ i, n = some (.file i) → start.next ≤ i) : Confined base start (t.put p n hn) where
  outside q hq := by
    have hne : q ≠ p := fun heq => hq (heq ▸ hp)
    rw [Tree.put_node, Function.update_of_ne hne]
    exact h.outside q hq
  links q target hq hnode := by
    by_cases heq : q = p
    · subst heq
      rw [Tree.put_node, Function.update_self] at hnode
      exact hlink target hnode
    · rw [Tree.put_node, Function.update_of_ne heq] at hnode
      exact h.links q target hq hnode
  files q i hq hnode := by
    by_cases heq : q = p
    · subst heq
      rw [Tree.put_node, Function.update_self] at hnode
      exact hfile i hnode
    · rw [Tree.put_node, Function.update_of_ne heq] at hnode
      exact h.files q i hq hnode
  content := h.content
  later := h.later

theorem Confined.create (h : Confined base start t) (hp : base <:+ p ∧ p ≠ base) (b : β) :
    Confined base start (t.create p b) where
  outside q hq := by
    have hne : q ≠ p := fun heq => hq (heq ▸ hp)
    rw [Tree.create_node, Function.update_of_ne hne]
    exact h.outside q hq
  links q target hq hnode := by
    by_cases heq : q = p
    · subst heq
      rw [Tree.create_node, Function.update_self] at hnode
      cases hnode
    · rw [Tree.create_node, Function.update_of_ne heq] at hnode
      exact h.links q target hq hnode
  files q i hq hnode := by
    by_cases heq : q = p
    · subst heq
      rw [Tree.create_node, Function.update_self] at hnode
      cases hnode
      exact h.later
    · rw [Tree.create_node, Function.update_of_ne heq] at hnode
      exact h.files q i hq hnode
  content i hi := by
    have hlater := h.later
    rw [Tree.create_content, Function.update_of_ne (by omega)]
    exact h.content i hi
  later := Nat.le_succ_of_le h.later

omit [DecidableEq α] in
theorem Confined.write (h : Confined base start t) {i : Nat} (hp : base <:+ p)
    (hfile : t.node p = some (.file i)) (b : β) : Confined base start (t.write i b) where
  outside := h.outside
  links := h.links
  files := h.files
  content j hj := by
    have hnew := h.files p i hp hfile
    rw [Tree.write_content, Function.update_of_ne (by omega)]
    exact h.content j hj
  later := h.later

end Changes
end FileTree
