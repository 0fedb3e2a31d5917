import ThreadLint.Proofs.Tree.Place
import ThreadLint.Tree.Access

/-!
This module contains how the places of a tree relate to the ways through it: a place is a node with
the steps that lead from it up to the root, what runs with a node is what is reached from it without
going into code that runs later, and what comes before a place in its function stands beside the way
to it.
-/

namespace ThreadLint

namespace Node

/--
Whether steps lead from a node up to another one, each of them from a child to its parent.
-/
def LeadsUp (node : Node) : List Step → Node → Prop
  | [], top => node = top
  | step :: rest, top =>
    step.parent.children[step.childIndex]? = some node ∧ LeadsUp step.parent rest top

theorem leadsUp_append {node top : Node} {inner outer : List Step} :
    node.LeadsUp (inner ++ outer) top ↔
      ∃ middle, node.LeadsUp inner middle ∧ middle.LeadsUp outer top := by
  induction inner generalizing node with
  | nil => simp [LeadsUp]
  | cons step rest ih =>
    simp only [List.cons_append, LeadsUp, ih]
    constructor
    . rintro ⟨hchild, middle, hinner, houter⟩
      exact ⟨middle, ⟨hchild, hinner⟩, houter⟩
    . rintro ⟨middle, ⟨hchild, hinner⟩, houter⟩
      exact ⟨hchild, middle, hinner, houter⟩

theorem leadsUp_append_cons {node top : Node} {inner outer : List Step} {step : Step} :
    node.LeadsUp (inner ++ step :: outer) top ↔
      ∃ child, node.LeadsUp inner child ∧ step.parent.children[step.childIndex]? = some child ∧
        step.parent.LeadsUp outer top :=
  leadsUp_append

/-- The last step that leads up to a node comes from one of its children. -/
theorem leadsUp_iff_last {node top : Node} {steps : List Step} :
    node.LeadsUp steps top ↔
      (steps = [] ∧ node = top) ∨
        ∃ inner i child, steps = inner ++ [⟨top, i⟩] ∧ top.children[i]? = some child ∧
          node.LeadsUp inner child := by
  constructor
  . intro h
    obtain rfl | ⟨inner, ⟨parent, i⟩, rfl⟩ := List.eq_nil_or_concat steps
    . exact .inl ⟨rfl, h⟩
    . rw [List.concat_eq_append] at h ⊢
      obtain ⟨child, hinner, hchild, rfl⟩ := leadsUp_append_cons.1 h
      exact .inr ⟨inner, i, child, rfl, hchild, hinner⟩
  . rintro (⟨rfl, rfl⟩ | ⟨inner, i, child, rfl, hchild, hinner⟩)
    . rfl
    . exact leadsUp_append_cons.2 ⟨child, hinner, hchild, rfl⟩

theorem LeadsUp.mem_preorder {node top : Node} {steps : List Step} (h : node.LeadsUp steps top) :
    node ∈ top.preorder := by
  induction steps generalizing node with
  | nil =>
    cases h
    exact mem_preorder_self _
  | cons step rest ih => exact mem_preorder_of_mem_children (ih h.2) (List.mem_of_getElem? h.1)

theorem LeadsUp.parent_mem_preorder {node top : Node} {steps : List Step}
    (h : node.LeadsUp steps top) : ∀ step ∈ steps, step.parent ∈ top.preorder := by
  induction steps generalizing node with
  | nil => simp
  | cons step rest ih => exact List.forall_mem_cons.2 ⟨h.2.mem_preorder, ih h.2⟩

end Node

namespace Place

/-! ### Places -/

mutual

theorem mem_below_iff {above : List Step} {node : Node} {place : Place} :
    place ∈ below above node ↔
      ∃ inner, place.above = inner ++ above ∧ place.node.LeadsUp inner node := by
  match node with
  | ⟨form, extent, trivia, designation, children⟩ =>
    rw [below, List.mem_cons, mem_forestBelow_iff]
    constructor
    . rintro (rfl | ⟨i, child, inner, hchild, habove, hinner⟩)
      . exact ⟨[], rfl, rfl⟩
      . rw [Nat.zero_add] at habove
        refine ⟨inner ++ [⟨⟨form, extent, trivia, designation, children⟩, i⟩], ?_, ?_⟩
        . rw [habove, List.append_assoc, List.singleton_append]
        . exact Node.leadsUp_append_cons.2 ⟨child, hinner, hchild, rfl⟩
    . rintro ⟨steps, habove, hsteps⟩
      obtain ⟨rfl, hnode⟩ | ⟨inner, i, child, rfl, hchild, hinner⟩ := Node.leadsUp_iff_last.1 hsteps
      . obtain ⟨_, _⟩ := place
        cases hnode
        cases habove
        exact .inl rfl
      . refine .inr ⟨i, child, inner, hchild, ?_, hinner⟩
        rw [habove, List.append_assoc, List.singleton_append, Nat.zero_add]

theorem mem_forestBelow_iff {parent : Node} {above : List Step} {childIndex : Nat}
    {children : List Node} {place : Place} :
    place ∈ forestBelow parent above childIndex children ↔
      ∃ i child inner, children[i]? = some child ∧
        place.above = inner ++ ⟨parent, childIndex + i⟩ :: above ∧
        place.node.LeadsUp inner child := by
  match children with
  | [] => simp [forestBelow]
  | first :: rest =>
    rw [forestBelow, List.mem_append, mem_below_iff, mem_forestBelow_iff]
    constructor
    . rintro (⟨inner, habove, hinner⟩ | ⟨i, child, inner, hchild, habove, hinner⟩)
      . exact ⟨0, first, inner, rfl, habove, hinner⟩
      . rw [Nat.add_assoc, Nat.add_comm 1 i] at habove
        exact ⟨i + 1, child, inner, hchild, habove, hinner⟩
    . rintro ⟨i, child, inner, hchild, habove, hinner⟩
      cases i with
      | zero =>
        cases hchild
        exact .inl ⟨inner, habove, hinner⟩
      | succ i =>
        rw [Nat.add_comm i 1, ← Nat.add_assoc] at habove
        exact .inr ⟨i, child, inner, hchild, habove, hinner⟩

end

/-- The places of a tree are its nodes with the ways from them to its root. -/
theorem mem_all_iff {root : Node} {place : Place} :
    place ∈ all root ↔ place.node.LeadsUp place.above root := by
  unfold all
  rw [mem_below_iff]
  constructor
  . rintro ⟨inner, habove, hinner⟩
    rw [List.append_nil] at habove
    rwa [habove]
  . intro h
    exact ⟨place.above, (List.append_nil _).symm, h⟩

end Place

namespace Node

/-! ### What runs with a node -/

theorem mem_forestLocalPreorder {other : Node} {nodes : List Node} :
    other ∈ forestLocalPreorder nodes ↔
      ∃ node ∈ nodes, node.isDeferred = false ∧ other ∈ node.localPreorder := by
  induction nodes with
  | nil => simp [forestLocalPreorder]
  | cons node rest ih =>
    rw [forestLocalPreorder]
    cases hdeferred : node.isDeferred <;> simp [ih, hdeferred]

theorem localPreorder_eq (node : Node) :
    node.localPreorder = node :: forestLocalPreorder node.children := by
  cases node
  rw [localPreorder]

theorem LeadsUp.isDeferred {node top : Node} {steps : List Step} (h : node.LeadsUp steps top)
    (hnode : node.isDeferred = false) (hsteps : ∀ step ∈ steps, step.parent.isDeferred = false) :
    top.isDeferred = false := by
  obtain ⟨rfl, rfl⟩ | ⟨inner, i, child, rfl, _, _⟩ := leadsUp_iff_last.1 h
  . exact hnode
  . exact hsteps ⟨top, i⟩ (List.mem_append_right _ (List.mem_singleton_self _))

/-- What runs with a node is reached from it without going into code that runs later. -/
theorem mem_localPreorder_iff {node other : Node} (hnode : node.isDeferred = false) :
    other ∈ node.localPreorder ↔ other.isDeferred = false ∧
      ∃ steps, other.LeadsUp steps node ∧ ∀ step ∈ steps, step.parent.isDeferred = false := by
  rw [localPreorder_eq, List.mem_cons, mem_forestLocalPreorder]
  constructor
  . rintro (rfl | ⟨child, hchild, hdeferred, hother⟩)
    . exact ⟨hnode, [], rfl, by simp⟩
    . -- The way from below ends at a child, where the last step is put behind it.
      have := size_le_of_mem hchild
      obtain ⟨hother, steps, hsteps, hnone⟩ := (mem_localPreorder_iff hdeferred).1 hother
      obtain ⟨i, hi⟩ := List.mem_iff_getElem?.1 hchild
      have hway : other.LeadsUp (steps ++ [⟨node, i⟩]) node :=
        leadsUp_iff_last.2 (.inr ⟨steps, i, child, rfl, hi, hsteps⟩)
      refine ⟨hother, _, hway, ?_⟩
      intro step hstep
      rcases List.mem_append.1 hstep with hstep | hstep
      . exact hnone step hstep
      . rwa [List.mem_singleton.1 hstep]
  . rintro ⟨hother, steps, hsteps, hnone⟩
    obtain ⟨rfl, rfl⟩ | ⟨inner, i, child, rfl, hchild, hinner⟩ := leadsUp_iff_last.1 hsteps
    . exact .inl rfl
    . have hmem := List.mem_of_getElem? hchild
      have := size_le_of_mem hmem
      have hinnerNone : ∀ step ∈ inner, step.parent.isDeferred = false := fun step hstep =>
        hnone step (List.mem_append_left _ hstep)
      have hdeferred := hinner.isDeferred hother hinnerNone
      exact .inr ⟨child, hmem, hdeferred,
        (mem_localPreorder_iff hdeferred).2 ⟨hother, inner, hinner, hinnerNone⟩⟩
termination_by node.size
decreasing_by
  all_goals
    rw [size_eq node]
    omega

end Node

/-! ### What comes before a place -/

namespace Place

/-- What comes before a place stands in a block around it, in front of the way to it. -/
theorem precededBy_iff {place : Place} {test : Node → Bool} :
    place.precededBy test = true ↔
      ∃ inner block i outer, place.above = inner ++ ⟨block, i⟩ :: outer ∧ block.kind = .block ∧
        (∀ step ∈ inner, step.parent.kind.isFunction = false) ∧
          ∃ j statement, j < i ∧ block.children[j]? = some statement ∧ test statement = true := by
  unfold precededBy
  generalize place.above = above
  induction above with
  | nil => simp [precededBy.go]
  | cons step rest ih =>
    rw [precededBy.go, Bool.or_eq_true, Bool.and_eq_true, Bool.and_eq_true, beq_iff_eq,
      Bool.not_eq_true', ih, List.any_eq_true]
    constructor
    . rintro (⟨hblock, statement, hmem, htest⟩ | ⟨hfunction, inner, block, i, outer, hrest, h⟩)
      . obtain ⟨j, hj⟩ := List.mem_iff_getElem?.1 hmem
        rw [List.getElem?_take] at hj
        split at hj
        . next hlt =>
          exact ⟨[], step.parent, step.childIndex, rest, rfl, hblock, by simp, j, statement, hlt, hj,
            htest⟩
        . cases hj
      . obtain ⟨hblock, hinner, hstatement⟩ := h
        refine ⟨step :: inner, block, i, outer, ?_, hblock, ?_, hstatement⟩
        . rw [hrest, List.cons_append]
        . exact List.forall_mem_cons.2 ⟨hfunction, hinner⟩
    . rintro ⟨inner, block, i, outer, habove, hblock, hinner, j, statement, hlt, hstatement, htest⟩
      cases inner with
      | nil =>
        cases habove
        refine .inl ⟨hblock, statement, ?_, htest⟩
        exact List.mem_of_getElem? (List.getElem?_take_of_lt hlt ▸ hstatement)
      | cons first inner =>
        cases habove
        rw [List.forall_mem_cons] at hinner
        exact .inr ⟨hinner.1, inner, block, i, outer, rfl, hblock, hinner.2, j, statement, hlt,
          hstatement, htest⟩

/-- The function around a place is found by going over steps that leave no function. -/
theorem function?_of_append {place : Place} {inner outer : List Step} (node : Node)
    (habove : place.above = inner ++ outer)
    (hinner : ∀ step ∈ inner, step.parent.kind.isFunction = false) :
    place.function? = (⟨node, outer⟩ : Place).function? := by
  unfold function? enclosing? ancestors
  rw [habove]
  clear habove
  induction inner with
  | nil => rfl
  | cons step rest ih =>
    rw [List.forall_mem_cons] at hinner
    rw [List.cons_append, ancestors.go, List.find?_cons_of_neg (by simp [hinner.1]), ih hinner.2]

end Place

end ThreadLint
