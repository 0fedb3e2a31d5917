import ThreadLint.Proofs.Tree.Placement
import ThreadLint.Tree.Place

/-!
This module contains that all that is seen from a place of a tree belongs to that tree: its node, the
parts of it, and the nodes around it.
-/

namespace ThreadLint

namespace Node

theorem preorder_eq (node : Node) : node.preorder = node :: forestPreorder node.children := by
  cases node
  rw [preorder]

theorem mem_preorder_self (node : Node) : node ∈ node.preorder := by
  rw [preorder_eq]
  apply List.mem_cons_self

theorem mem_forestPreorder {other : Node} {nodes : List Node} :
    other ∈ forestPreorder nodes ↔ ∃ node ∈ nodes, other ∈ node.preorder := by
  induction nodes with
  | nil => simp [forestPreorder]
  | cons node rest ih => simp [forestPreorder, ih]

mutual

theorem preorder_subset {root node : Node} (h : node ∈ root.preorder) :
    ∀ other ∈ node.preorder, other ∈ root.preorder := by
  intro other hother
  match root with
  | ⟨form, extent, trivia, designation, children⟩ =>
    rw [preorder, List.mem_cons] at h
    cases h with
    | inl heq =>
      rw [← heq]
      exact hother
    | inr hmem =>
      rw [preorder, List.mem_cons]
      exact .inr (forestPreorder_subset hmem other hother)

theorem forestPreorder_subset {nodes : List Node} {node : Node} (h : node ∈ forestPreorder nodes) :
    ∀ other ∈ node.preorder, other ∈ forestPreorder nodes := by
  intro other hother
  match nodes with
  | [] => simp [forestPreorder] at h
  | first :: rest =>
    rw [forestPreorder, List.mem_append] at h ⊢
    cases h with
    | inl hmem => exact .inl (preorder_subset hmem other hother)
    | inr hmem => exact .inr (forestPreorder_subset hmem other hother)

end

theorem mem_preorder_of_mem_children {root node child : Node} (h : node ∈ root.preorder)
    (hchild : child ∈ node.children) : child ∈ root.preorder := by
  apply preorder_subset h
  rw [preorder_eq, List.mem_cons, mem_forestPreorder]
  exact .inr ⟨child, hchild, child.mem_preorder_self⟩

end Node

namespace Place

/--
Whether a place is one of a tree.
-/
structure Within (root : Node) (place : Place) : Prop where
  node : place.node ∈ root.preorder
  above : ∀ step ∈ place.above, step.parent ∈ root.preorder

mutual

theorem within_of_mem_below {root node : Node} {above : List Step} (hnode : node ∈ root.preorder)
    (habove : ∀ step ∈ above, step.parent ∈ root.preorder) :
    ∀ place ∈ below above node, place.Within root := by
  intro place hplace
  match node with
  | ⟨form, extent, trivia, designation, children⟩ =>
    rw [below, List.mem_cons] at hplace
    cases hplace with
    | inl heq =>
      rw [heq]
      exact ⟨hnode, habove⟩
    | inr hmem =>
      refine within_of_mem_forestBelow hnode habove ?_ place hmem
      intro child hchild
      exact Node.mem_preorder_of_mem_children hnode hchild

theorem within_of_mem_forestBelow {root parent : Node} {above : List Step} {childIndex : Nat}
    {children : List Node} (hparent : parent ∈ root.preorder)
    (habove : ∀ step ∈ above, step.parent ∈ root.preorder)
    (hchildren : ∀ child ∈ children, child ∈ root.preorder) :
    ∀ place ∈ forestBelow parent above childIndex children, place.Within root := by
  intro place hplace
  match children with
  | [] => simp [forestBelow] at hplace
  | child :: rest =>
    rw [forestBelow, List.mem_append] at hplace
    cases hplace with
    | inl hmem =>
      refine within_of_mem_below (hchildren child List.mem_cons_self) ?_ place hmem
      intro step hstep
      rw [List.mem_cons] at hstep
      cases hstep with
      | inl heq =>
        rw [heq]
        exact hparent
      | inr hstep => exact habove step hstep
    | inr hmem =>
      refine within_of_mem_forestBelow hparent habove ?_ place hmem
      intro child hchild
      exact hchildren child (List.mem_cons_of_mem _ hchild)

end

theorem within_of_mem_all {root : Node} {place : Place} (h : place ∈ all root) :
    place.Within root := by
  refine within_of_mem_below root.mem_preorder_self ?_ place h
  simp

mutual

theorem mem_preorder_of_mem_below {node : Node} {above : List Step}
    (habove : ∀ step ∈ above, node ∈ step.parent.preorder) :
    ∀ place ∈ below above node, ∀ step ∈ place.above, place.node ∈ step.parent.preorder := by
  intro place hplace
  match node with
  | ⟨form, extent, trivia, designation, children⟩ =>
    rw [below, List.mem_cons] at hplace
    cases hplace with
    | inl heq =>
      rw [heq]
      exact habove
    | inr hmem => exact mem_preorder_of_mem_forestBelow habove (fun _ h => h) place hmem

theorem mem_preorder_of_mem_forestBelow {parent : Node} {above : List Step} {childIndex : Nat}
    {children : List Node} (habove : ∀ step ∈ above, parent ∈ step.parent.preorder)
    (hchildren : ∀ child ∈ children, child ∈ parent.children) :
    ∀ place ∈ forestBelow parent above childIndex children, ∀ step ∈ place.above,
      place.node ∈ step.parent.preorder := by
  intro place hplace
  match children with
  | [] => simp [forestBelow] at hplace
  | child :: rest =>
    rw [forestBelow, List.mem_append] at hplace
    have hchild := hchildren child List.mem_cons_self
    cases hplace with
    | inl hmem =>
      refine mem_preorder_of_mem_below ?_ place hmem
      intro step hstep
      rw [List.mem_cons] at hstep
      cases hstep with
      | inl heq =>
        rw [heq]
        exact Node.mem_preorder_of_mem_children parent.mem_preorder_self hchild
      | inr hstep => exact Node.mem_preorder_of_mem_children (habove step hstep) hchild
    | inr hmem =>
      refine mem_preorder_of_mem_forestBelow habove ?_ place hmem
      exact fun other hother => hchildren other (List.mem_cons_of_mem _ hother)

end

/-- The node of a place stands below all nodes on the way from it to the root. -/
theorem mem_preorder_of_mem_above {root : Node} {place : Place} (h : place ∈ all root) :
    ∀ step ∈ place.above, place.node ∈ step.parent.preorder := by
  refine mem_preorder_of_mem_below ?_ place h
  simp

theorem exists_step_of_mem_ancestors {place ancestor : Place} (h : ancestor ∈ place.ancestors) :
    ∃ step ∈ place.above, step.parent = ancestor.node := by
  unfold ancestors at h
  generalize place.above = above at h ⊢
  induction above with
  | nil => cases h
  | cons step rest ih =>
    rw [ancestors.go, List.mem_cons] at h
    cases h with
    | inl heq => exact ⟨step, List.mem_cons_self, by rw [heq]⟩
    | inr hmem =>
      obtain ⟨other, hother, heq⟩ := ih hmem
      exact ⟨other, List.mem_cons_of_mem _ hother, heq⟩

theorem mem_forestBelow_of_child {parent : Node} {above : List Step} {children : List Node}
    {child : Node} {childIndex i : Nat} (h : children[i]? = some child) :
    ⟨child, ⟨parent, childIndex + i⟩ :: above⟩ ∈ forestBelow parent above childIndex children := by
  induction children generalizing childIndex i with
  | nil => cases h
  | cons first rest ih =>
    rw [forestBelow, List.mem_append]
    cases i with
    | zero =>
      cases h
      cases child
      rw [below]
      exact .inl List.mem_cons_self
    | succ i =>
      rw [List.getElem?_cons_succ] at h
      have hmem : ⟨child, ⟨parent, childIndex + 1 + i⟩ :: above⟩ ∈
          forestBelow parent above (childIndex + 1) rest := ih h
      rw [Nat.add_assoc, Nat.add_comm 1 i] at hmem
      exact .inr hmem

mutual

theorem mem_below_of_child {above : List Step} {node : Node} {place : Place}
    (h : place ∈ below above node) {i : Nat} {child : Node}
    (hchild : place.node.children[i]? = some child) :
    ⟨child, ⟨place.node, i⟩ :: place.above⟩ ∈ below above node := by
  match node with
  | ⟨form, extent, trivia, designation, children⟩ =>
    rw [below, List.mem_cons] at h ⊢
    cases h with
    | inl heq =>
      subst heq
      have hmem : ⟨child, ⟨⟨form, extent, trivia, designation, children⟩, 0 + i⟩ :: above⟩ ∈
          forestBelow ⟨form, extent, trivia, designation, children⟩ above 0 children :=
        mem_forestBelow_of_child hchild
      rw [Nat.zero_add] at hmem
      exact .inr hmem
    | inr hmem => exact .inr (mem_forestBelow_of_mem hmem hchild)

theorem mem_forestBelow_of_mem {parent : Node} {above : List Step} {childIndex : Nat}
    {children : List Node} {place : Place}
    (h : place ∈ forestBelow parent above childIndex children) {i : Nat} {child : Node}
    (hchild : place.node.children[i]? = some child) :
    ⟨child, ⟨place.node, i⟩ :: place.above⟩ ∈ forestBelow parent above childIndex children := by
  match children with
  | [] => simp [forestBelow] at h
  | first :: rest =>
    rw [forestBelow, List.mem_append] at h ⊢
    cases h with
    | inl hmem => exact .inl (mem_below_of_child hmem hchild)
    | inr hmem => exact .inr (mem_forestBelow_of_mem hmem hchild)

end

/-- The places of a tree are closed under going down. -/
theorem mem_all_of_child {root : Node} {place : Place} (h : place ∈ all root) {i : Nat} {child : Node}
    (hchild : place.node.children[i]? = some child) :
    ⟨child, ⟨place.node, i⟩ :: place.above⟩ ∈ all root :=
  mem_below_of_child h hchild

theorem Within.of_mem_ancestors {root : Node} {place ancestor : Place} (h : place.Within root)
    (hmem : ancestor ∈ place.ancestors) : ancestor.Within root := by
  have hgo {above : List Step} (habove : ∀ step ∈ above, step.parent ∈ root.preorder) :
      ∀ ancestor ∈ ancestors.go above, ancestor.Within root := by
    induction above with
    | nil => simp [ancestors.go]
    | cons step rest ih =>
      intro ancestor hmem
      rw [ancestors.go, List.mem_cons] at hmem
      have hrest : ∀ step ∈ rest, step.parent ∈ root.preorder := fun step hstep =>
        habove step (List.mem_cons_of_mem _ hstep)
      cases hmem with
      | inl heq =>
        rw [heq]
        exact ⟨habove step List.mem_cons_self, hrest⟩
      | inr hmem => exact ih hrest ancestor hmem
  exact hgo h.above ancestor hmem

theorem Within.of_type? {root : Node} {place owner : Place} (h : place.Within root)
    (howner : place.type? = some owner) : owner.Within root := by
  unfold type? enclosing? at howner
  exact h.of_mem_ancestors (List.mem_of_find?_eq_some howner)

theorem Within.of_parent? {root : Node} {place parent : Place} (h : place.Within root)
    (hparent : place.parent? = some parent) : parent.Within root := by
  unfold parent? at hparent
  split at hparent
  . simp at hparent
  . next step rest habove =>
    cases hparent
    have := h.above
    rw [habove] at this
    exact ⟨this step List.mem_cons_self, fun step hstep => this step (List.mem_cons_of_mem _ hstep)⟩

end Place

end ThreadLint
