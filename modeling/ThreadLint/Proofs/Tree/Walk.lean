import Mathlib.Data.List.Nodup
import ThreadLint.Proofs.Tree.Order
import ThreadLint.Proofs.Tree.Way

/-!
This module contains what a walk through a syntax tree comes to. While it goes on, the nodes that are
still to be visited are those of the trees on its stack, so a walk visits each node of a tree once and
in pre-order, and in the tree of a text it never steps back.
-/

namespace ThreadLint

namespace Node

/-! ### Stacks -/

/-- What is visited from a stack on are the trees on it, one after the other. -/
theorem visit_eq_flatMap {enters : Node → Bool} {order : Node → List Node}
    (h : ∀ node, order node = node :: (node.children.filter enters).flatMap order)
    (stack : List Node) : visit enters stack = stack.flatMap order := by
  fun_induction visit enters stack with
  | case1 => rfl
  | case2 node rest ih =>
    rw [ih, pushed_eq, List.flatMap_append, List.flatMap_cons, h node, List.cons_append]

theorem forestPreorder_eq (nodes : List Node) : forestPreorder nodes = nodes.flatMap preorder := by
  induction nodes with
  | nil => rfl
  | cons node rest ih => rw [forestPreorder, ih, List.flatMap_cons]

theorem forestLocalPreorder_eq (nodes : List Node) :
    forestLocalPreorder nodes =
      (nodes.filter fun child => !child.isDeferred).flatMap localPreorder := by
  induction nodes with
  | nil => rfl
  | cons node rest ih =>
    rw [forestLocalPreorder, ih]
    cases hdeferred : node.isDeferred <;> simp [hdeferred]

theorem walk_eq (node : Node) : node.walk = node.preorder := by
  have hvisit : node.walk = [node].flatMap preorder := by
    apply visit_eq_flatMap
    intro node
    rw [List.filter_true, ← forestPreorder_eq, preorder_eq]
  rw [hvisit, List.flatMap_singleton]

theorem walkLocal_eq (node : Node) : node.walkLocal = node.localPreorder := by
  have hvisit : node.walkLocal = [node].flatMap localPreorder := by
    apply visit_eq_flatMap
    intro node
    rw [← forestLocalPreorder_eq, localPreorder_eq]
  rw [hvisit, List.flatMap_singleton]

theorem flatMap_walk (nodes : List Node) : nodes.flatMap walk = forestPreorder nodes := by
  rw [forestPreorder_eq, List.flatMap_congr fun node _ => walk_eq node]

end Node

/-! ### Places that are entered -/

namespace Place

/--
Whether a place is reached from the root of its tree without going into a lambda or local function on
the way.
-/
def isEntered (place : Place) : Bool :=
  go place.node place.above
where
  go (node : Node) : List Step → Bool
    | [] => true
    | step :: rest => !node.isDeferred && go step.parent rest

mutual

/-- Below a place that is entered, those places are that a local walk visits; else there are none. -/
theorem filter_below (above : List Step) (node : Node) :
    ((below above node).filter isEntered).map Place.node =
      if isEntered ⟨node, above⟩ then node.localPreorder else [] := by
  match node with
  | ⟨form, extent, trivia, designation, children⟩ =>
    rw [below, List.filter_cons, Node.localPreorder]
    have hbelow := filter_forestBelow ⟨form, extent, trivia, designation, children⟩ above 0 children
    split
    . next hentered => rw [List.map_cons, hbelow, if_pos hentered]
    . next hentered => rw [hbelow, if_neg hentered]

theorem filter_forestBelow (parent : Node) (above : List Step) (childIndex : Nat)
    (children : List Node) :
    ((forestBelow parent above childIndex children).filter isEntered).map Place.node =
      if isEntered ⟨parent, above⟩ then Node.forestLocalPreorder children else [] := by
  match children with
  | [] => rw [forestBelow, Node.forestLocalPreorder, ite_self]; rfl
  | child :: rest =>
    have hchild : isEntered ⟨child, ⟨parent, childIndex⟩ :: above⟩ =
        (!child.isDeferred && isEntered ⟨parent, above⟩) := rfl
    rw [forestBelow, List.filter_append, List.map_append, filter_below, filter_forestBelow, hchild,
      Node.forestLocalPreorder]
    cases child.isDeferred <;> cases isEntered ⟨parent, above⟩ <;> rfl

end

theorem filter_all (root : Node) :
    ((all root).filter isEntered).map node = root.localPreorder := by
  rw [all, filter_below]
  exact if_pos rfl

/-! ### Places are told apart by the steps to them -/

mutual

theorem nodup_below (above : List Step) (node : Node) : (below above node).Nodup := by
  match node with
  | ⟨form, extent, trivia, designation, children⟩ =>
    rw [below, List.nodup_cons]
    refine ⟨?_, nodup_forestBelow _ above 0 children⟩
    rw [mem_forestBelow_iff]
    rintro ⟨i, child, inner, _, habove, _⟩
    have hlength := congrArg List.length habove
    rw [List.length_append, List.length_cons] at hlength
    dsimp only at hlength
    omega

theorem nodup_forestBelow (parent : Node) (above : List Step) (childIndex : Nat)
    (children : List Node) : (forestBelow parent above childIndex children).Nodup := by
  match children with
  | [] => exact .nil
  | child :: rest =>
    rw [forestBelow, List.nodup_append]
    refine ⟨nodup_below _ child, nodup_forestBelow parent above _ rest, ?_⟩
    rintro place hplace _ hother rfl
    -- The step that the way to a place takes from the parent says which child it comes from.
    obtain ⟨inner, habove, _⟩ := mem_below_iff.1 hplace
    obtain ⟨i, other, inner', _, habove', _⟩ := mem_forestBelow_iff.1 hother
    rw [habove] at habove'
    have hsteps := (List.append_inj' habove' rfl).2
    rw [List.cons.injEq, Step.mk.injEq] at hsteps
    omega

end

theorem nodup_all (root : Node) : (all root).Nodup :=
  nodup_below [] root

end Place

/-! ### The order of positions -/

namespace Node

/--
Whether a node begins no later than another one.
-/
def BeginsBy (node other : Node) : Prop :=
  node.extent.start ≤ other.extent.start

instance (node other : Node) : Decidable (node.BeginsBy other) :=
  inferInstanceAs (Decidable (_ ≤ _))

mutual

theorem localPreorder_sublist (node : Node) : node.localPreorder.Sublist node.preorder := by
  match node with
  | ⟨form, extent, trivia, designation, children⟩ =>
    rw [localPreorder, preorder]
    exact (forestLocalPreorder_sublist children).cons_cons _

theorem forestLocalPreorder_sublist (nodes : List Node) :
    (forestLocalPreorder nodes).Sublist (forestPreorder nodes) := by
  match nodes with
  | [] => exact .slnil
  | node :: rest =>
    rw [forestLocalPreorder, forestPreorder]
    split
    . exact (forestLocalPreorder_sublist rest).trans (List.sublist_append_right _ _)
    . exact (localPreorder_sublist node).append (forestLocalPreorder_sublist rest)

end

end Node

namespace Parser

variable {tokens : Array Token}

theorem Kept.beginsBy [Lawful tokens] {first stop first' stop' : Nat} {node other : Node}
    (h : Kept tokens first stop node) (hother : Kept tokens first' stop' other)
    (hle : first ≤ first') : node.BeginsBy other := by
  have := hother.le
  unfold Node.BeginsBy
  rw [h.start_eq, hother.start_eq]
  exact start_le_start hle (by omega)

mutual

theorem Kept.pairwise_beginsBy [Lawful tokens] {first stop : Nat} {node : Node}
    (h : Kept tokens first stop node) : node.preorder.Pairwise Node.BeginsBy := by
  match node with
  | ⟨form, extent, trivia, designation, children⟩ =>
    rw [Node.preorder]
    refine List.Pairwise.cons ?_ (Laid.pairwise_beginsBy h.children_laid)
    intro other hother
    obtain ⟨first', stop', hfirst, _, hkept⟩ := h.children_laid.kept_of_mem_preorder hother
    exact h.beginsBy hkept hfirst

theorem Laid.pairwise_beginsBy [Lawful tokens] {lo hi : Nat} {nodes : List Node}
    (h : Laid tokens lo hi nodes) : (Node.forestPreorder nodes).Pairwise Node.BeginsBy := by
  match nodes with
  | [] => exact .nil
  | node :: rest =>
    rw [laid_cons_iff] at h
    obtain ⟨first, stop, _, hnode, hrest⟩ := h
    rw [Node.forestPreorder, List.pairwise_append]
    refine ⟨Kept.pairwise_beginsBy hnode, Laid.pairwise_beginsBy hrest, ?_⟩
    intro front hfront back hback
    obtain ⟨_, stop', _, hstop, hfront⟩ := hnode.kept_of_mem_preorder hfront
    obtain ⟨first', _, hfirst, _, hback⟩ := hrest.kept_of_mem_preorder hback
    have := hfront.le
    exact hfront.beginsBy hback (by omega)

end

end Parser

theorem Sited.pairwise_beginsBy {source : Source} {tokens : List Token} {root node : Node}
    (h : Sited source tokens root) (hmem : node ∈ root.preorder) :
    node.preorder.Pairwise Node.BeginsBy := by
  have := h.lawful
  cases h.mem_preorder hmem with
  | inl heq =>
    rw [heq, Node.preorder_eq]
    refine List.Pairwise.cons ?_ h.laid.pairwise_beginsBy
    intro other _
    unfold Node.BeginsBy
    rw [h.root_eq]
    exact Nat.zero_le _
  | inr hlocated =>
    obtain ⟨_, _, hkept⟩ := hlocated
    exact hkept.pairwise_beginsBy

/--
A walk visits the nodes of a tree in pre-order, once for each place of the tree. A local walk visits
those of them that are reached without going into a lambda or local function, in the same order. In
the tree of a text, both go through the nodes in the order in which these begin.
-/
theorem Node.walk_exact (node : Node) :
    (node.walk = node.preorder ∧ node.walk = (Place.all node).map Place.node ∧
      (Place.all node).Nodup ∧
      ∀ place, place ∈ Place.all node ↔ place.node.LeadsUp place.above node) ∧
    (node.walkLocal = node.localPreorder ∧
      node.walkLocal = ((Place.all node).filter Place.isEntered).map Place.node) ∧
    ∀ text path parsed, parse text path = .ok parsed → node ∈ parsed.root.preorder →
      node.walk.Pairwise Node.BeginsBy ∧ node.walkLocal.Pairwise Node.BeginsBy := by
  rw [walk_eq, walkLocal_eq, Place.map_node_all, Place.filter_all]
  refine ⟨⟨rfl, rfl, Place.nodup_all node, fun _ => Place.mem_all_iff⟩, ⟨rfl, rfl⟩, ?_⟩
  intro text path parsed hparsed hmem
  obtain ⟨_, tokens, _, hsited⟩ := parse_sited hparsed
  have hpairwise := hsited.pairwise_beginsBy hmem
  exact ⟨hpairwise, hpairwise.sublist (localPreorder_sublist node)⟩

/-- A walk goes on in a lambda that a local walk passes by. -/
theorem Node.walk_exact_lambda :
    ∃ parsed method, parse "class C \x7b void M() \x7b F(() => G()); \x7d \x7d" none = .ok parsed ∧
      method ∈ parsed.root.preorder ∧ method.walkLocal.length < method.walk.length ∧
      method.walk.Pairwise Node.BeginsBy ∧ method.walkLocal.Pairwise Node.BeginsBy := by
  have hrun : (parse "class C \x7b void M() \x7b F(() => G()); \x7d \x7d" none).toOption.map
      (fun parsed => parsed.root.preorder.any fun node =>
        node.kind == .methodDecl && decide (node.walkLocal.length < node.walk.length)) =
        some true := by
    decide +kernel
  obtain ⟨parsed, hparsed, hany⟩ := Option.map_eq_some_iff.1 hrun
  obtain ⟨method, hmem, hmethod⟩ := List.any_eq_true.1 hany
  rw [Bool.and_eq_true, decide_eq_true_eq] at hmethod
  have hok := eq_ok_of_toOption hparsed
  exact ⟨parsed, method, hok, hmem, hmethod.2, (walk_exact method).2.2 _ _ parsed hok hmem⟩

end ThreadLint
