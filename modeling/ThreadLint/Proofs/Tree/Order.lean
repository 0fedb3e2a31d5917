import Mathlib.Data.List.Pairwise
import ThreadLint.Proofs.Tree.Place

/-!
This module contains how two nodes of a tree lie to each other: the later one in pre-order stands
below the earlier one or behind it. So two nodes never have the same characters of their own.
-/

namespace ThreadLint

namespace Node

/--
Whether another node stands below a node or lies behind it.
-/
def Precedes (node other : Node) : Prop :=
  other ∈ forestPreorder node.children ∨ node.extent.stop ≤ other.extent.start

/--
Whether an extent of a node has a character that is no part of the children of the node.
-/
structure Owns (node : Node) (extent : Extent) : Prop where
  start_le : node.extent.start ≤ extent.start
  stop_le : extent.stop ≤ node.extent.stop
  own : ∃ own : Extent, own.start < own.stop ∧ extent.start ≤ own.start ∧
    own.stop ≤ extent.stop ∧ Parser.Clear node.children own

end Node

namespace Parser

variable {tokens : Array Token}

theorem Kept.inside_of_mem {first stop : Nat} {node other : Node} (h : Kept tokens first stop node)
    (hmem : other ∈ node.preorder) (hkind : other.kind ≠ .otherStmt) :
    Inside tokens first stop other := by
  obtain ⟨first', stop', hfirst, hstop, hother⟩ := h.kept_of_mem_preorder hmem
  exact ⟨first', stop', hfirst, hstop, hother.resolve_right fun hmissing => hkind hmissing.1.1⟩

theorem Laid.inside_of_mem {lo hi : Nat} {nodes : List Node} {other : Node}
    (h : Laid tokens lo hi nodes) (hmem : other ∈ Node.forestPreorder nodes)
    (hkind : other.kind ≠ .otherStmt) : Inside tokens lo hi other := by
  obtain ⟨first', stop', hfirst, hstop, hother⟩ := h.kept_of_mem_preorder hmem
  exact ⟨first', stop', hfirst, hstop, hother.resolve_right fun hmissing => hkind hmissing.1.1⟩

section

variable [Lawful tokens]

theorem Inside.stop_le {lo hi : Nat} {node : Node} (h : Inside tokens lo hi node)
    (hhi : hi ≤ last tokens) : node.extent.stop ≤ startAt tokens hi := by
  obtain ⟨first, stop, _, hstop, h⟩ := h
  have hnode : node.extent.stop ≤ startAt tokens stop := Kept.stop_le (.inl h)
  exact Nat.le_trans hnode (start_le_start hstop hhi)

theorem Inside.start_le {lo hi : Nat} {node : Node} (h : Inside tokens lo hi node) :
    startAt tokens lo ≤ node.extent.start := by
  obtain ⟨first, stop, hfirst, _, h⟩ := h
  obtain ⟨hlt, hlast, heq, _⟩ := whole_iff.1 h
  rw [heq]
  exact start_le_start hfirst (by omega)

/-- What stands below a node lies inside it, unless it is missing. -/
theorem Kept.contains {first stop : Nat} {node other : Node} (h : Kept tokens first stop node)
    (hmem : other ∈ node.preorder) (hkind : other.kind ≠ .otherStmt) :
    node.extent.start ≤ other.extent.start ∧ other.extent.stop ≤ node.extent.stop := by
  obtain ⟨first', stop', hfirst', hstop', hother⟩ := h.inside_of_mem hmem hkind
  obtain ⟨hlt, hlast, heq, _⟩ := whole_iff.1 hother
  cases h with
  | inl h =>
    obtain ⟨hlt', hlast', heq', _⟩ := whole_iff.1 h
    rw [heq, heq']
    exact ⟨start_le_start hfirst' (by omega), stop_le_stop (by omega) (by omega)⟩
  | inr h => omega

end

/--
Whether two nodes are in order, unless one of them is missing.
-/
def InOrder (node other : Node) : Prop :=
  node.kind ≠ .otherStmt → other.kind ≠ .otherStmt → node.Precedes other

mutual

theorem Kept.pairwise_inOrder [Lawful tokens] {first stop : Nat} {node : Node}
    (h : Kept tokens first stop node) : node.preorder.Pairwise InOrder := by
  match node with
  | ⟨form, extent, trivia, designation, children⟩ =>
    rw [Node.preorder]
    refine List.Pairwise.cons ?_ (Laid.pairwise_inOrder h.children_laid h.le.2)
    intro other hother _ _
    exact .inl hother

theorem Laid.pairwise_inOrder [Lawful tokens] {lo hi : Nat} {nodes : List Node}
    (h : Laid tokens lo hi nodes) (hhi : hi ≤ last tokens) :
    (Node.forestPreorder nodes).Pairwise InOrder := by
  match nodes with
  | [] => exact .nil
  | node :: rest =>
    rw [laid_cons_iff] at h
    obtain ⟨first, stop, _, hnode, hrest⟩ := h
    rw [Node.forestPreorder, List.pairwise_append]
    refine ⟨Kept.pairwise_inOrder hnode, Laid.pairwise_inOrder hrest hhi, ?_⟩
    intro front hfront back hback hfrontKind hbackKind
    have hstop := (Kept.inside_of_mem hnode hfront hfrontKind).stop_le hnode.le.2
    have hstart := (Laid.inside_of_mem hrest hback hbackKind).start_le
    exact .inr (Nat.le_trans hstop hstart)

end

/-! ### Extents with characters of their own -/

section

variable [Lawful tokens] {node other : Node}

theorem Located.ne_of_precedes {extent extent' : Extent} (hnode : Located tokens node)
    (hkind : other.kind ≠ .otherStmt) (howns : node.Owns extent) (howns' : other.Owns extent')
    (h : node.Precedes other) : extent ≠ extent' := by
  rintro rfl
  obtain ⟨own, hlt, hstart, hstop, hclear⟩ := howns.own
  have := howns.stop_le
  have := howns'.start_le
  have := howns'.stop_le
  cases h with
  | inl hbelow =>
    obtain ⟨child, hchild, hmem⟩ := Node.mem_forestPreorder.1 hbelow
    obtain ⟨_, _, hkept⟩ := hnode
    obtain ⟨_, _, _, _, hkept⟩ := hkept.children_laid.kept_of_mem hchild
    have := hkept.contains hmem hkind
    have := hclear child hchild
    omega
  | inr hbehind => omega

/-- What is true of two nodes is true of a child of each, unless one child is the other node. -/
theorem Located.precedes_of_mem_children {home home' : Node} (hnode : Located tokens node)
    (hother : Located tokens other) (hkind : other.kind ≠ .otherStmt)
    (hhome : home ∈ node.children) (hhome' : home' ∈ other.children)
    (hhomeKind : home.kind ≠ other.kind ∧ home.kind ≠ .otherStmt ∧ home'.kind ≠ .otherStmt)
    (h : node.Precedes other) : home.Precedes home' ∨ home'.Precedes home := by
  obtain ⟨_, _, hnode⟩ := hnode
  obtain ⟨_, _, hother⟩ := hother
  have hself : home ∈ node.preorder := Node.mem_preorder_of_mem_children node.mem_preorder_self hhome
  have hself' : home' ∈ other.preorder :=
    Node.mem_preorder_of_mem_children other.mem_preorder_self hhome'
  have hinside := hnode.contains hself hhomeKind.2.1
  have hinside' := hother.contains hself' hhomeKind.2.2
  cases h with
  | inl hbelow =>
    obtain ⟨child, hchild, hmem⟩ := Node.mem_forestPreorder.1 hbelow
    obtain ⟨_, _, _, _, hkept⟩ := hnode.children_laid.kept_of_mem hchild
    have hcontains := hkept.contains hmem hkind
    by_cases heq : home = child
    . rw [← heq, Node.preorder_eq, List.mem_cons] at hmem
      have hmem := hmem.resolve_left fun heq => hhomeKind.1 (by rw [heq])
      exact .inl (.inl (Node.forestPreorder_subset hmem home' hself'))
    . let sides (child other : Node) : Prop :=
        child.extent.stop ≤ other.extent.start ∨ other.extent.stop ≤ child.extent.start
      have : Std.Symm sides := ⟨fun _ _ h => h.symm⟩
      have hpairwise : node.children.Pairwise sides := hnode.children_laid.pairwise.imp .inl
      have hsides : sides home child := hpairwise.forall hhome hchild heq
      cases hsides with
      | inl hfront => exact .inl (.inr (by omega))
      | inr hback => exact .inr (.inr (by omega))
  | inr hbehind => exact .inl (.inr (by omega))

end

end Parser

/-! ### The places of a tree -/

namespace Place

mutual

theorem map_node_below (above : List Step) (node : Node) :
    (below above node).map Place.node = node.preorder := by
  match node with
  | ⟨form, extent, trivia, designation, children⟩ =>
    rw [below, Node.preorder, List.map_cons, map_node_forestBelow]

theorem map_node_forestBelow (parent : Node) (above : List Step) (childIndex : Nat)
    (children : List Node) :
    (forestBelow parent above childIndex children).map Place.node =
      Node.forestPreorder children := by
  match children with
  | [] => rfl
  | child :: rest =>
    rw [forestBelow, Node.forestPreorder, List.map_append, map_node_below, map_node_forestBelow]

end

theorem map_node_all (root : Node) : (all root).map node = root.preorder :=
  map_node_below [] root

theorem exists_of_mem_preorder {root node : Node} (h : node ∈ root.preorder) :
    ∃ place ∈ all root, place.node = node := by
  rw [← map_node_all] at h
  exact List.mem_map.1 h

end Place

theorem Sited.pairwise_inOrder {source : Source} {tokens : List Token} {root : Node}
    (h : Sited source tokens root) :
    (Place.all root).Pairwise fun place other => Parser.InOrder place.node other.node := by
  have := h.lawful
  rw [← List.pairwise_map, Place.map_node_all, Node.preorder_eq]
  refine List.Pairwise.cons ?_ (h.laid.pairwise_inOrder (Nat.le_refl _))
  intro other hother _ _
  exact .inl hother

/-- What stands below a node of a tree lies inside it, unless it is missing. -/
theorem Sited.extent_le_of_mem_preorder {source : Source} {tokens : List Token}
    {root node other : Node} (h : Sited source tokens root) (hmem : node ∈ root.preorder)
    (hother : other ∈ node.preorder) (hkind : other.kind ≠ .otherStmt) :
    node.extent.start ≤ other.extent.start ∧ other.extent.stop ≤ node.extent.stop := by
  have := h.lawful
  cases h.mem_preorder hmem with
  | inl heq =>
    rw [heq] at hother ⊢
    have := (h.extent_le hother).2
    rw [h.root_eq]
    exact ⟨Nat.zero_le _, this⟩
  | inr hlocated =>
    obtain ⟨_, _, hkept⟩ := hlocated
    exact hkept.contains hother hkind

/-- The nodes at two places never have the same characters of their own. -/
theorem Sited.place_eq_of_owns {source : Source} {tokens : List Token} {root : Node}
    (h : Sited source tokens root) {place other : Place} (hplace : place ∈ Place.all root)
    (hother : other ∈ Place.all root)
    (hkind : place.node.kind ≠ .compilationUnit ∧ place.node.kind ≠ .otherStmt)
    (hkind' : other.node.kind ≠ .compilationUnit ∧ other.node.kind ≠ .otherStmt) {extent : Extent}
    (howns : place.node.Owns extent) (howns' : other.node.Owns extent) : place = other := by
  have := h.lawful
  have hlocated {place : Place} (hplace : place ∈ Place.all root)
      (hkind : place.node.kind ≠ .compilationUnit) : Parser.Located tokens.toArray place.node :=
    h.located (Place.within_of_mem_all hplace).node hkind
  let related (place other : Place) : Prop :=
    Parser.InOrder place.node other.node ∨ Parser.InOrder other.node place.node
  have : Std.Symm related := ⟨fun _ _ h => h.symm⟩
  have hpairwise : (Place.all root).Pairwise related := h.pairwise_inOrder.imp .inl
  by_contra hne
  -- Of two places one comes first, and then one of its own tokens is not among those of the other.
  cases hpairwise.forall hplace hother hne with
  | inl horder =>
    exact (hlocated hplace hkind.1).ne_of_precedes hkind'.2 howns howns' (horder hkind.2 hkind'.2) rfl
  | inr horder =>
    exact (hlocated hother hkind'.1).ne_of_precedes hkind.2 howns' howns (horder hkind'.2 hkind.2) rfl

/-- Two nodes never have the same characters of their own. -/
theorem Sited.ne_of_owns {source : Source} {tokens : List Token} {root node other : Node}
    (h : Sited source tokens root) (hmem : node ∈ root.preorder) (hmem' : other ∈ root.preorder)
    (hkind : node.kind ≠ .compilationUnit ∧ node.kind ≠ .otherStmt)
    (hkind' : other.kind ≠ .compilationUnit ∧ other.kind ≠ .otherStmt) (hne : node ≠ other)
    {extent extent' : Extent} (howns : node.Owns extent) (howns' : other.Owns extent') :
    extent ≠ extent' := by
  rintro rfl
  obtain ⟨place, hplace, rfl⟩ := Place.exists_of_mem_preorder hmem
  obtain ⟨place', hplace', rfl⟩ := Place.exists_of_mem_preorder hmem'
  apply hne
  rw [h.place_eq_of_owns hplace hplace' hkind hkind' howns howns']

end ThreadLint
