import Mathlib.Data.List.Perm.Basic
import ThreadLint.Grammar
import ThreadLint.Presence
import ThreadLint.Proofs.Except
import ThreadLint.Proofs.Totality
import ThreadLint.Proofs.Tree.Walk

/-!
This module contains how the first use of a variable in the order in which nodes are visited relates
to the first one in the order in which they run. The two orders differ at assignments: an assignment
is visited in front of its operands and runs behind them. So a new value that is found first may be
made from the variable itself, and then that use of the variable is the first one that runs.
-/

namespace ThreadLint

namespace Node

/-! ### The order in which nodes run -/

/--
Whether a node gives something a new value, apart from its operands.
-/
def isReassignment (node : Node) : Bool :=
  node.form == .assignment "="

mutual

/--
The nodes of a tree in the order in which they run: assignments come behind their operands and all
other nodes in front of their parts. Lambdas and local functions count where they are written.
-/
def runOrder : Node → List Node
  | node@⟨_, _, _, _, children⟩ =>
    if node.isReassignment then forestRunOrder children ++ [node]
    else node :: forestRunOrder children

/--
The nodes of several trees in the order in which they run, one tree after the other.
-/
def forestRunOrder : List Node → List Node
  | [] => []
  | node :: rest => node.runOrder ++ forestRunOrder rest

end

mutual

/-- Each node that is visited runs once. -/
theorem runOrder_perm (node : Node) : node.runOrder.Perm node.preorder := by
  match node with
  | ⟨form, extent, trivia, designation, children⟩ =>
    rw [runOrder, preorder]
    split
    . exact List.perm_append_comm.trans ((forestRunOrder_perm children).cons _)
    . exact (forestRunOrder_perm children).cons _

theorem forestRunOrder_perm (nodes : List Node) :
    (forestRunOrder nodes).Perm (forestPreorder nodes) := by
  match nodes with
  | [] => exact .nil
  | node :: rest =>
    rw [forestRunOrder, forestPreorder]
    exact (runOrder_perm node).append (forestRunOrder_perm rest)

end

/-! ### First uses -/

section

variable {name : String}

/--
What a node itself does with a variable, together with the node.
-/
def useAt? (name : String) (node : Node) : Option (Use × Node) :=
  (node.use? name).map fun use => (use, node)

/--
The first use of a variable in some statements in the order in which their nodes run.
-/
def firstRun? (statements : List Node) (name : String) : Option (Use × Node) :=
  (forestRunOrder statements).findSome? (useAt? name)

theorem firstUse?_eq (statements : List Node) :
    firstUse? statements name = (forestPreorder statements).findSome? (useAt? name) := by
  rw [← flatMap_walk]
  rfl

theorem useAt?_eq_some_iff {use : Use} {node user : Node} :
    useAt? name node = some (use, user) ↔ node.use? name = some use ∧ node = user := by
  unfold useAt?
  simp [Option.map_eq_some_iff]

theorem useAt?_eq_none_iff {node : Node} : useAt? name node = none ↔ node.use? name = none := by
  unfold useAt?
  rw [Option.map_eq_none_iff]

theorem use?_eq_none_iff {node : Node} :
    node.use? name = none ↔ node.checksPresence name = false ∧ node.reassigns name = false ∧
      node.dereferences name = false := by
  unfold use?
  cases node.checksPresence name <;> cases node.reassigns name <;>
    cases node.dereferences name <;> simp

/-- An assignment does nothing else with a variable. -/
theorem use?_of_isReassignment {node : Node} {use : Use} (h : node.isReassignment = true)
    (huse : node.use? name = some use) : use = .assign := by
  have hform : node.form = .assignment "=" := eq_of_beq h
  have hchecks : node.checksPresence name = false := by
    unfold checksPresence
    rw [hform]
    rfl
  have hdereferences : node.dereferences name = false := by
    unfold dereferences
    rw [hform]
  unfold use? at huse
  rw [hchecks, hdereferences] at huse
  cases hassigns : node.reassigns name <;> simp_all

theorem isReassignment_of_use? {node : Node} (h : node.use? name = some .assign) :
    node.isReassignment = true := by
  have hassigns : node.reassigns name = true := by
    unfold use? at h
    by_contra hnot
    rw [if_neg hnot] at h
    split at h
    . cases h
    . split at h <;> cases h
  unfold reassigns at hassigns
  unfold isReassignment
  split at hassigns
  . next op hform =>
    rw [Bool.and_eq_true, beq_iff_eq] at hassigns
    rw [hform, hassigns.1]
    rfl
  . cases hassigns

/--
Which use runs first where a use is visited first: the parts of an assignment run in front of it.
-/
def runsFirst (name : String) : Use × Node → Use × Node
  | (.assign, node) => (firstRun? node.children name).getD (.assign, node)
  | found => found

mutual

/-- The use in a tree that is visited first decides which one runs first. -/
theorem findSome?_runOrder (node : Node) :
    node.runOrder.findSome? (useAt? name)
      = (node.preorder.findSome? (useAt? name)).map (runsFirst name) := by
  match node with
  | ⟨form, extent, trivia, designation, children⟩ =>
    have ih := findSome?_forestRunOrder children
    -- A node that does nothing with the variable leaves the decision to its parts in both orders.
    rw [preorder, List.findSome?_cons, runOrder]
    cases huse : useAt? name ⟨form, extent, trivia, designation, children⟩ with
    | none =>
      split
      . rw [List.findSome?_append, List.findSome?_singleton, huse, Option.or_none, ih]
      . rw [List.findSome?_cons, huse, ih]
    | some found =>
      obtain ⟨use, user⟩ := found
      obtain ⟨huse', rfl⟩ := useAt?_eq_some_iff.1 huse
      split
      . next hassign =>
        cases use?_of_isReassignment hassign huse'
        rw [List.findSome?_append, List.findSome?_singleton, huse, Option.or_some]
        rfl
      . next hother =>
        rw [List.findSome?_cons, huse]
        cases use with
        | assign => exact absurd (isReassignment_of_use? huse') hother
        | check => rfl
        | dereference => rfl

theorem findSome?_forestRunOrder (nodes : List Node) :
    (forestRunOrder nodes).findSome? (useAt? name)
      = ((forestPreorder nodes).findSome? (useAt? name)).map (runsFirst name) := by
  match nodes with
  | [] => rfl
  | node :: rest =>
    rw [forestPreorder, List.findSome?_append, forestRunOrder, List.findSome?_append,
      findSome?_runOrder node, findSome?_forestRunOrder rest, Option.map_or]

end

theorem firstRun?_eq (statements : List Node) :
    firstRun? statements name = (firstUse? statements name).map (runsFirst name) := by
  rw [firstUse?_eq]
  exact findSome?_forestRunOrder statements

theorem firstRun?_eq_none_iff {statements : List Node} :
    firstRun? statements name = none ↔
      ∀ node ∈ forestPreorder statements, node.use? name = none := by
  unfold firstRun?
  rw [List.findSome?_eq_none_iff]
  simp only [(forestRunOrder_perm statements).mem_iff, useAt?_eq_none_iff]

theorem mem_of_firstRun? {statements : List Node} {use : Use} {user : Node}
    (h : firstRun? statements name = some (use, user)) : user ∈ forestPreorder statements := by
  obtain ⟨node, hmem, huse⟩ := List.exists_of_findSome?_eq_some h
  rw [← (useAt?_eq_some_iff.1 huse).2]
  exact (forestRunOrder_perm statements).mem_iff.1 hmem

end

/--
The first use of a variable that is found is the first one that runs, unless it is an assignment
whose operands use the variable: then the first one that runs is the first one in these operands. So
an assignment that is found hides no use, and its value no dereference, exactly if it runs first
itself.
-/
theorem firstUse?_exact (statements : List Node) (name : String) :
    firstRun? statements name = (firstUse? statements name).map (runsFirst name) ∧
      ∀ assignment, firstUse? statements name = some (.assign, assignment) →
        (firstRun? statements name = some (.assign, assignment) ↔
          ∀ node ∈ forestPreorder assignment.children, node.use? name = none) ∧
        (firstRun? statements name = some (.assign, assignment) →
          ∀ node ∈ forestPreorder assignment.children, node.dereferences name = false) := by
  have hiff {assignment : Node} (h : firstUse? statements name = some (.assign, assignment)) :
      firstRun? statements name = some (.assign, assignment) ↔
        ∀ node ∈ forestPreorder assignment.children, node.use? name = none := by
    have hruns : firstRun? statements name
        = some ((firstRun? assignment.children name).getD (.assign, assignment)) := by
      rw [firstRun?_eq, h]
      rfl
    rw [hruns, ← firstRun?_eq_none_iff]
    cases hoperands : firstRun? assignment.children name with
    | none => simp
    | some found =>
      obtain ⟨use, user⟩ := found
      have hne := ne_of_mem_forestPreorder (mem_of_firstRun? hoperands)
      simp [Ne.symm hne]
  refine ⟨firstRun?_eq statements, ?_⟩
  intro assignment h
  refine ⟨hiff h, ?_⟩
  intro hruns node hmem
  exact (use?_eq_none_iff.1 ((hiff h).1 hruns node hmem)).2.2

/-- The new value is made from another variable, and the use behind the assignment comes later. -/
theorem firstUse?_exact_other :
    let text := "class C \x7b void M() \x7b s = t.Foo(); s.Bar(); \x7d \x7d"
    ∃ parsed assignment, parse text none = .ok parsed ∧
      firstUse? parsed.root.children "s" = some (.assign, assignment) ∧
      firstRun? parsed.root.children "s" = some (.assign, assignment) ∧
      ∀ node ∈ forestPreorder assignment.children, node.dereferences "s" = false := by
  intro text
  have hrun : ((parse text none).toOption.bind fun parsed =>
      (firstUse? parsed.root.children "s").map fun found =>
        (found.1, (forestPreorder found.2.children).map fun node => node.use? "s"))
      = some (.assign, [none, none, none, none]) := by
    decide +kernel
  obtain ⟨parsed, hparse, hfound⟩ := Option.bind_eq_some_iff.1 hrun
  obtain ⟨⟨use, assignment⟩, huse, hfound⟩ := Option.map_eq_some_iff.1 hfound
  simp only [Prod.mk.injEq] at hfound
  obtain ⟨rfl, hnone⟩ := hfound
  obtain ⟨hiff, hvalue⟩ := (firstUse?_exact parsed.root.children "s").2 assignment huse
  have hruns : firstRun? parsed.root.children "s" = some (.assign, assignment) := by
    rw [hiff]
    intro node hmem
    have hmem := List.mem_map_of_mem (f := fun node : Node => node.use? "s") hmem
    rw [hnone] at hmem
    simpa using hmem
  exact ⟨parsed, assignment, eq_ok_of_toOption hparse, huse, hruns, hvalue hruns⟩

/-- The assignment is found, and the dereference in its value runs first. -/
theorem firstUse?_hides_dereference :
    let text := "class C \x7b void M() \x7b s = s.Foo(); \x7d \x7d"
    ∃ parsed assignment value dereference, parse text none = .ok parsed ∧
      firstUse? parsed.root.children "s" = some (.assign, assignment) ∧
      assignment.children[1]? = some value ∧ dereference ∈ value.preorder ∧
      dereference.dereferences "s" = true ∧
      firstRun? parsed.root.children "s" = some (.dereference, dereference) := by
  intro text
  have hrun : ((parse text none).toOption.bind fun parsed =>
      (firstUse? parsed.root.children "s").map fun found =>
        (found.1, found.2.children.map fun operand =>
          operand.preorder.map fun node => (node.use? "s", node.dereferences "s")))
      = some (.assign, [[(none, false)],
        [(none, false), (some .dereference, true), (none, false)]]) := by
    decide +kernel
  obtain ⟨parsed, hparse, hfound⟩ := Option.bind_eq_some_iff.1 hrun
  obtain ⟨⟨use, assignment⟩, huse, hfound⟩ := Option.map_eq_some_iff.1 hfound
  simp only [Prod.mk.injEq] at hfound
  obtain ⟨rfl, hoperands⟩ := hfound
  obtain ⟨target, _, hall, htarget, hoperands⟩ := List.map_eq_cons_iff.1 hoperands
  obtain ⟨value, _, rfl, hvalue, hoperands⟩ := List.map_eq_cons_iff.1 hoperands
  rw [List.map_eq_nil_iff] at hoperands
  subst hoperands
  obtain ⟨name, hname, hnone⟩ := List.map_eq_singleton_iff.1 htarget
  obtain ⟨call, _, hcalls, hcall, hvalue⟩ := List.map_eq_cons_iff.1 hvalue
  obtain ⟨access, _, rfl, haccess, hvalue⟩ := List.map_eq_cons_iff.1 hvalue
  simp only [Prod.mk.injEq] at hnone hcall haccess
  have hfirst : firstUse? assignment.children "s" = some (.dereference, access) := by
    rw [firstUse?_eq, hall, forestPreorder, forestPreorder, hname, hcalls]
    simp [useAt?, hnone.1, hcall.1, haccess.1]
  have hruns : firstRun? parsed.root.children "s" = some (.dereference, access) := by
    rw [firstRun?_eq, huse, Option.map_some, runsFirst, firstRun?_eq, hfirst]
    rfl
  refine ⟨parsed, assignment, value, access, eq_ok_of_toOption hparse, huse, by rw [hall]; rfl, ?_,
    haccess.2, hruns⟩
  rw [hcalls]
  exact List.mem_cons_of_mem _ List.mem_cons_self

end Node

end ThreadLint
