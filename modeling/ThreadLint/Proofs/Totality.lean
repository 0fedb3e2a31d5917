import ThreadLint.Proofs.Tree.Order
import ThreadLint.Proofs.Truncation

/-!
This module contains that a text has a syntax tree or a syntax error, unless attributes of the whole
file are malformed: no reader of a construct takes a step that none may take, and a node of the tree
has one place in it.
-/

namespace ThreadLint

namespace Node

/--
Whether every node of a tree that holds some text stands at one place of the tree only.
-/
def IsStrict (root : Node) : Prop :=
  root.preorder.Pairwise fun node other => node.extent.start < node.extent.stop → node ≠ other

/--
Whether neither a node nor a name or type that it records ends in front of where it starts.
-/
def IsOrdered (node : Node) : Prop :=
  node.extent.isOrdered = true ∧
    ∀ extent ∈ node.form.nameExtent?.toList ++ node.form.typeExtents, extent.isOrdered = true

mutual

theorem size_le_of_mem_preorder {node other : Node} (h : other ∈ node.preorder) :
    other.size ≤ node.size := by
  match node with
  | ⟨form, extent, trivia, designation, children⟩ =>
    rw [preorder, List.mem_cons] at h
    cases h with
    | inl heq => exact Nat.le_of_eq (by rw [heq])
    | inr hmem =>
      have := size_le_of_mem_forestPreorder hmem
      rw [size]
      omega

theorem size_le_of_mem_forestPreorder {nodes : List Node} {other : Node}
    (h : other ∈ forestPreorder nodes) : other.size ≤ forestSize nodes := by
  match nodes with
  | [] => simp [forestPreorder] at h
  | node :: rest =>
    rw [forestPreorder, List.mem_append] at h
    rw [forestSize]
    cases h with
    | inl hmem =>
      have := size_le_of_mem_preorder hmem
      omega
    | inr hmem =>
      have := size_le_of_mem_forestPreorder hmem
      omega

end

theorem ne_of_mem_forestPreorder {node other : Node} (h : other ∈ forestPreorder node.children) :
    node ≠ other := by
  rintro rfl
  have := size_le_of_mem_forestPreorder h
  have := node.size_eq
  omega

end Node

namespace Parser

variable {tokens : Array Token}

/-! ### Nodes at one place -/

mutual

theorem Kept.isStrict [Lawful tokens] {first stop : Nat} {node : Node}
    (h : Kept tokens first stop node) : node.IsStrict := by
  match node with
  | ⟨form, extent, trivia, designation, children⟩ =>
    unfold Node.IsStrict
    rw [Node.preorder]
    refine List.Pairwise.cons ?_ (Laid.pairwise_ne h.children_laid h.le.2)
    intro other hother _
    exact Node.ne_of_mem_forestPreorder hother

theorem Laid.pairwise_ne [Lawful tokens] {lo hi : Nat} {nodes : List Node}
    (h : Laid tokens lo hi nodes) (hhi : hi ≤ last tokens) :
    (Node.forestPreorder nodes).Pairwise fun node other =>
      node.extent.start < node.extent.stop → node ≠ other := by
  match nodes with
  | [] => exact .nil
  | node :: rest =>
    rw [laid_cons_iff] at h
    obtain ⟨first, stop, _, hnode, hrest⟩ := h
    rw [Node.forestPreorder, List.pairwise_append]
    refine ⟨Kept.isStrict hnode, Laid.pairwise_ne hrest hhi, ?_⟩
    rintro front hfront _ hback hlt rfl
    -- a node of both trees would end in front of where it starts
    obtain ⟨_, stop', _, hstop', hfront⟩ := hnode.kept_of_mem_preorder hfront
    obtain ⟨first', _, hfirst', _, hback⟩ := hrest.kept_of_mem_preorder hback
    have hstop : front.extent.stop ≤ startAt tokens stop' := hfront.stop_le
    have hle : startAt tokens stop' ≤ startAt tokens first' := by
      have := hback.le
      exact start_le_start (by omega) (by omega)
    rw [← hback.start_eq] at hle
    omega

end

theorem Located.isOrdered [Lawful tokens] {node : Node} (h : Located tokens node) : node.IsOrdered := by
  refine ⟨decide_eq_true h.extent_le, ?_⟩
  obtain ⟨first, stop, h⟩ := h
  cases h with
  | inl h =>
    obtain ⟨_, hlast, _, hfits, _⟩ := whole_iff.1 h
    exact hfits.isOrdered hlast
  | inr h =>
    have hkind := h.1.1
    unfold Node.kind at hkind
    cases hform : node.form
    case otherStmt => simp [Form.nameExtent?, Form.typeExtents]
    all_goals simp [hform, Form.kind] at hkind

end Parser

open ThreadLint.Parser

section

variable {source : Source} {tokens : List Token} {root : Node} (h : Sited source tokens root)

include h

theorem Sited.isStrict : root.IsStrict := by
  have := h.lawful
  unfold Node.IsStrict
  rw [Node.preorder_eq]
  refine List.Pairwise.cons ?_ (h.laid.pairwise_ne (Nat.le_refl _))
  intro other hother _
  exact Node.ne_of_mem_forestPreorder hother

theorem Sited.isOrdered : ∀ node ∈ root.preorder, node.IsOrdered := by
  have := h.lawful
  intro node hmem
  rw [Node.preorder_eq, List.mem_cons] at hmem
  cases hmem with
  | inl heq =>
    rw [heq, h.root_eq]
    exact ⟨decide_eq_true (Nat.zero_le _), by simp [Form.nameExtent?, Form.typeExtents]⟩
  | inr hmem => exact (h.laid.located node hmem).isOrdered

end

/-! ### Texts with a tree or a syntax error -/

theorem hasTargetBefore_of_stopsAtTarget {tokens : List Token} [Lawful tokens.toArray]
    (h : StopsAtTarget tokens.toArray) : HasTargetBefore tokens tokens.length := by
  obtain ⟨index, _, hbracket, hcolon, _⟩ := h
  have hlt := lt_last_of_isPunct hcolon
  have hlast : last tokens.toArray = tokens.length - 1 := by simp [last]
  exact ⟨index, by omega, hbracket, hcolon⟩

theorem Parsed.members_ne_error {tokens : List Token} [Lawful tokens.toArray]
    (h : ¬ HasTargetBefore tokens tokens.length) (stop : Stop) :
    members tokens.toArray ≠ .error stop := by
  intro hmembers
  rw [eq_mismatch_of_members hmembers, members_eq_mismatch_iff] at hmembers
  exact h (hasTargetBefore_of_stopsAtTarget hmembers)

theorem parse_of_ofSource_eq_error {text : String} {path : Option String} (fault : SyntaxFault)
    (h : Parsed.ofSource (Source.ofString text path) = .error (.syntaxError fault)) :
    ∃ fault, parse text path = .error (.syntaxError fault) := by
  unfold parse
  rw [h]
  exact ⟨_, rfl⟩

/--
A text in which no bracket opens two tokens in front of a colon has a syntax tree or a syntax error:
once it is divided into tokens, its members are read and none of the stops occurs. No extent of the
tree is reversed, and every node of it that holds some text stands at one place only.
-/
theorem parse_total {text : String} {path : Option String}
    (h : ∀ tokens, Token.tokenize (Source.ofString text path) = .ok tokens →
      ¬ HasTargetBefore tokens tokens.length) :
    (∀ tokens, Token.tokenize (Source.ofString text path) = .ok tokens →
      ∀ stop, Parsed.members tokens.toArray ≠ .error stop) ∧
    ((∃ parsed, parse text path = .ok parsed ∧ parsed.root.IsStrict ∧
        ∀ node ∈ parsed.root.preorder, node.IsOrdered) ∨
      ∃ fault, parse text path = .error (.syntaxError fault)) := by
  constructor
  . intro tokens htokens
    have := Lawful.of_tiles (Token.Tiles.of_tokenize htokens)
    exact Parsed.members_ne_error (h tokens htokens)
  cases htokens : Token.tokenize (Source.ofString text path) with
  | error fault =>
    right
    apply parse_of_ofSource_eq_error fault
    unfold Parsed.ofSource
    rw [htokens]
    rfl
  | ok tokens =>
    have := Lawful.of_tiles (Token.Tiles.of_tokenize htokens)
    cases hopeners : Token.unclosed (Source.ofString text path) tokens with
    | error fault =>
      right
      apply parse_of_ofSource_eq_error fault
      unfold Parsed.ofSource
      simp only [htokens, hopeners, mapError_ok, mapError_error, bind, Except.bind]
    | ok openers =>
      left
      have hstops : ¬ StopsAtTarget tokens.toArray := fun hstops =>
        h tokens htokens (hasTargetBefore_of_stopsAtTarget hstops)
      obtain ⟨parsed, hparsed, _⟩ := recovers_of_not_stopsAtTarget htokens hopeners hstops
      obtain ⟨_, _, _, hsited⟩ := parse_sited hparsed
      exact ⟨parsed, hparsed, hsited.isStrict, hsited.isOrdered⟩

/-- Text that is no program has a tree too, as long as its brackets are balanced. -/
theorem parse_total_malformed :
    let text := "class [ ( = ) => ] \x7b new . \x7d"
    ∃ parsed, parse text none = .ok parsed ∧ parsed.root.IsStrict := by
  intro text
  have htokenized : ((Token.tokenize (Source.ofString text none)).map fun tokens =>
      tokens.any (·.isPunct [":"])).toOption = some false := by
    decide +kernel
  obtain ⟨tokens, htokens, hcolons⟩ := map_eq_ok.1 (eq_ok_of_toOption htokenized)
  have htarget (tokens' : List Token) (h : Token.tokenize (Source.ofString text none) = .ok tokens') :
      ¬ HasTargetBefore tokens' tokens'.length := by
    rw [htokens] at h
    cases h
    intro ⟨index, hlt, _, hcolon⟩
    rw [tokenAt_eq_getElem (by simpa using hlt), List.getElem_toArray] at hcolon
    rw [List.any_eq_false] at hcolons
    exact hcolons _ (List.getElem_mem _) hcolon
  obtain ⟨parsed, hparsed, hstrict, _⟩ | ⟨fault, hfault⟩ := (parse_total htarget).2
  . exact ⟨parsed, hparsed, hstrict⟩
  . have hok : (parse text none).isOk = true := by decide +kernel
    rw [hfault] at hok
    cases hok

end ThreadLint
