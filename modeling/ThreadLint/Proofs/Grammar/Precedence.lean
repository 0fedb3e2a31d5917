import ThreadLint.Proofs.Grammar
import ThreadLint.Proofs.Grammar.Made

/-!
This module contains that operations are grouped by the precedence of their operators. What is read
behind an operator ends in front of the first one that binds less tightly than that, so whatever comes
behind it takes the whole for its left operand.
-/

namespace ThreadLint

open ThreadLint.Parser

namespace Node

/--
Whether a node is an operation with a certain operator, of a certain precedence.
-/
structure IsOperation (node : Node) (op : String) (rank : Nat) : Prop where
  kind : node.kind = .binary
  operator : node.form.operator? = some op
  precedence : precedence? op = some rank

/--
Whether the operands of an operator are grouped by precedence: an operation on the right binds its
operands more tightly, or just as tightly for the operator that groups to the right, and one on the
left no less tightly unless it tests or converts a type.
-/
structure Groups (op : String) (rank : Nat) (left right : Node) : Prop where
  left : ∀ inner innerRank, left.IsOperation inner innerRank →
    inner ≠ "??" ∧ (inner = "is" ∨ inner = "as" ∨ rank ≤ innerRank)
  right : ∀ inner innerRank, right.IsOperation inner innerRank →
    if op = "??" then rank ≤ innerRank else rank < innerRank

/--
Whether a node is an operation of two operands that are grouped by precedence.
-/
def RespectsPrecedence (node : Node) : Prop :=
  ∃ op rank left right, node.IsOperation op rank ∧ node.children = [left, right] ∧
    Groups op rank left right

/--
Whether all operations of a tree are grouped by precedence.
-/
def IsGrouped (node : Node) : Prop :=
  ∀ other ∈ node.preorder, other.kind = .binary → other.RespectsPrecedence

theorem isGrouped_iff {node : Node} :
    node.IsGrouped ↔ (node.kind = .binary → node.RespectsPrecedence) ∧ Each IsGrouped node.children :=
  forall_mem_preorder (P := fun node => node.kind = .binary → node.RespectsPrecedence)

variable {node left right : Node} {op op' : String} {rank rank' : Nat}

theorem IsOperation.eq (h : node.IsOperation op rank) (h' : node.IsOperation op' rank') :
    op' = op ∧ rank' = rank := by
  have hop := h'.operator
  rw [h.operator] at hop
  cases hop
  have hrank := h'.precedence
  rw [h.precedence] at hrank
  cases hrank
  exact ⟨rfl, rfl⟩

theorem IsOperation.isGrouped (h : node.IsOperation op rank) (hchildren : node.children = [left, right])
    (hgroups : Groups op rank left right) (hleft : left.IsGrouped) (hright : right.IsGrouped) :
    node.IsGrouped := by
  refine isGrouped_iff.2 ⟨fun _ => ⟨op, rank, left, right, h, hchildren, hgroups⟩, ?_⟩
  rw [hchildren]
  exact each_cons.2 ⟨hleft, .one hright⟩

end Node

open Node

/-- What stands outside of code is no operation. -/
theorem isGrouped_of_outside {node : Node} (hform : node.form.isOutside = true)
    (hchildren : Each IsGrouped node.children) : node.IsGrouped := by
  refine isGrouped_iff.2 ⟨fun hkind => ?_, hchildren⟩
  unfold Node.kind at hkind
  cases hnode : node.form
  all_goals simp_all [Form.isOutside, Form.kind]

theorem builds_isGrouped : Builds IsGrouped fun node => node.IsGrouped ∧ node.kind ≠ .binary where
  part h := h.1
  made {node} hform hchildren := by
    rw [Form.isPlain, Bool.and_eq_true, bne_iff_ne] at hform
    exact ⟨isGrouped_iff.2 ⟨fun hkind => absurd hkind hform.2, hchildren⟩, hform.2⟩
  designated _ h :=
    ⟨isGrouped_iff.2 ⟨fun hkind => absurd hkind h.2, (isGrouped_iff.1 h.1).2⟩, h.2⟩

namespace Parser

/-! ### Where parsers stop -/

section

variable {α β σ : Type} {tokens : Array Token} {cursor : Nat}

/--
What is true of every result of a parser at a cursor and of the cursor behind it.
-/
def Arrives (parser : Parser α) (tokens : Array Token) (cursor : Nat) (Q : α → Nat → Prop) : Prop :=
  ∀ a next, parser tokens cursor = .ok (a, next) → Q a next

namespace Arrives

variable {parser other : Parser α} {rest : α → Parser β} {Q : α → Nat → Prop} {R : β → Nat → Prop}

theorem bind_of_eq
    (hrest : ∀ a next, parser tokens cursor = .ok (a, next) → Arrives (rest a) tokens next R) :
    Arrives (parser >>= rest) tokens cursor R := by
  intro b stop heq
  simp only [Bind.bind] at heq
  split at heq
  . next a next hparser => exact hrest a next hparser b stop heq
  . cases heq

theorem bind (h : Arrives parser tokens cursor Q)
    (hrest : ∀ a next, Q a next → Arrives (rest a) tokens next R) :
    Arrives (parser >>= rest) tokens cursor R :=
  bind_of_eq fun a next heq => hrest a next (h a next heq)

theorem pure {a : α} (h : Q a cursor) : Arrives (pure a) tokens cursor Q := by
  intro b next heq
  cases heq
  exact h

theorem ite {b : Prop} [Decidable b] (h : b → Arrives parser tokens cursor Q)
    (hother : ¬b → Arrives other tokens cursor Q) :
    Arrives (if b then parser else other) tokens cursor Q := by
  split
  . next hb => exact h hb
  . next hb => exact hother hb

theorem of_yields {P : α → Prop} (h : Yields parser P) :
    Arrives parser tokens cursor fun a _ => P a :=
  fun a next heq => h tokens cursor a next heq

theorem here : Arrives here tokens cursor fun index next => index = cursor ∧ next = cursor := by
  intro index next heq
  cases heq
  exact ⟨rfl, rfl⟩

theorem peek (distance : Nat) : Arrives (peek distance) tokens cursor fun _ next => next = cursor := by
  intro token next heq
  cases heq
  rfl

theorem tokenNumber (index : Nat) :
    Arrives (tokenNumber index) tokens cursor fun _ next => next = cursor := by
  intro token next heq
  unfold Parser.tokenNumber at heq
  split at heq
  . cases heq
    rfl
  . cases heq

theorem current : Arrives current tokens cursor fun _ next => next = cursor :=
  here.bind fun index _ h => h.2 ▸ tokenNumber index

theorem lastStop : Arrives lastStop tokens cursor fun _ next => next = cursor := by
  refine here.bind ?_
  rintro index _ ⟨rfl, rfl⟩
  refine .ite (fun _ => .pure rfl) fun _ => (tokenNumber _).bind ?_
  rintro token _ rfl
  exact .pure rfl

/-- A node is made of what was read, and nothing is read for it. -/
theorem node {form : Form} (first : Nat) {children : List Node} :
    Arrives (node form first children) tokens cursor fun made next =>
      made.form = form ∧ made.children = children ∧ next = cursor := by
  refine (tokenNumber first).bind ?_
  rintro token _ rfl
  refine here.bind ?_
  rintro index _ ⟨rfl, rfl⟩
  refine lastStop.bind ?_
  rintro stop _ rfl
  exact .ite (fun _ => .pure ⟨rfl, rfl, rfl⟩) fun _ made next heq => by cases heq

end Arrives

/--
What is to be true behind a step of a loop: something of the state to go on with, or of the result.
-/
def Progress.Leads (I : σ → Nat → Prop) (Q : β → Nat → Prop) : Progress σ β → Nat → Prop
  | .more state, next => I state next
  | .done result, next => Q result next

theorem Arrives.loop {step : σ → Parser (Progress σ β)} (I : σ → Nat → Prop) {Q : β → Nat → Prop}
    {state : σ} (hstep : ∀ state cursor, I state cursor →
      Arrives (step state) tokens cursor (Progress.Leads I Q))
    (h : I state cursor) : Arrives (loop step state) tokens cursor Q := by
  have hbound (bound : Nat) : ∀ state cursor, I state cursor →
      Arrives (loopAtMost step bound state) tokens cursor Q := by
    induction bound with
    | zero =>
      intro _ _ _ b next heq
      cases heq
    | succ bound ih =>
      intro state cursor h
      refine (hstep state cursor h).bind fun progress next hprogress => ?_
      cases progress with
      | more state => exact ih state next hprogress
      | done result => exact .pure hprogress
  exact hbound _ state cursor h

end

/-! ### Operators -/

theorem precedence?_pos {op : String} {rank : Nat} (h : precedence? op = some rank) : 0 < rank := by
  obtain ⟨front, back, htable, _⟩ := List.lookup_eq_some_iff.1 h
  have hall : ∀ entry ∈ front ++ (op, rank) :: back, 0 < entry.2 := by
    rw [← htable]
    decide
  exact hall (op, rank) (by simp)

theorem operator?_arrives {tokens : Array Token} {cursor : Nat} :
    Arrives operator? tokens cursor fun found next =>
      next = cursor ∧ ∀ entry ∈ found, (precedence? entry.1).isSome = true := by
  refine Arrives.current.bind ?_
  rintro token _ rfl
  refine (Arrives.peek 1).bind ?_
  rintro following _ rfl
  refine .ite (fun h => .pure ⟨rfl, ?_⟩) fun _ => .ite (fun _ => .pure ⟨rfl, ?_⟩) fun _ =>
    .ite (fun h => .pure ⟨rfl, ?_⟩) fun _ => .pure ⟨rfl, by simp⟩
  . rintro _ ⟨⟩
    rw [Token.isKeyword, Bool.and_eq_true] at h
    have htext : token.text = "is" ∨ token.text = "as" := by simpa using h.2
    rcases htext with htext | htext
    all_goals
      rw [htext]
      decide
  . rintro _ ⟨⟩
    decide
  . rintro _ ⟨⟩
    rw [Bool.and_eq_true] at h
    exact h.2

/-! ### Operations -/

/--
Whether no operator of at least some precedence stands at a cursor.
-/
def StopsBelow (tokens : Array Token) (bound cursor : Nat) : Prop :=
  ∀ op width next rank, operator? tokens cursor = .ok (some (op, width), next) →
    precedence? op = some rank → rank < bound

/--
What is true of an operation of at least some precedence and of the cursor behind it.
-/
structure EndsBelow (tokens : Array Token) (least : Nat) (node : Node) (cursor : Nat) : Prop where
  grouped : node.IsGrouped
  least_le : ∀ op rank, node.IsOperation op rank → least ≤ rank
  stops : StopsBelow tokens least cursor

/--
What is true of an operation that may go on, and of the cursor behind it. No operator stands there that
should have been read into its right operand.
-/
structure GoesOn (tokens : Array Token) (least : Nat) (node : Node) (cursor : Nat) : Prop where
  grouped : node.IsGrouped
  least_le : ∀ op rank, node.IsOperation op rank → least ≤ rank
  stops : ∀ op rank, node.IsOperation op rank → op ≠ "is" → op ≠ "as" →
    StopsBelow tokens (if op == "??" then rank else rank + 1) cursor

end Parser

/--
Whether all constructs of a grammar are grouped by precedence, and its operations end in front of every
operator that binds less tightly than they may.
-/
structure Grammar.RespectsPrecedence (g : Grammar) : Prop
    extends g.MakesAll IsGrouped fun node => node.IsGrouped ∧ node.kind ≠ .binary where
  operation : ∀ least tokens cursor,
    Arrives (g.operation least) tokens cursor (EndsBelow tokens least)

namespace Parser

section

variable {tokens : Array Token} {least cursor : Nat} {left right : Node}

theorem goesOn_of_operand (h : left.IsGrouped ∧ left.kind ≠ .binary) :
    GoesOn tokens least left cursor where
  grouped := h.1
  least_le _ _ hop := absurd hop.kind h.2
  stops _ _ hop := absurd hop.kind h.2

/-- What was read so far is grouped as the left operand of the operator that stands behind it. -/
theorem GoesOn.groups_left {op : String} {width next rank : Nat} (h : GoesOn tokens least left cursor)
    (hop : operator? tokens cursor = .ok (some (op, width), next))
    (hrank : precedence? op = some rank) {inner : String} {innerRank : Nat}
    (hinner : left.IsOperation inner innerRank) :
    inner ≠ "??" ∧ (inner = "is" ∨ inner = "as" ∨ rank ≤ innerRank) := by
  by_cases his : inner = "is"
  . exact ⟨by simp [his], .inl his⟩
  by_cases has : inner = "as"
  . exact ⟨by simp [has], .inr (.inl has)⟩
  have hlt := h.stops inner innerRank hinner his has op width next rank hop hrank
  by_cases hcoalesce : inner = "??"
  . -- Nothing binds less tightly than this operator, so none stands behind its right operand.
    have hone : precedence? "??" = some 1 := by decide
    rw [← hcoalesce, hinner.precedence] at hone
    cases hone
    have := precedence?_pos hrank
    simp [hcoalesce] at hlt
    omega
  . refine ⟨hcoalesce, .inr (.inr ?_)⟩
    simp [hcoalesce] at hlt
    omega

/-- An operation with a type or pattern behind its operator may go on in any way. -/
theorem GoesOn.of_typeTest {op : String} {rank next : Nat} {node : Node}
    (h : node.IsOperation op rank) (hop : op = "is" ∨ op = "as")
    (hchildren : node.children = [left, right]) (hleast : least ≤ rank)
    (hgroups : Groups op rank left right) (hleft : left.IsGrouped) (hright : right.IsGrouped) :
    GoesOn tokens least node next where
  grouped := h.isGrouped hchildren hgroups hleft hright
  least_le op' rank' h' := by
    rw [(h.eq h').2]
    exact hleast
  stops op' rank' h' his has := by
    rw [(h.eq h').1] at his has
    exact absurd hop (not_or.2 ⟨his, has⟩)

/-- An operation goes on in front of what its right operand ended at. -/
theorem GoesOn.of_binary {op : String} {rank next : Nat} {node : Node}
    (h : node.IsOperation op rank) (hchildren : node.children = [left, right])
    (hleast : least ≤ rank) (hgroups : Groups op rank left right) (hleft : left.IsGrouped)
    (hright : EndsBelow tokens (if op == "??" then rank else rank + 1) right next) :
    GoesOn tokens least node next where
  grouped := h.isGrouped hchildren hgroups hleft hright.grouped
  least_le op' rank' h' := by
    rw [(h.eq h').2]
    exact hleast
  stops op' rank' h' _ _ := by
    rw [(h.eq h').1, (h.eq h').2]
    exact hright.stops

theorem operation_arrives {g : Grammar} (hg : g.RespectsPrecedence) :
    Arrives (operation g least) tokens cursor (EndsBelow tokens least) := by
  unfold operation
  refine Arrives.here.bind ?_
  rintro first _ ⟨-, rfl⟩
  refine (Arrives.of_yields hg.operand_yields).bind fun left next hleft => ?_
  refine Arrives.loop (GoesOn tokens least) ?_ (goesOn_of_operand hleft)
  clear hleft
  intro left cursor hleft
  refine .bind_of_eq fun found next hfound => ?_
  obtain ⟨rfl, hsome⟩ := operator?_arrives found next hfound
  obtain _ | ⟨op, width⟩ := found
  . refine .pure ⟨hleft.grouped, hleft.least_le, ?_⟩
    intro op width next rank hop _
    rw [hfound] at hop
    cases hop
  obtain ⟨rank, hrank⟩ := Option.isSome_iff_exists.1 (hsome _ rfl)
  have hgetD : (precedence? op).getD 0 = rank := by simp [hrank]
  dsimp -zeta only
  rw [hgetD]
  refine .ite (fun hlt => .pure ⟨hleft.grouped, hleft.least_le, ?_⟩) fun hleast => ?_
  . intro op' width' next' rank' hop hrank'
    rw [hfound] at hop
    cases hop
    rw [hrank] at hrank'
    cases hrank'
    exact hlt
  have hleast := Nat.le_of_not_lt hleast
  have hgroups {right : Node} (hright : ∀ inner innerRank, right.IsOperation inner innerRank →
      if op = "??" then rank ≤ innerRank else rank < innerRank) : Groups op rank left right :=
    ⟨fun _ _ hinner => hleft.groups_left hfound hrank hinner, hright⟩
  refine .bind_of_eq fun _ _ _ => .bind_of_eq fun _ _ _ => .ite (fun hop => ?_) fun _ => ?_
  . have hop : op = "is" ∨ op = "as" := by simpa using hop
    refine .bind_of_eq fun _ _ _ => ?_
    extract_lets -underBinder whole
    have hwhole (negated : Bool) (cursor : Nat) : Arrives (whole negated) tokens cursor
        (Progress.Leads (GoesOn tokens least) (EndsBelow tokens least)) := by
      refine (Arrives.of_yields (hg.pattern_yields _)).bind fun right next hright => ?_
      refine (Arrives.node first).bind ?_
      rintro made _ ⟨hform, hchildren, rfl⟩
      refine .pure (.of_typeTest ⟨?_, ?_, hrank⟩ hop hchildren hleast (hgroups ?_) hleft.grouped
        hright.1)
      . rw [Node.kind, hform]
        rfl
      . rw [hform]
        rfl
      . exact fun _ _ hinner => absurd hinner.kind hright.2
    exact .ite (fun _ => .bind_of_eq fun _ _ _ => hwhole _ _) fun _ => hwhole _ _
  . refine (hg.operation _ _ _).bind fun right next hright => (Arrives.node first).bind ?_
    rintro made _ ⟨hform, hchildren, rfl⟩
    refine .pure (.of_binary ⟨?_, ?_, hrank⟩ hchildren hleast (hgroups ?_) hleft.grouped hright)
    . rw [Node.kind, hform]
      rfl
    . rw [hform]
      rfl
    . intro inner innerRank hinner
      have hleast := hright.least_le inner innerRank hinner
      by_cases hop : op = "??"
      . rw [if_pos (beq_iff_eq.2 hop)] at hleast
        rw [if_pos hop]
        exact hleast
      . rw [if_neg (mt beq_iff_eq.1 hop)] at hleast
        rw [if_neg hop]
        exact hleast

end

end Parser

/-! ### Trees -/

namespace Grammar

theorem exhausted_respectsPrecedence : exhausted.RespectsPrecedence where
  toMakes := .exhausted builds_isGrouped
  outer hform hchildren := isGrouped_of_outside hform hchildren
  members _ := .stopWith _
  operation _ _ _ _ _ heq := by cases heq

theorem RespectsPrecedence.layer {g : Grammar} (hg : g.RespectsPrecedence) :
    (layer g).RespectsPrecedence where
  toMakesAll := hg.toMakesAll.layer fun _ _ _ _ heq => (operation_arrives hg _ _ heq).grouped
  operation _ _ _ := operation_arrives hg

theorem ofDepth_respectsPrecedence (depth : Nat) : (ofDepth depth).RespectsPrecedence := by
  induction depth with
  | zero => exact exhausted_respectsPrecedence
  | succ depth ih => exact ih.layer

end Grammar

/--
In every syntax tree operations are grouped by the precedence of their operators. An operation that is
the right operand of another one binds its operands more tightly than that, or just as tightly for `??`;
one that is the left operand binds them no less tightly, unless it tests or converts a type, and has not
the operator `??`.
-/
theorem parse_respectsPrecedence {text : String} {path : Option String} {parsed : Parsed}
    (h : parse text path = .ok parsed) :
    ∀ node ∈ parsed.root.preorder, node.kind = .binary → node.RespectsPrecedence := by
  obtain ⟨tokens, _, nodes, _, _, _, hnodes, _, hroot⟩ := Parsed.ofSource_eq_ok (parse_eq_ok h)
  unfold Parsed.members at hnodes
  rw [map_eq_ok] at hnodes
  obtain ⟨⟨_, next⟩, hmembers, rfl⟩ := hnodes
  have hg := Grammar.ofDepth_respectsPrecedence tokens.toArray.size
  have hgrouped := hg.members_yields none _ _ _ _ hmembers
  rw [hroot]
  exact isGrouped_of_outside rfl hgrouped

/-- A text with an operator of two tokens, one that groups to the right and one that tests a type. -/
theorem parse_respectsPrecedence_shift :
    ∃ parsed, parse "class C \x7b bool P => a ?? b ?? c >> d + e is F / g; \x7d" none = .ok parsed ∧
      ((parsed.root.preorder.filter (·.kind == .binary)).filterMap (·.form.operator?)
        = ["??", "??", "/", "is", ">>", "+"]) ∧
      ∀ node ∈ parsed.root.preorder, node.kind = .binary → node.RespectsPrecedence := by
  have hok : ((parse "class C \x7b bool P => a ?? b ?? c >> d + e is F / g; \x7d" none).map
      fun parsed => (parsed.root.preorder.filter (·.kind == .binary)).filterMap
        (·.form.operator?)).toOption = some ["??", "??", "/", "is", ">>", "+"] := by decide +kernel
  obtain ⟨parsed, h, hoperators⟩ := map_eq_ok.1 (eq_ok_of_toOption hok)
  exact ⟨parsed, h, hoperators, parse_respectsPrecedence h⟩

end ThreadLint
