import ThreadLint.Grammar.Entry
import ThreadLint.Proofs.Grammar.Skip
import ThreadLint.Proofs.Grammar.TypeName

/-!
This module contains what the parsers of a grammar ensure, and what follows for the constructs that
are directly made of them.
-/

namespace ThreadLint

namespace Parser

/--
Whether a node is a statement that lies between two tokens, with labels in front of it.
-/
def Labelled (tokens : Array Token) (lo hi : Nat) (node : Node) : Prop :=
  ∃ first, lo ≤ first ∧ (∀ index, lo ≤ index → index < first → NoBracket tokens index) ∧
    Whole tokens first hi node ∧ IsRead tokens first hi node

/--
Whether a node is a statement with labels in front of it, or stands for a missing one.
-/
def Embedded (tokens : Array Token) (lo hi : Nat) (node : Node) : Prop :=
  Labelled tokens lo hi node ∨ (IsPlaceholder tokens node ∧ lo = last tokens ∧ hi = last tokens)

variable {tokens : Array Token} {lo hi : Nat} {node : Node}

theorem Whole.labelled (h : Whole tokens lo hi node) (hread : IsRead tokens lo hi node) :
    Labelled tokens lo hi node :=
  ⟨lo, Nat.le_refl _, fun _ _ _ => by omega, h, hread⟩

theorem Whole.inside (h : Whole tokens lo hi node) : Inside tokens lo hi node :=
  ⟨lo, hi, Nat.le_refl _, Nat.le_refl _, h⟩

theorem Labelled.lt (h : Labelled tokens lo hi node) : lo < hi := by
  obtain ⟨first, hfirst, _, h, _⟩ := h
  have := h.lt
  omega

theorem Labelled.inside (h : Labelled tokens lo hi node) : Inside tokens lo hi node := by
  obtain ⟨first, hfirst, _, h, _⟩ := h
  exact ⟨first, hi, hfirst, Nat.le_refl _, h⟩

theorem Labelled.flush (h : Labelled tokens lo hi node) : Flush tokens lo hi node := by
  obtain ⟨first, hfirst, hlabels, h, hread⟩ := h
  exact ⟨first, hfirst, h.lt, hlabels, (whole_iff.1 h).2.2.1, hread⟩

theorem Kept.embedded (h : Kept tokens lo hi node) (hread : IsRead tokens lo hi node) :
    Embedded tokens lo hi node := by
  cases h with
  | inl h => exact .inl (h.labelled hread)
  | inr h => exact .inr h

theorem Embedded.laid (h : Embedded tokens lo hi node) : Laid tokens lo hi [node] := by
  cases h with
  | inl h => exact h.inside.laid
  | inr h => exact Kept.laid (.inr h)

end Parser

open ThreadLint.Parser

/--
What the parsers of a grammar ensure, at every cursor from some index on.
-/
structure Grammar.Sound (tokens : Array Token) (lo : Nat) (g : Grammar) : Prop where
  depth : ∃ depth, g = ofDepth depth
  expression : ∀ cursor, lo ≤ cursor → cursor ≤ last tokens →
    Ensures tokens g.expression cursor fun node next => Inside tokens cursor next node
  operand : ∀ cursor, lo ≤ cursor → cursor ≤ last tokens →
    Ensures tokens g.operand cursor fun node next => Inside tokens cursor next node
  operation : ∀ cursor least, lo ≤ cursor → cursor ≤ last tokens →
    Ensures tokens (g.operation least) cursor fun node next => Inside tokens cursor next node
  pattern : ∀ cursor designated, lo ≤ cursor → cursor ≤ last tokens →
    Ensures tokens (g.pattern designated) cursor fun node next => Inside tokens cursor next node
  contents : ∀ cursor, lo ≤ cursor → (tokenAt tokens cursor).isPunct ["\x7b"] = true →
    Ensures tokens g.contents cursor fun nodes next =>
      cursor < next ∧ Laid tokens (cursor + 1) next nodes
  statement : ∀ cursor, lo ≤ cursor → cursor ≤ last tokens →
    Ensures tokens g.statement cursor fun node next => Labelled tokens cursor next node
  embedded : ∀ cursor, lo ≤ cursor → cursor ≤ last tokens →
    Ensures tokens g.embedded cursor fun node next => Embedded tokens cursor next node
  members : ∀ cursor owner, lo ≤ cursor → cursor ≤ last tokens →
    Ensures tokens (g.members owner) cursor fun nodes next =>
      Laid tokens cursor next nodes ∧ Parser.isBefore "\x7d" (tokenAt tokens next) = false

theorem Grammar.Sound.mono {tokens : Array Token} {lo lo' : Nat} {g : Grammar}
    (h : g.Sound tokens lo) (hle : lo ≤ lo') : g.Sound tokens lo' where
  depth := h.depth
  expression cursor hlo := h.expression cursor (by omega)
  operand cursor hlo := h.operand cursor (by omega)
  operation cursor least hlo := h.operation cursor least (by omega)
  pattern cursor designated hlo := h.pattern cursor designated (by omega)
  contents cursor hlo := h.contents cursor (by omega)
  statement cursor hlo := h.statement cursor (by omega)
  embedded cursor hlo := h.embedded cursor (by omega)
  members cursor owner hlo := h.members cursor owner (by omega)

namespace Parser

variable {tokens : Array Token} [Lawful tokens] {cursor : Nat} {g : Grammar}

theorem commaList_ensures {goesOn : Token → Bool} {item : Parser Node}
    (hcursor : cursor ≤ last tokens)
    (hitem : ∀ first, cursor ≤ first → first ≤ last tokens →
      goesOn (tokenAt tokens first) = true →
      Ensures tokens item first fun node next => Inside tokens first next node) :
    Ensures tokens (commaList goesOn item) cursor fun nodes next =>
      Laid tokens cursor next nodes := by
  rw [commaList_eq]
  apply loop_ensures (fun found next => Laid tokens cursor next found.reverse) hcursor
  . exact laid_nil (by omega)
  . intro found first hle hlast hfound
    apply takeListed_ensures hlast
    . intro hgoesOn
      apply (hitem first hle hlast hgoesOn).mono
      intro node next _ _ hnode
      have hall : Laid tokens cursor next (node :: found).reverse := by
        rw [List.reverse_cons]
        exact hfound.append hnode.laid (by omega)
      exact ⟨hnode.lt, hall.mono (by omega), hall⟩
    . intro _
      exact hfound

theorem lt_last_of_isBefore {closer : String} {index : Nat}
    (h : isBefore closer (tokenAt tokens index) = true) : index < last tokens := by
  apply lt_last_of_not_isEnd
  simp only [isBefore, Bool.and_eq_true, Bool.not_eq_true'] at h
  simp [h.2]

theorem block_ensures (hg : g.Sound tokens (cursor + 1)) :
    Ensures tokens (block g) cursor fun node next => Whole tokens cursor next node := by
  unfold block
  apply Ensures.here
  apply Ensures.require_braces
  . intro _ hcursor
    refine manyWhile_ensures (Labelled tokens) hcursor ?_
    intro first hfirst hlast hbefore
    have := lt_last_of_isBefore hbefore
    apply (hg.embedded first hfirst hlast).mono
    intro node next _ _ hnode
    cases hnode with
    | inl hnode => exact ⟨hnode.lt, hnode⟩
    | inr hnode => omega
  . intro hopener statements behind stop hle hstop hlast hstatements hcloser
    have hlaid : Laid tokens (cursor + 1) behind statements :=
      .of_chain (hstatements.1.mono fun _ _ _ h => h.inside.laid)
    apply node_whole _ hlaid (by omega)
    exact ⟨hopener, behind, hstatements.1.mono fun _ _ _ h => h.flush, hcloser⟩

theorem initialValue_ensures (hg : g.Sound tokens cursor) (hcursor : cursor ≤ last tokens) :
    Ensures tokens (initialValue g) cursor fun node next => Inside tokens cursor next node := by
  unfold initialValue
  apply Ensures.atPunct
  apply Ensures.ite
  . intro h
    apply Ensures.here
    apply (hg.contents cursor (Nat.le_refl _) h).bind
    intro items next _ hlast hitems
    have := hitems.1
    apply node_inside _ hitems.2 (by omega)
    exact ⟨begins_of_isPunct (by simp) h, hitems.2.clear_token_of_lt (by omega) hlast⟩
  . intro _
    exact hg.expression cursor (Nat.le_refl _) hcursor

theorem contentsItem_ensures (hg : g.Sound tokens cursor) (hcursor : cursor ≤ last tokens) :
    Ensures tokens (contentsItem g) cursor fun node next => Inside tokens cursor next node := by
  unfold contentsItem
  apply Ensures.atPunct
  apply Ensures.ite
  . intro _
    exact initialValue_ensures hg hcursor
  . intro _
    apply Ensures.atPunct
    apply Ensures.ite
    . intro h
      apply (Ensures.skipGroup (Token.isOpener_of_isPunct (by decide) h)).bind
      intro _ next hle _ _
      apply Ensures.require (by simp)
      intro _ hlt
      apply (initialValue_ensures (hg.mono (by omega)) hlt).mono
      intro node next _ _ hnode
      exact hnode.mono (by omega)
    . intro _
      exact hg.expression cursor (Nat.le_refl _) hcursor

theorem contents_ensures (hg : g.Sound tokens (cursor + 1))
    (hopener : (tokenAt tokens cursor).isPunct ["\x7b"] = true) :
    Ensures tokens (contents g) cursor fun nodes next =>
      cursor < next ∧ Laid tokens (cursor + 1) next nodes := by
  have hlt := lt_last_of_isPunct hopener
  unfold contents
  refine .braces hopener (fun _ => bind_eq_of_eq_ok (advance_eq hlt)) (commaList_ensures hlt ?_) ?_
  . intro first hfirst hlast _
    exact contentsItem_ensures (hg.mono (by omega)) hlast
  . intro items next stop hnext hstop hlast hitems _
    exact .pure hlast ⟨by omega, hitems.mono (by omega)⟩

theorem declaredArgument?_ensures (hcursor : cursor ≤ last tokens) :
    Ensures tokens declaredArgument? cursor
      (Attempted cursor fun node next => Inside tokens cursor next node) := by
  apply Ensures.attempt hcursor
  apply (anyType_ensures hcursor).bind
  intro type first hle hlast htype
  apply Ensures.here
  apply Ensures.identifier
  intro hname hlt
  apply Ensures.atPunct
  apply Ensures.ite
  . intro _
    have hbegins := begins_of_isIdentifier hname
    exact node_inside ⟨hbegins, rfl, trivial⟩ (laid_nil (Nat.le_refl first)) (by omega)
  . intro _
    apply Ensures.mismatch

theorem argument_ensures (hg : g.Sound tokens cursor) (hcursor : cursor ≤ last tokens) :
    Ensures tokens (argument g) cursor fun node next => Inside tokens cursor next node := by
  unfold argument
  apply Ensures.current
  apply Ensures.peek
  extract_lets tail
  have htail : ∀ next, cursor ≤ next → next ≤ last tokens →
      Ensures tokens (tail ()) next fun node stop => Inside tokens cursor stop node := by
    intro next hle hlast
    unfold tail
    have hexpression : ∀ first, next ≤ first → first ≤ last tokens →
        Ensures tokens g.expression first fun node stop => Inside tokens cursor stop node := by
      intro first hfirst hlast
      apply (hg.expression first (by omega) hlast).mono
      intro node stop _ _ hnode
      exact hnode.mono (by omega)
    apply Ensures.atKeyword
    apply Ensures.ite
    . intro h
      have hsingle := Single.of_isKeyword h
      apply Ensures.advance hsingle
      apply (declaredArgument?_ensures hsingle.lt).bind
      intro declared stop hle hlast hdeclared
      cases declared with
      | some node => exact .pure hlast (hdeclared.mono (by omega))
      | none => exact hexpression stop (by omega) hlast
    . intro _
      exact hexpression next (Nat.le_refl _) hlast
  clear_value tail
  apply Ensures.ite
  . intro h
    rw [Bool.and_eq_true] at h
    have hsecond := Single.of_isPunct (by simp) h.2
    apply Ensures.advance (.of_isIdentifier h.1)
    apply Ensures.advance hsecond
    apply htail
    . omega
    . exact hsecond.lt
  . intro _
    exact htail cursor (Nat.le_refl _) hcursor

theorem argumentList_ensures {closer : String} (hg : g.Sound tokens (cursor + 1))
    (hcursor : Single tokens cursor) (hcloser : closer ≠ "\x7b") :
    Ensures tokens (argumentList g closer) cursor fun result next =>
      cursor < next ∧ Laid tokens (cursor + 1) next result.1 ∧
        ∀ token ∈ result.2, ∃ index, cursor < index ∧ index < next ∧
          token.start = startAt tokens index := by
  unfold argumentList
  apply Ensures.advance hcursor
  apply (commaList_ensures hcursor.lt _).bind
  . intro arguments behind hle hlast harguments
    apply (Ensures.expect hlast closer hcloser).bind
    rintro _ _ _ hlast (⟨_, rfl, _, rfl⟩ | ⟨rfl, _, rfl⟩)
    . refine .pure hlast ⟨by omega, harguments.mono (by omega), ?_⟩
      rintro _ ⟨⟩
      exact ⟨behind, hle, Nat.lt_succ_self _, rfl⟩
    . refine .pure hlast ⟨by omega, harguments, ?_⟩
      rintro _ ⟨⟩
  . intro first hfirst hlast _
    exact argument_ensures (hg.mono (by omega)) hlast

end Parser

end ThreadLint
