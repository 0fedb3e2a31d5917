import ThreadLint.Grammar.Method
import ThreadLint.Proofs.Grammar.Expression

/-!
This module contains what the parsers for methods and for declarators of variables ensure.
-/

namespace ThreadLint.Parser

variable {tokens : Array Token} [Lawful tokens] {cursor : Nat} {g : Grammar}

theorem body_ensures (hg : g.Sound tokens (cursor + 1)) (hcursor : cursor ≤ last tokens) :
    Ensures tokens (body g) cursor fun result next => Laid tokens cursor next result.toList := by
  unfold body
  apply Ensures.atPunct
  apply Ensures.ite
  . intro _
    apply (block_ensures hg).bind
    intro node next _ hlast hnode
    exact .pure hlast hnode.inside.laid
  . intro _
    apply (Ensures.accept hcursor "=>" (by simp)).bind
    rintro _ _ _ hlast (⟨rfl, _, rfl⟩ | ⟨rfl, rfl⟩)
    . apply (hg.expression _ (Nat.le_refl _) hlast).bind
      intro value next _ hlast hvalue
      apply (Ensures.expect hlast ";" (by simp)).bind
      intro _ stop _ hlast _
      exact .pure hlast (hvalue.laid.mono (by omega))
    . apply (Ensures.expect hlast ";" (by simp)).bind
      intro _ stop _ hlast _
      exact .pure hlast (laid_nil (by omega))

/-- A brace behind the colon of a constructor is loose. -/
theorem skipConstructorCall_ensures (hcursor : cursor ≤ last tokens)
    (hbehind : cursor = last tokens ∨ (tokenAt tokens (cursor - 1)).isPunct [")"] = true)
    (hpos : 0 < cursor) : Ensures tokens skipConstructorCall cursor fun _ _ => True := by
  unfold skipConstructorCall
  unfold Parser.accept
  apply Ensures.bind (Q := fun found next => found = true → (tokenAt tokens cursor).isPunct [":"]
    = true ∧ next = cursor + 1)
  . apply Ensures.atPunct
    apply Ensures.ite
    . intro hcolon
      have hsingle := Single.of_isPunct (by simp) hcolon
      apply Ensures.advance hsingle
      exact .pure hsingle.lt fun _ => ⟨hcolon, rfl⟩
    . intro _
      apply Ensures.pure hcursor
      simp
  . intro found next _ hlast hfound
    apply Ensures.ite
    . intro h
      obtain ⟨hcolon, rfl⟩ := hfound h
      have henclosed : Enclosed tokens (cursor + 1) (cursor + 1 + 1) := by
        cases hbrace : (tokenAt tokens (cursor + 1)).isPunct ["\x7b"] with
        | false => exact .step hbrace
        | true =>
          have := lt_last_of_isPunct hcolon
          obtain hlast | hparen := hbehind
          . omega
          . apply Enclosed.of_isLoose (Nat.le_refl _) (Nat.lt_succ_self _)
            refine ⟨hbrace, .inr ⟨cursor - 1, by omega, hparen, ?_⟩⟩
            rwa [Nat.sub_add_cancel hpos]
      apply (Ensures.advance_or_stay hlast henclosed).bind
      intro _ first _ hlast _
      exact skipParentheses_ensures hlast
    . intro _
      exact .pure hlast trivial

/-- Whether a method has a body does not matter for where its name and type are. -/
theorem method_ensures {first : Nat} {attributes : List Node} {head : MethodHead}
    (hg : g.Sound tokens (cursor + 1)) (hcursor : cursor ≤ last tokens)
    (hattributes : Laid tokens first cursor attributes)
    (hdeclared : (tokenAt tokens cursor).isPunct ["<"] = true →
      ∃ name, cursor = name + 1 ∧ IsDeclaredName tokens name)
    (hhead : ∃ index, first ≤ index ∧ index < cursor ∧
      IsName tokens index head.name head.nameExtent ∧
      Clear attributes head.nameExtent ∧
      ∀ result ∈ head.returnType, Written tokens first index result ∧ head.isConstructor = false) :
    Ensures tokens (method g first attributes head) cursor fun node next =>
      Whole tokens first next node := by
  obtain ⟨index, hfirst, hindex, hname, hclear, hresult⟩ := hhead
  unfold method
  apply (skipTypeParameters_ensures hcursor hdeclared).bind
  intro _ opener hopener hlast _
  apply Ensures.atPunct
  extract_lets -underBinder tail
  have htail : ∀ parameters next, opener ≤ next → next ≤ last tokens →
      Laid tokens opener next parameters →
      (next = last tokens ∨ (tokenAt tokens (next - 1)).isPunct [")"] = true) →
      Ensures tokens (tail parameters) next fun node stop => Whole tokens first stop node := by
    intro parameters next hnext hlast hparameters hparen
    unfold tail
    extract_lets -underBinder behind
    have hbehind : ∀ start, next ≤ start → start ≤ last tokens →
        Ensures tokens (behind ()) start fun node stop => Whole tokens first stop node := by
      intro start hstart hlast
      apply (skipConstraints_ensures hlast).bind
      intro _ first' hfirst' hlast _
      apply (body_ensures (hg.mono (by omega)) hlast).bind
      intro body stop hstop hlast hbody
      have hhead := hattributes.append hparameters (by omega)
      apply node_whole _ (hhead.append hbody (by omega)) (by omega)
      have hrest := hparameters.append hbody (by omega)
      have hbehind : Clear (parameters ++ body.toList) (tokenAt tokens index).extent :=
        hrest.clear_token_of_lt (by omega) hlast
      rw [← hname.2.2] at hbehind
      refine ⟨index, hfirst, by omega, hname, ?_, hresult⟩
      rw [List.append_assoc]
      exact hclear.append hbehind
    clear_value behind
    apply Ensures.ite
    . intro _
      apply (skipConstructorCall_ensures hlast hparen (by omega)).bind
      intro _ start hstart hlast _
      exact hbehind start hstart hlast
    . intro _
      exact hbehind next (Nat.le_refl _) hlast
  clear_value tail
  apply Ensures.ite
  . intro h
    apply (parameterList_ensures (hg.mono (by omega)) (.of_isPunct (by simp) h) (by simp)).bind
    rintro parameters next hnext hlast ⟨hparameters, hparen⟩
    exact htail parameters next hnext hlast hparameters.2 hparen
  . intro _
    apply Ensures.mismatch_bind

theorem declarator_ensures {nameIndex : Nat} (hg : g.Sound tokens (cursor + 1))
    (hcursor : cursor ≤ last tokens) (hindex : nameIndex < cursor)
    (hname : (tokenAt tokens nameIndex).isIdentifier = true) :
    Ensures tokens (declarator g nameIndex) cursor fun node next =>
      Inside tokens nameIndex next node := by
  unfold declarator
  apply Ensures.tokenNumber (by omega)
  apply (Ensures.accept hcursor "=" (by simp)).bind
  intro found next _ hlast hfound
  extract_lets -underBinder tail
  have htail : ∀ initial stop, next ≤ stop → stop ≤ last tokens → Laid tokens next stop initial →
      Ensures tokens (tail initial) stop fun node stop => Inside tokens nameIndex stop node := by
    intro initial stop hstop hlast hinitial
    apply node_inside _ hinitial (by omega)
    refine ⟨⟨hname, rfl, rfl⟩, ?_⟩
    exact hinitial.clear_token_of_lt (by omega) hlast
  clear_value tail
  apply Ensures.ite
  . intro h
    have : cursor < next := by
      obtain ⟨_, _, hnext⟩ | ⟨hnot, _⟩ := hfound
      . omega
      . simp [hnot] at h
    apply (initialValue_ensures (hg.mono (by omega)) hlast).bind
    intro value stop hstop hlast hvalue
    exact htail [value] stop hstop hlast hvalue.laid
  . intro _
    exact htail [] next (Nat.le_refl _) hlast (laid_nil (by omega))

theorem declarators_ensures {nameIndex : Nat} (hg : g.Sound tokens (cursor + 1))
    (hcursor : cursor ≤ last tokens) (hindex : nameIndex < cursor)
    (hname : (tokenAt tokens nameIndex).isIdentifier = true) :
    Ensures tokens (declarators g nameIndex) cursor fun nodes next =>
      Laid tokens nameIndex next nodes ∧ nodes ≠ [] := by
  apply loop_ensures (fun (state : Nat × List Node) next =>
    state.1 < next ∧ (tokenAt tokens state.1).isIdentifier = true ∧
      Laid tokens nameIndex state.1 state.2.reverse) hcursor
  . exact ⟨hindex, hname, laid_nil (by omega)⟩
  . rintro ⟨nameIndex', found⟩ index hle hlast ⟨hindex, hname, hfound⟩
    apply (declarator_ensures (hg.mono (by omega)) hlast hindex hname).bind
    intro node next hnext hlast hnode
    have hall : Laid tokens nameIndex next (node :: found).reverse := by
      rw [List.reverse_cons]
      exact hfound.append hnode.laid (by omega)
    apply (Ensures.accept hlast "," (by simp)).bind
    rintro _ _ _ hlast (⟨rfl, _, rfl⟩ | ⟨rfl, rfl⟩)
    . apply Ensures.here
      apply Ensures.identifier
      intro hidentifier hlt
      refine .pure hlt ⟨by omega, Nat.lt_succ_self _, hidentifier, ?_⟩
      exact hall.mono (by omega)
    . exact .pure hlast ⟨hall, by simp⟩

end ThreadLint.Parser
