import ThreadLint.Grammar.Skip
import ThreadLint.Proofs.Grammar.Placed

/-!
This module contains what is ensured where tokens are passed over: a construct that is skipped is
kept as a node of its tokens, unless it is missing at the end of the text.
-/

namespace ThreadLint.Parser

variable {tokens : Array Token} [Lawful tokens] {cursor : Nat}

theorem node_kept {keyword : String} {first : Nat} (hfirst : first ≤ cursor)
    (hcursor : cursor ≤ last tokens) (h : first < cursor ∨ first = last tokens) :
    Ensures tokens (node (.otherStmt keyword) first []) cursor fun node next =>
      Kept tokens first next node := by
  by_cases hlt : first < cursor
  . refine .mono (node_ensures trivial (laid_nil hfirst) (by omega)) ?_
    rintro node _ _ _ ⟨rfl, hnode⟩
    exact .inl hnode
  . have heq : first = last tokens := by omega
    have : cursor = last tokens := by omega
    intro _
    rw [node_eq (by omega) hcursor (by simp [Form.nameExtent?, Form.typeExtents]), if_neg hlt]
    refine ⟨Nat.le_refl _, hcursor, .refl _ _, .inr ⟨⟨rfl, rfl, ?_⟩, heq, this⟩⟩
    rw [← heq]

/-- What is passed over does not begin with a brace alone, as it would go on to what closes that. -/
theorem skipConstruct_ensures {keyword : String} (hcursor : cursor ≤ last tokens) :
    Ensures tokens (skipConstruct cursor keyword) cursor fun node next =>
      Kept tokens cursor next node := by
  unfold skipConstruct
  apply Ensures.seek (Nat.le_refl _) hcursor (.refl _ _)
  apply Ensures.bind (Q := fun _ next =>
    next = cursor → (tokenAt tokens cursor).isPunct ["\x7b"] = false)
  . apply loop_ensures (fun _ _ => True) hcursor trivial
    intro _ index hindex hlast _
    apply Ensures.current
    apply Ensures.ite
    . intro h
      apply Ensures.pure hlast
      rintro rfl
      rw [Bool.or_eq_true] at h
      cases h with
      | inl hend =>
        rw [Bool.eq_false_iff]
        exact fun hbrace => Token.not_isEnd_of_isPunct hbrace hend
      | inr hcloser => exact not_brace_of_isCloser hcloser
    . intro h
      rw [Bool.or_eq_true, not_or] at h
      have hlt := lt_last_of_not_isEnd h.1
      apply Ensures.ite
      . intro hpunct
        apply Ensures.advance (.of_isPunct (by simp) hpunct)
        apply Ensures.pure hlt
        intro heq
        omega
      . intro _
        apply Ensures.ite
        . intro hopener
          apply (Ensures.skipGroup hopener).bind
          intro _ next _ hlast hnext
          apply Ensures.ite
          . intro _
            apply (Ensures.accept hlast ";" (by simp)).bind
            intro _ stop hstop hlast _
            apply Ensures.pure hlast
            intro heq
            omega
          . intro _
            exact .pure hlast ⟨hnext, trivial⟩
        . intro hopener
          rw [Bool.not_eq_true] at hopener
          apply Ensures.advance ⟨hlt, not_brace_of_not_isOpener hopener⟩
          exact .pure hlt ⟨Nat.lt_succ_self _, trivial⟩
  . intro _ next hle hlast hbrace
    apply Ensures.here
    extract_lets tail
    apply Ensures.ite
    . intro heq
      rw [beq_iff_eq] at heq
      subst heq
      apply (Ensures.advance_or_stay hlast (.step (hbrace rfl))).bind
      intro _ stop _ hstop hadvance
      apply node_kept _ hstop
      . omega
      . omega
    . intro hne
      rw [beq_iff_eq] at hne
      apply node_kept hle hlast
      omega

/-! ### Type parameters -/

omit [Lawful tokens] in
theorem AngleDepth.first_isPunct {first index depth : Nat} (h : AngleDepth tokens first index depth) :
    (tokenAt tokens first).isPunct ["<"] = true := by
  induction h with
  | start h => exact h
  | opens _ _ ih => exact ih
  | closes _ _ ih => exact ih
  | other _ _ ih => exact ih

omit [Lawful tokens] in
theorem AngleDepth.lt {first index depth : Nat} (h : AngleDepth tokens first index depth) :
    first < index ∧ 0 < depth := by
  induction h with
  | start _ => omega
  | opens _ _ ih => omega
  | closes _ _ ih => omega
  | other _ _ ih => omega

omit [Lawful tokens] in
/-- Between angle brackets stands a loose brace or none at all. -/
theorem AngleDepth.enclosed {name stop : Nat} (h : AngleDepth tokens (name + 1) stop 1)
    (hname : IsDeclaredName tokens name) (hclose : (tokenAt tokens stop).isPunct [">"] = true) :
    Enclosed tokens (name + 1) (stop + 1) := by
  have hlt := h.lt
  by_cases hbrace : ∃ index, name + 1 < index ∧ index < stop ∧
      (tokenAt tokens index).isPunct ["\x7b"] = true
  . obtain ⟨index, hindex, hstop, hbrace⟩ := hbrace
    have hloose : IsLoose tokens index :=
      ⟨hbrace, .inl ⟨name, stop, hname, h, hclose, hindex, hstop⟩⟩
    exact .of_isLoose (by omega) (by omega) hloose
  . apply Enclosed.steps (by omega)
    intro index hindex hstop
    by_cases hfirst : index = name + 1
    . rw [hfirst]
      exact isPunct_eq_false_of_isPunct (by simp) h.first_isPunct
    . by_cases hlast : index = stop
      . rw [hlast]
        exact isPunct_eq_false_of_isPunct (by simp) hclose
      . rw [Bool.eq_false_iff]
        exact fun h => hbrace ⟨index, by omega, by omega, h⟩

theorem skipInAngles_eq (depth : Nat) {index : Nat} (h : index < last tokens) :
    skipInAngles depth tokens index = .ok
      (if (tokenAt tokens index).isPunct ["<"] then .more (depth + 1)
        else if (tokenAt tokens index).isPunct [">"] then
          if depth = 1 then .done () else .more (depth - 1)
        else .more depth, index + 1) := by
  unfold skipInAngles
  have hend : atEnd tokens index = .ok ((tokenAt tokens index).isEnd, index) :=
    bind_eq_of_eq_ok (current_eq (Nat.le_of_lt h))
  rw [bind_eq_of_eq_ok hend, not_isEnd_of_lt_last h]
  show (advance >>= _) tokens index = _
  rw [bind_eq_of_eq_ok (advance_eq h)]
  split
  . rfl
  . split
    . split
      . rfl
      . rfl
    . rfl

theorem skipInAngles_last {depth : Nat} :
    skipInAngles depth tokens (last tokens) = .ok (.done (), last tokens) := by
  unfold skipInAngles
  have hend : atEnd tokens (last tokens) = .ok ((tokenAt tokens (last tokens)).isEnd, last tokens) :=
    bind_eq_of_eq_ok (current_eq (Nat.le_refl _))
  rw [bind_eq_of_eq_ok hend, (Lawful.isEnd_iff _).2 (Nat.le_refl _)]
  rfl

/-- The list goes on to the end of the text, or to the angle bracket that closes the first one. -/
theorem loopAtMost_skipInAngles {bound first index depth : Nat}
    (h : AngleDepth tokens first index depth) (hindex : index ≤ last tokens)
    (hbound : last tokens < index + bound) :
    ∃ stop, loopAtMost skipInAngles bound depth tokens index = .ok ((), stop) ∧ index ≤ stop ∧
      stop ≤ last tokens ∧ (stop = last tokens ∨ ∃ closer, stop = closer + 1 ∧
        AngleDepth tokens first closer 1 ∧ (tokenAt tokens closer).isPunct [">"] = true) := by
  induction bound generalizing index depth with
  | zero => omega
  | succ bound ih =>
    unfold loopAtMost
    by_cases hlast : index = last tokens
    . subst hlast
      rw [bind_eq_of_eq_ok skipInAngles_last]
      exact ⟨last tokens, rfl, Nat.le_refl _, Nat.le_refl _, .inl rfl⟩
    have hlt : index < last tokens := by omega
    have hmore : ∀ {depth}, AngleDepth tokens first (index + 1) depth → ∃ stop,
        loopAtMost skipInAngles bound depth tokens (index + 1) = .ok ((), stop) ∧ index ≤ stop ∧
          stop ≤ last tokens ∧ (stop = last tokens ∨ ∃ closer, stop = closer + 1 ∧
            AngleDepth tokens first closer 1 ∧ (tokenAt tokens closer).isPunct [">"] = true) := by
      intro depth h
      obtain ⟨stop, heq, hle, hstop⟩ := ih h hlt (by omega)
      exact ⟨stop, heq, by omega, hstop⟩
    rw [bind_eq_of_eq_ok (skipInAngles_eq depth hlt)]
    split
    . next hopens => exact hmore (h.opens hopens)
    . next hopens =>
      split
      . next hcloses =>
        split
        . next hone =>
          subst hone
          exact ⟨index + 1, rfl, Nat.le_succ _, hlt, .inr ⟨index, rfl, h, hcloses⟩⟩
        . next hone =>
          have := h.lt
          obtain ⟨outer, rfl⟩ : ∃ outer, depth = outer + 2 := ⟨depth - 2, by omega⟩
          exact hmore (h.closes hcloses)
      . next hcloses =>
        apply hmore
        apply h.other
        simp only [Token.isPunct, Bool.and_eq_true, not_and, Bool.and_eq_false_iff] at *
        grind

theorem skipTypeParameters_ensures (hcursor : cursor ≤ last tokens)
    (hname : (tokenAt tokens cursor).isPunct ["<"] = true →
      ∃ name, cursor = name + 1 ∧ IsDeclaredName tokens name) :
    Ensures tokens skipTypeParameters cursor fun _ _ => True := by
  unfold skipTypeParameters
  apply Ensures.atPunct
  apply Ensures.ite
  . intro h
    obtain ⟨name, rfl, hdeclared⟩ := hname h
    have hlt := lt_last_of_isPunct h
    have hfirst := skipInAngles_eq 0 hlt
    rw [if_pos h] at hfirst
    have hbound : last tokens < name + 2 + (tokens.size - (name + 1)) := by
      unfold last at *
      omega
    obtain ⟨stop, hloop, hle, hlast, hstop⟩ := loopAtMost_skipInAngles (.start h) hlt hbound
    have heq : loop skipInAngles 0 tokens (name + 1) = .ok ((), stop) := by
      unfold loop loopAtMost
      rw [bind_eq_of_eq_ok hfirst]
      exact hloop
    intro _
    rw [heq]
    refine ⟨by omega, hlast, ?_, trivial⟩
    obtain rfl | ⟨closer, rfl, hdepth, hclose⟩ := hstop
    . exact .of_eq_last rfl
    . exact hdepth.enclosed hdeclared hclose
  . intro _
    exact .pure hcursor trivial

/-! ### Constraints and labels -/

theorem skipConstraints_ensures (hcursor : cursor ≤ last tokens) :
    Ensures tokens skipConstraints cursor fun _ _ => True := by
  apply loop_ensures (fun _ _ => True) hcursor trivial
  intro _ index _ hlast _
  apply Ensures.atWord
  apply Ensures.ite
  . intro h
    have hsingle := Single.of_isWord h
    apply Ensures.advance hsingle
    refine .bind (skipWhile_ensures hsingle.lt (fun _ => Token.isOpener_of_isPunct (by decide)) ?_) ?_
    . intro token hbrace hpasses
      obtain ⟨hkind, htext⟩ := Token.isPunct_iff.1 hbrace
      simp [Token.isPunct, hkind, List.mem_singleton.1 htext] at hpasses
    intro _ _ hle hlast _
    exact .pure hlast ⟨by omega, trivial⟩
  . intro _
    exact .pure hlast trivial

theorem skipCaseLabel_ensures (hcursor : Single tokens cursor) :
    Ensures tokens skipCaseLabel cursor fun _ next => cursor < next := by
  unfold skipCaseLabel
  apply Ensures.advance hcursor
  apply (skipWhile_ensures hcursor.lt (fun _ => id) fun _ hbrace _ =>
    Token.isOpener_of_isPunct (by decide) hbrace).bind
  intro _ _ hle hlast _
  apply (Ensures.accept hlast ":" (by simp)).bind
  intro _ _ _ hlast _
  exact .pure hlast (by omega)

end ThreadLint.Parser
