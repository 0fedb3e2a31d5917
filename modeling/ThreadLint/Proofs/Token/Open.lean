import Mathlib.Data.List.Basic
import ThreadLint.Proofs.Token.Cut
import ThreadLint.Proofs.Token.Nesting

/-!
This module contains which brackets are open in front of a token, and that these are the ones that
nothing closes if the text is cut off there.
-/

namespace ThreadLint.Token

/--
Whether a token is an opening bracket that no bracket in front of an index closes.
-/
def isOpenBefore (tokens : Array Token) (stop index : Nat) (token : Token) : Bool :=
  token.isOpener && (matching? tokens index).all fun closer => decide (stop ≤ closer)

/--
The opening brackets in front of an index that no bracket in front of it closes, in the order of the
text.
-/
def openBefore (tokens : Array Token) (stop : Nat) : List Token :=
  (List.range stop).filterMap fun index => tokens[index]?.filter (isOpenBefore tokens stop index)

/--
The brackets that are open in front of an index, the last one first. Those behind each of them come
in groups.
-/
inductive Nested (tokens : Array Token) : Nat → List Token → Prop where
  | nil {stop : Nat} (inner : Balanced tokens 0 stop) : Nested tokens stop []
  | cons {opener stop : Nat} {outer : List Token}
    (h : opener < tokens.size)
    (isOpener : tokens[opener].isOpener = true)
    (around : Nested tokens opener outer)
    (inner : Balanced tokens (opener + 1) stop) :
    Nested tokens stop (tokens[opener] :: outer)

variable {tokens : Array Token}

/-! ### Reading on -/

theorem Balanced.append {start middle stop : Nat} (h : Balanced tokens start middle)
    (hrest : Balanced tokens middle stop) : Balanced tokens start stop := by
  induction h with
  | nil => exact hrest
  | plain h opener closer _ ih => exact .plain h opener closer (ih hrest)
  | group fitting inner _ _ ih => exact .group fitting inner (ih hrest)

theorem Nested.append {middle stop : Nat} {opened : List Token} (h : Nested tokens middle opened)
    (hrest : Balanced tokens middle stop) : Nested tokens stop opened := by
  cases h with
  | nil inner => exact .nil (inner.append hrest)
  | cons h isOpener around inner => exact .cons h isOpener around (inner.append hrest)

theorem Nested.plain {index : Nat} {opened : List Token} (h : Nested tokens index opened)
    (hindex : index < tokens.size) (hopener : tokens[index].isOpener = false)
    (hcloser : tokens[index].isCloser = false) : Nested tokens (index + 1) opened :=
  h.append (.plain hindex hopener hcloser .nil)

theorem Nested.close {index : Nat} {opener : Token} {outer : List Token}
    (h : Nested tokens index (opener :: outer)) (hindex : index < tokens.size)
    (hcloser : tokens[index].isCloser = true) (htext : opener.closer? = some tokens[index].text) :
    Nested tokens (index + 1) outer := by
  cases h with
  | cons h isOpener around inner =>
    exact around.append (.group ⟨h, hindex, htext, hcloser⟩ inner .nil)

/-- The check of the nesting goes through all that stands in front of a place at which it goes on. -/
theorem unclosed_go_append {source : Source} (other : Source) {index : Nat} {opened front back full : List Token}
    {final : Token} (hfinal : final.isEnd = true) (htokens : tokens.toList.drop index = front ++ back)
    (hnested : Nested tokens index opened)
    (h : unclosed.go source opened (front ++ back) = .ok full) :
    ∃ open', Nested tokens (index + front.length) open' ∧
      unclosed.go source open' back = .ok full ∧
        unclosed.go other opened (front ++ [final]) = .ok open'.reverse := by
  induction front generalizing index opened with
  | nil =>
    refine ⟨opened, hnested, h, ?_⟩
    have hopener : final.isOpener = false := by
      rw [Bool.eq_false_iff]
      exact fun hopener => not_isEnd_of_isOpener hopener hfinal
    have hcloser : final.isCloser = false := by
      rw [Bool.eq_false_iff]
      exact fun hcloser => not_isEnd_of_isPunct hcloser hfinal
    simp [unclosed.go, hopener, hcloser]
  | cons token front ih =>
    have hlt : index < tokens.toList.length := by
      apply Classical.byContradiction
      intro hge
      rw [List.drop_eq_nil_of_le (by omega)] at htokens
      simp at htokens
    rw [List.drop_eq_getElem_cons hlt, List.cons_append, List.cons.injEq] at htokens
    obtain ⟨rfl, htokens⟩ := htokens
    rw [Array.length_toList] at hlt
    rw [List.cons_append] at h ⊢
    rw [Array.getElem_toList] at h ⊢
    unfold unclosed.go at h
    rw [List.length_cons, show index + (front.length + 1) = index + 1 + front.length by omega]
    split at h
    . next hopener =>
      obtain ⟨open', hopened, hback, hgo⟩ := ih htokens (.cons hlt hopener hnested .nil) h
      refine ⟨open', hopened, hback, ?_⟩
      unfold unclosed.go
      rw [if_pos hopener]
      exact hgo
    . next hopener =>
      split at h
      . next hcloser =>
        split at h
        . simp at h
        . next opener outer =>
          split at h
          . next htext =>
            obtain ⟨open', hopened, hback, hgo⟩ := ih htokens (hnested.close hlt hcloser htext) h
            refine ⟨open', hopened, hback, ?_⟩
            unfold unclosed.go
            rw [if_neg hopener, if_pos hcloser]
            dsimp only
            rw [if_pos htext]
            exact hgo
          . simp at h
      . next hcloser =>
        obtain ⟨open', hopened, hback, hgo⟩ :=
          ih htokens (hnested.plain hlt (by simpa using hopener) (by simpa using hcloser)) h
        refine ⟨open', hopened, hback, ?_⟩
        unfold unclosed.go
        rw [if_neg hopener, if_neg hcloser]
        exact hgo

/-! ### The brackets that are open -/

/-- A bracket is closed in front of an index, or the search for what closes it goes on there. -/
theorem Nested.closed_or_searched {stop index : Nat} {opened : List Token}
    (h : Nested tokens stop opened) (hstop : index < stop) (hindex : index < tokens.size)
    (hopener : tokens[index].isOpener = true) :
    (∃ closer, closer < stop ∧ matching? tokens index = some closer ∧
        Balanced tokens (index + 1) closer) ∨
      ∃ depth, 1 ≤ depth ∧ closing? tokens 0 index = closing? tokens depth stop := by
  induction h with
  | nil inner =>
    obtain ⟨closer, hcloser, fitting, hinner⟩ :=
      inner.of_isOpener (Nat.zero_le _) hstop hindex hopener
    exact .inl ⟨closer, hcloser, hinner.matching?_eq fitting, hinner⟩
  | @cons opener stop outer h isOpener around inner ih =>
    have := inner.le
    by_cases hlt : index < opener
    . rcases ih hlt with ⟨closer, hcloser, hmatching, hinner⟩ | ⟨depth, hdepth, hclosing⟩
      . exact .inl ⟨closer, by omega, hmatching, hinner⟩
      . refine .inr ⟨depth + 1, by omega, ?_⟩
        rw [hclosing, closing?_of_opener h isOpener, inner.closing?_eq (by omega)]
    . by_cases heq : index = opener
      . subst heq
        refine .inr ⟨1, Nat.le_refl _, ?_⟩
        rw [closing?_of_opener h isOpener, inner.closing?_eq (Nat.le_refl _)]
      . obtain ⟨closer, hcloser, fitting, hinner⟩ :=
          inner.of_isOpener (by omega) hstop hindex hopener
        exact .inl ⟨closer, hcloser, hinner.matching?_eq fitting, hinner⟩

theorem isOpenBefore_of_searched {stop index depth : Nat} {token : Token}
    (hopener : token.isOpener = true)
    (h : closing? tokens 0 index = closing? tokens depth stop) :
    isOpenBefore tokens stop index token = true := by
  unfold isOpenBefore
  rw [hopener, Bool.true_and, Option.all_eq_true]
  intro closer hmatching
  obtain ⟨_, _, _, _, _, hclosing⟩ := matching?_eq_some hmatching
  rw [h] at hclosing
  exact decide_eq_true (closing?_eq_some hclosing).1

theorem isOpenBefore_of_closed {stop index closer : Nat} {token : Token}
    (h : matching? tokens index = some closer) (hlt : closer < stop) :
    isOpenBefore tokens stop index token = false := by
  unfold isOpenBefore
  simp [h, hlt]

theorem filter_eq_none_of_balanced {start stop index : Nat} (h : Balanced tokens start stop)
    (hstart : start ≤ index) (hstop : index < stop) :
    tokens[index]?.filter (isOpenBefore tokens stop index) = none := by
  rw [Option.filter_eq_none_iff]
  intro token htoken
  obtain ⟨hindex, rfl⟩ := Array.getElem?_eq_some_iff.1 htoken
  rw [Bool.not_eq_true]
  by_cases hopener : tokens[index].isOpener = true
  . obtain ⟨closer, hcloser, fitting, hinner⟩ := h.of_isOpener hstart hstop hindex hopener
    exact isOpenBefore_of_closed (hinner.matching?_eq fitting) hcloser
  . simp [isOpenBefore, hopener]

/-- What is open in front of a bracket stays open as long as that one does. -/
theorem Nested.isOpenBefore_eq {opener stop index : Nat} {outer : List Token}
    (h : Nested tokens opener outer) (hopener : opener < tokens.size)
    (isOpener : tokens[opener].isOpener = true) (inner : Balanced tokens (opener + 1) stop)
    (hindex : index < opener) :
    isOpenBefore tokens stop index tokens[index] = isOpenBefore tokens opener index tokens[index] := by
  have hle := inner.le
  by_cases hisOpener : tokens[index].isOpener = true
  . rcases h.closed_or_searched hindex (by omega) hisOpener with
      ⟨closer, hcloser, hmatching, _⟩ | ⟨depth, hdepth, hclosing⟩
    . rw [isOpenBefore_of_closed hmatching hcloser, isOpenBefore_of_closed hmatching (by omega)]
    . rw [isOpenBefore_of_searched hisOpener hclosing]
      rw [closing?_of_opener hopener isOpener, inner.closing?_eq (by omega)] at hclosing
      rw [isOpenBefore_of_searched hisOpener hclosing]
  . simp [isOpenBefore, hisOpener]

theorem Nested.openBefore_eq {stop : Nat} {opened : List Token} (h : Nested tokens stop opened) :
    openBefore tokens stop = opened.reverse := by
  induction h with
  | nil inner =>
    unfold openBefore
    rw [List.reverse_nil, List.filterMap_eq_nil_iff]
    intro index hindex
    exact filter_eq_none_of_balanced inner (Nat.zero_le _) (List.mem_range.1 hindex)
  | @cons opener stop outer hopener isOpener around inner ih =>
    have hle := inner.le
    have hfront : (List.range opener).filterMap
        (fun index => tokens[index]?.filter (isOpenBefore tokens stop index)) = outer.reverse := by
      rw [← ih]
      apply List.filterMap_congr
      intro index hindex
      rw [List.mem_range] at hindex
      rw [Array.getElem?_eq_getElem (by omega)]
      simp only [Option.filter, around.isOpenBefore_eq hopener isOpener inner hindex]
    have hback : (List.range' (opener + 1) (stop - (opener + 1))).filterMap
        (fun index => tokens[index]?.filter (isOpenBefore tokens stop index)) = [] := by
      rw [List.filterMap_eq_nil_iff]
      intro index hindex
      rw [List.mem_range'_1] at hindex
      exact filter_eq_none_of_balanced inner (by omega) (by omega)
    have hsearched : closing? tokens 0 opener = closing? tokens 1 stop := by
      rw [closing?_of_opener hopener isOpener, inner.closing?_eq (Nat.le_refl _)]
    have hopen := isOpenBefore_of_searched isOpener hsearched
    have hrange : List.range stop =
        List.range opener ++ opener :: List.range' (opener + 1) (stop - (opener + 1)) := by
      rw [List.range_eq_range', List.range_eq_range', ← List.range'_succ]
      have := @List.range'_append_1 0 opener (stop - (opener + 1) + 1)
      rw [Nat.zero_add] at this
      rw [this]
      congr 1
      omega
    unfold openBefore
    rw [hrange, List.filterMap_append, hfront, List.filterMap_cons, hback]
    rw [Array.getElem?_eq_getElem hopener]
    simp [Option.filter, hopen]

section

variable {source : Source} {tokens openers : List Token}
  (h : unclosed source tokens = .ok openers)

include h

/-- In a text that ends in front of an index, nothing closes the brackets that are open there. -/
theorem unclosed_take {index : Nat} (hindex : index ≤ tokens.length) (other : Source) {final : Token}
    (hfinal : final.isEnd = true) :
    unclosed other (tokens.take index ++ [final]) = .ok (openBefore tokens.toArray index) := by
  unfold unclosed at h ⊢
  rw [← List.take_append_drop index tokens] at h
  have htokens : tokens.toArray.toList.drop 0 = tokens.take index ++ tokens.drop index := by simp
  obtain ⟨opened, hnested, _, hopened⟩ :=
    unclosed_go_append other hfinal htokens (.nil .nil) h
  rw [Nat.zero_add, List.length_take, Nat.min_eq_left hindex] at hnested
  rw [hopened, hnested.openBefore_eq]

theorem exists_nested {index : Nat} (hindex : index ≤ tokens.length) :
    ∃ opened, Nested tokens.toArray index opened := by
  unfold unclosed at h
  rw [← List.take_append_drop index tokens] at h
  have htokens : tokens.toArray.toList.drop 0 = tokens.take index ++ tokens.drop index := by simp
  have hfinal : (endAt 0).isEnd = true := rfl
  obtain ⟨opened, hnested, _⟩ := unclosed_go_append source hfinal htokens (.nil .nil) h
  rw [Nat.zero_add, List.length_take, Nat.min_eq_left hindex] at hnested
  exact ⟨opened, hnested⟩

/-- What stands between a bracket and the one that closes it comes in groups. -/
theorem balanced_of_matching? {opener closer : Nat}
    (hmatching : matching? tokens.toArray opener = some closer) :
    Balanced tokens.toArray (opener + 1) closer := by
  obtain ⟨hlt, hopener, hcloser, htext, _, hclosing⟩ := matching?_eq_some hmatching
  have hisOpener : tokens.toArray[opener].isOpener = true := by
    rw [isOpener, htext]
    rfl
  have hstop : closer < tokens.length := by simpa using hcloser
  obtain ⟨opened, hnested⟩ := exists_nested h hstop
  obtain ⟨found, _, hfound, hinner⟩ | ⟨depth, _, hsearched⟩ :=
    hnested.closed_or_searched (by omega) hopener hisOpener
  . rw [hmatching] at hfound
    cases hfound
    exact hinner
  . rw [hclosing] at hsearched
    have := (closing?_eq_some hsearched.symm).1
    omega

theorem unclosed_eq : openers = openBefore tokens.toArray tokens.length := by
  unfold unclosed at h
  rw [← List.append_nil tokens] at h
  have htokens : tokens.toArray.toList.drop 0 = tokens ++ [] := by simp
  have hfinal : (endAt 0).isEnd = true := rfl
  obtain ⟨opened, hnested, hopened, _⟩ :=
    unclosed_go_append source hfinal htokens (.nil .nil) h
  rw [Nat.zero_add] at hnested
  rw [hnested.openBefore_eq]
  cases hopened
  rfl

end

end ThreadLint.Token
