import Mathlib.Data.Option.Basic
import ThreadLint.Token.Nesting

/-!
This module contains what the search for the bracket that closes another one finds, and that it
finds one for every bracket of tokens in which none is left open.
-/

namespace ThreadLint.Token

theorem isPunct_iff {token : Token} {texts : List String} :
    token.isPunct texts = true ↔ token.kind = .punct ∧ token.text ∈ texts := by
  simp [isPunct]

theorem isEnd_iff {token : Token} : token.isEnd = true ↔ token.kind = .eof := by
  simp [isEnd]

theorem closer?_eq_some {token : Token} {closer : String} (h : token.closer? = some closer) :
    token.kind = .punct ∧ (token.text, closer) ∈ brackets := by
  unfold closer? at h
  split at h
  . next hkind =>
    rw [List.lookup_eq_some_iff] at h
    obtain ⟨front, back, hbrackets, _⟩ := h
    rw [hbrackets]
    exact ⟨by simpa using hkind, by simp⟩
  . simp at h

theorem isOpener_text {token : Token} (h : token.isOpener = true) :
    token.kind = .punct ∧ token.text ∈ brackets.map Prod.fst := by
  unfold isOpener at h
  rw [Option.isSome_iff_exists] at h
  obtain ⟨closer, h⟩ := h
  obtain ⟨hkind, hmem⟩ := closer?_eq_some h
  exact ⟨hkind, List.mem_map_of_mem hmem⟩

/-- What stands where only opening brackets may stand is an opening bracket. -/
theorem isOpener_of_isPunct {token : Token} {texts : List String}
    (htexts : texts ⊆ brackets.map Prod.fst) (h : token.isPunct texts = true) :
    token.isOpener = true := by
  obtain ⟨hkind, htext⟩ := isPunct_iff.1 h
  obtain ⟨⟨opener, closer⟩, hmem, heq⟩ := List.mem_map.1 (htexts htext)
  have hsome : ∀ bracket ∈ brackets, (brackets.lookup bracket.1).isSome := by decide
  have hfound := hsome _ hmem
  rw [isOpener, closer?, if_pos (by simp [hkind]), ← heq]
  exact hfound

theorem opener_not_closer :
    ∀ text ∈ brackets.map Prod.fst, text ∉ brackets.map Prod.snd := by
  decide

theorem not_isCloser_of_isOpener {token : Token} (h : token.isOpener = true) :
    ¬ token.isCloser = true := by
  intro hcloser
  have := opener_not_closer _ (isOpener_text h).2
  exact this (isPunct_iff.1 hcloser).2

theorem not_isEnd_of_isOpener {token : Token} (h : token.isOpener = true) :
    ¬ token.isEnd = true := by
  rw [isEnd_iff, (isOpener_text h).1]
  simp

theorem not_isEnd_of_isPunct {token : Token} {texts : List String}
    (h : token.isPunct texts = true) : ¬ token.isEnd = true := by
  rw [isEnd_iff, (isPunct_iff.1 h).1]
  simp

/-! ### The search for a closing bracket -/

theorem closing?_eq_some {tokens : Array Token} {depth index found : Nat}
    (h : closing? tokens depth index = some found) :
    index ≤ found ∧ ∃ hfound : found < tokens.size, tokens[found].isCloser = true := by
  fun_induction closing? tokens depth index with
  | case1 _ _ _ _ ih =>
    have := ih h
    exact ⟨by omega, this.2⟩
  | case2 _ index hindex _ hcloser =>
    cases h
    exact ⟨Nat.le_refl _, hindex, hcloser⟩
  | case3 _ _ _ _ _ _ ih =>
    have := ih h
    exact ⟨by omega, this.2⟩
  | case4 _ _ _ _ _ ih =>
    have := ih h
    exact ⟨by omega, this.2⟩
  | case5 => simp at h

theorem matching?_eq_some {tokens : Array Token} {index found : Nat}
    (h : matching? tokens index = some found) :
    index < found ∧ ∃ (hindex : index < tokens.size) (hfound : found < tokens.size),
      tokens[index].closer? = some tokens[found].text ∧ tokens[found].isCloser = true ∧
        closing? tokens 0 index = some found := by
  unfold matching? at h
  simp only [Option.bind_eq_bind, Option.bind_eq_some_iff] at h
  obtain ⟨opener, hopener, other, hclosing, closer, hcloser, _, hguard, heq⟩ := h
  cases heq
  obtain ⟨hindex, rfl⟩ := Array.getElem?_eq_some_iff.1 hopener
  obtain ⟨hfound, rfl⟩ := Array.getElem?_eq_some_iff.1 hcloser
  obtain ⟨hle, _, hisCloser⟩ := closing?_eq_some hclosing
  have htext : tokens[index].closer? = some tokens[found].text := by
    simpa [guard, apply_ite] using hguard
  refine ⟨?_, hindex, hfound, htext, hisCloser, hclosing⟩
  apply Nat.lt_of_le_of_ne hle
  intro heq
  subst heq
  have hisOpener : tokens[index].isOpener = true := by simp [isOpener, htext]
  exact not_isCloser_of_isOpener hisOpener hisCloser

/-! ### Balanced tokens -/

/--
Whether one bracket is of the kind that closes another one.
-/
def Fitting (tokens : Array Token) (opener closer : Nat) : Prop :=
  ∃ (hopener : opener < tokens.size) (hcloser : closer < tokens.size),
    tokens[opener].closer? = some tokens[closer].text ∧ tokens[closer].isCloser = true

/--
Whether the brackets between two tokens come in groups, each with the bracket that closes it.
-/
inductive Balanced (tokens : Array Token) : Nat → Nat → Prop where
  | nil {index : Nat} : Balanced tokens index index
  | plain {index stop : Nat}
    (h : index < tokens.size)
    (opener : tokens[index].isOpener = false)
    (closer : tokens[index].isCloser = false)
    (tail : Balanced tokens (index + 1) stop) :
    Balanced tokens index stop
  | group {opener closer stop : Nat}
    (fitting : Fitting tokens opener closer)
    (inner : Balanced tokens (opener + 1) closer)
    (tail : Balanced tokens (closer + 1) stop) :
    Balanced tokens opener stop

section

variable {tokens : Array Token}

theorem Fitting.isOpener {opener closer : Nat} (h : Fitting tokens opener closer) :
    ∃ hopener : opener < tokens.size, tokens[opener].isOpener = true := by
  obtain ⟨hopener, _, hcloser, _⟩ := h
  exact ⟨hopener, by simp [Token.isOpener, hcloser]⟩

theorem Balanced.le {start stop : Nat} (h : Balanced tokens start stop) : start ≤ stop := by
  induction h with
  | nil => apply Nat.le_refl
  | plain => omega
  | group => omega

theorem closing?_of_opener {depth index : Nat} (hindex : index < tokens.size)
    (h : tokens[index].isOpener = true) :
    closing? tokens depth index = closing? tokens (depth + 1) (index + 1) := by
  rw [closing?]
  rw [dif_pos hindex]
  rw [if_pos h]

theorem closing?_of_closer {depth index : Nat} (hindex : index < tokens.size)
    (h : tokens[index].isCloser = true) :
    closing? tokens depth index
      = if depth ≤ 1 then some index else closing? tokens (depth - 1) (index + 1) := by
  have hopener : ¬ tokens[index].isOpener = true := fun hopener =>
    not_isCloser_of_isOpener hopener h
  rw [closing?]
  rw [dif_pos hindex]
  rw [if_neg hopener]
  rw [if_pos h]

/-- Groups leave the depth as it is. -/
theorem Balanced.closing?_eq {start stop depth : Nat} (h : Balanced tokens start stop)
    (hdepth : 1 ≤ depth) : closing? tokens depth start = closing? tokens depth stop := by
  induction h generalizing depth with
  | nil => rfl
  | plain hindex hopener hcloser _ ih =>
    rw [closing?]
    simp only [hindex, dite_true, hopener, hcloser, Bool.false_eq_true, if_false]
    exact ih hdepth
  | @group opener closer stop fitting _ _ ihinner ihtail =>
    obtain ⟨hopener, hisOpener⟩ := fitting.isOpener
    obtain ⟨_, hcloser, _, hisCloser⟩ := fitting
    rw [closing?_of_opener hopener hisOpener]
    rw [ihinner (by omega)]
    rw [closing?_of_closer hcloser hisCloser]
    rw [if_neg (by omega)]
    exact ihtail hdepth

theorem Balanced.matching?_eq {opener closer : Nat} (h : Balanced tokens (opener + 1) closer)
    (fitting : Fitting tokens opener closer) : matching? tokens opener = some closer := by
  obtain ⟨hopener, hisOpener⟩ := fitting.isOpener
  obtain ⟨_, hcloser, htext, hisCloser⟩ := fitting
  have hclosing : closing? tokens 0 opener = some closer := by
    rw [closing?_of_opener hopener hisOpener]
    rw [h.closing?_eq (Nat.le_refl _)]
    rw [closing?_of_closer hcloser hisCloser]
    rfl
  unfold matching?
  simp [Array.getElem?_eq_getElem hopener, hclosing, Array.getElem?_eq_getElem hcloser, htext,
    guard]

theorem Balanced.of_isOpener {start stop index : Nat} (h : Balanced tokens start stop)
    (hstart : start ≤ index) (hstop : index < stop) (hindex : index < tokens.size)
    (hopener : tokens[index].isOpener = true) :
    ∃ closer, closer < stop ∧ Fitting tokens index closer ∧ Balanced tokens (index + 1) closer := by
  induction h with
  | nil => omega
  | @plain first _ _ hplain _ _ ih =>
    by_cases heq : first = index
    . subst heq
      rw [hplain] at hopener
      simp at hopener
    . exact ih (by omega) hstop
  | @group first closer stop fitting inner tail ihinner ihtail =>
    have := tail.le
    by_cases heq : first = index
    . subst heq
      exact ⟨closer, by omega, fitting, inner⟩
    . by_cases hlt : index < closer
      . obtain ⟨found, hfound, h⟩ := ihinner (by omega) hlt
        exact ⟨found, by omega, h⟩
      . have : index ≠ closer := by
          intro heq
          subst heq
          obtain ⟨_, _, _, hcloser⟩ := fitting
          exact not_isCloser_of_isOpener hopener hcloser
        exact ihtail (by omega) hstop

theorem Balanced.of_isCloser {start stop index : Nat} (h : Balanced tokens start stop)
    (hstart : start ≤ index) (hstop : index < stop) (hindex : index < tokens.size)
    (hcloser : tokens[index].isCloser = true) :
    ∃ opener, start ≤ opener ∧ opener < index ∧ Fitting tokens opener index ∧
      Balanced tokens (opener + 1) index := by
  induction h with
  | nil => omega
  | @plain first _ _ _ hplain _ ih =>
    by_cases heq : first = index
    . subst heq
      rw [hplain] at hcloser
      simp at hcloser
    . obtain ⟨opener, hopener, h⟩ := ih (by omega) hstop
      exact ⟨opener, by omega, h⟩
  | @group first closer stop fitting inner tail ihinner ihtail =>
    have := inner.le
    have : first ≠ index := by
      intro heq
      subst heq
      obtain ⟨_, hopener⟩ := fitting.isOpener
      exact not_isCloser_of_isOpener hopener hcloser
    by_cases heq : closer = index
    . subst heq
      exact ⟨first, Nat.le_refl _, by omega, fitting, inner⟩
    . by_cases hlt : index < closer
      . obtain ⟨opener, hopener, h⟩ := ihinner (by omega) hlt
        exact ⟨opener, by omega, h⟩
      . obtain ⟨opener, hopener, h⟩ := ihtail (by omega) hstop
        exact ⟨opener, by omega, h⟩

end

/-! ### Tokens in which no bracket is left open -/

/--
Whether tokens from an index on close all the brackets that are still open there, the last one first,
and leave none open themselves.
-/
def Settled (tokens : Array Token) (index : Nat) : List Token → Prop
  | [] => Balanced tokens index tokens.size
  | opener :: outer => ∃ (closer : Nat) (h : closer < tokens.size), Balanced tokens index closer ∧
    opener.closer? = some tokens[closer].text ∧ tokens[closer].isCloser = true ∧
      Settled tokens (closer + 1) outer

theorem Settled.plain {tokens : Array Token} {index : Nat} {opened : List Token}
    (h : Settled tokens (index + 1) opened) (hindex : index < tokens.size)
    (hopener : tokens[index].isOpener = false) (hcloser : tokens[index].isCloser = false) :
    Settled tokens index opened := by
  cases opened with
  | nil => exact Balanced.plain hindex hopener hcloser h
  | cons opener outer =>
    obtain ⟨closer, hlt, hbalanced, h⟩ := h
    exact ⟨closer, hlt, .plain hindex hopener hcloser hbalanced, h⟩

theorem Settled.group {tokens : Array Token} {index : Nat} {opened : List Token}
    (hindex : index < tokens.size) (h : Settled tokens (index + 1) (tokens[index] :: opened)) :
    Settled tokens index opened := by
  obtain ⟨closer, hlt, hinner, htext, hcloser, h⟩ := h
  have fitting : Fitting tokens index closer := ⟨hindex, hlt, htext, hcloser⟩
  cases opened with
  | nil => exact Balanced.group fitting hinner h
  | cons opener outer =>
    obtain ⟨found, hfound, htail, h⟩ := h
    exact ⟨found, hfound, .group fitting hinner htail, h⟩

theorem settled_of_go {source : Source} {tokens : List Token} {opened : List Token} {index : Nat}
    (hindex : index ≤ tokens.length)
    (h : unclosed.go source opened (tokens.drop index) = .ok []) :
    Settled tokens.toArray index opened := by
  by_cases hlt : index < tokens.length
  . rw [List.drop_eq_getElem_cons hlt] at h
    unfold unclosed.go at h
    have hlt' : index < tokens.toArray.size := by simpa using hlt
    split at h
    . next hopener => exact (settled_of_go (by omega) h).group hlt'
    . next hopener =>
      split at h
      . next hcloser =>
        split at h
        . simp at h
        . next opener outer =>
          split at h
          . next htext =>
            exact ⟨index, hlt', .nil, htext, hcloser, settled_of_go (by omega) h⟩
          . simp at h
      . next hcloser =>
        exact (settled_of_go (by omega) h).plain hlt' (by simpa using hopener)
          (by simpa using hcloser)
  . rw [List.drop_eq_nil_of_le (by omega)] at h
    unfold unclosed.go at h
    have hopened : opened = [] := by simpa using h
    have : index = tokens.toArray.size := by
      simp
      omega
    rw [hopened, this]
    exact .nil
termination_by tokens.length - index

theorem balanced_of_unclosed {source : Source} {tokens : List Token}
    (h : unclosed source tokens = .ok []) : Balanced tokens.toArray 0 tokens.length := by
  have : Settled tokens.toArray 0 [] := settled_of_go (Nat.zero_le _) h
  simpa [Settled] using this

/-! ### Brackets and their partners -/

section

variable {tokens : Array Token}

theorem isOpener_of_matching? {opener closer : Nat} (h : matching? tokens opener = some closer) :
    ∃ hopener : opener < tokens.size, tokens[opener].isOpener = true := by
  obtain ⟨_, hopener, _, htext, _⟩ := matching?_eq_some h
  exact ⟨hopener, by simp [Token.isOpener, htext]⟩

theorem Balanced.exists_matching? (h : Balanced tokens 0 tokens.size) {opener : Nat}
    (hopener : opener < tokens.size) (hisOpener : tokens[opener].isOpener = true) :
    ∃ closer, matching? tokens opener = some closer := by
  obtain ⟨closer, _, fitting, hinner⟩ := h.of_isOpener (Nat.zero_le _) hopener hopener hisOpener
  exact ⟨closer, hinner.matching?_eq fitting⟩

theorem Balanced.of_matching? (h : Balanced tokens 0 tokens.size) {opener closer : Nat}
    (hmatching : matching? tokens opener = some closer) : Balanced tokens (opener + 1) closer := by
  obtain ⟨hopener, hisOpener⟩ := isOpener_of_matching? hmatching
  obtain ⟨found, _, fitting, hinner⟩ := h.of_isOpener (Nat.zero_le _) hopener hopener hisOpener
  rw [hinner.matching?_eq fitting] at hmatching
  cases hmatching
  exact hinner

/-- A bracket in a group is closed in the group. -/
theorem Balanced.matching?_lt {start stop inner found : Nat} (h : Balanced tokens start stop)
    (hinner : matching? tokens inner = some found) (hlt : start ≤ inner) (hclose : inner < stop) :
    found < stop := by
  obtain ⟨hindex, hisOpener⟩ := isOpener_of_matching? hinner
  obtain ⟨found', hfound, fitting, hbalanced⟩ := h.of_isOpener hlt hclose hindex hisOpener
  rw [hbalanced.matching?_eq fitting] at hinner
  cases hinner
  exact hfound

/-- A bracket closes one other bracket only: what stands between the two is closed in front of it. -/
theorem matching?_injective
    (h : ∀ opener closer, matching? tokens opener = some closer →
      Balanced tokens (opener + 1) closer) {opener other closer : Nat}
    (hopener : matching? tokens opener = some closer)
    (hother : matching? tokens other = some closer) : opener = other := by
  have houter {opener other : Nat} (hopener : matching? tokens opener = some closer)
      (hother : matching? tokens other = some closer) : ¬ opener < other := by
    intro hlt
    have hclose := (matching?_eq_some hother).1
    have := (h opener closer hopener).matching?_lt hother hlt hclose
    omega
  have := houter hopener hother
  have := houter hother hopener
  omega

theorem Balanced.matching?_injective (h : Balanced tokens 0 tokens.size) {opener other closer : Nat}
    (hopener : matching? tokens opener = some closer)
    (hother : matching? tokens other = some closer) : opener = other :=
  Token.matching?_injective (fun _ _ => h.of_matching?) hopener hother

/-- What a bracket in a group closes is in the group. -/
theorem Balanced.exists_partner (h : Balanced tokens 0 tokens.size) {opener closer index : Nat}
    (hmatching : matching? tokens opener = some closer) (hlt : opener < index)
    (hclose : index < closer) (hindex : index < tokens.size)
    (hisCloser : tokens[index].isCloser = true) :
    ∃ partner, opener < partner ∧ partner < index ∧ matching? tokens partner = some index := by
  obtain ⟨partner, hpartner, hltIndex, fitting, hinner⟩ :=
    (h.of_matching? hmatching).of_isCloser hlt hclose hindex hisCloser
  exact ⟨partner, hpartner, hltIndex, hinner.matching?_eq fitting⟩

end

end ThreadLint.Token
