import ThreadLint.Grammar.Parser
import ThreadLint.Proofs.Token.Nesting
import ThreadLint.Proofs.Token.Tiling

/-!
This module contains what parsers rely on of the tokens that they are given: where they begin and
end, and that the last one of them and no other ends the text.
-/

namespace ThreadLint

namespace Parser

/--
The index of the token that ends the text.
-/
def last (tokens : Array Token) : Nat :=
  tokens.size - 1

/--
The offset at which the token at an index begins.
-/
def startAt (tokens : Array Token) (index : Nat) : Nat :=
  (tokenAt tokens index).start

/--
The offset behind the token at an index.
-/
def stopAt (tokens : Array Token) (index : Nat) : Nat :=
  (tokenAt tokens index).stop

/--
Tokens that lie behind each other, with one at the end of the text that is the last.
-/
class Lawful (tokens : Array Token) : Prop where
  size_pos : 0 < tokens.size
  isEnd_iff : ∀ index, (tokenAt tokens index).isEnd = true ↔ last tokens ≤ index
  start_lt_stop : ∀ index, index < last tokens → startAt tokens index < stopAt tokens index
  stop_le_start : ∀ index, index < last tokens → stopAt tokens index ≤ startAt tokens (index + 1)

theorem last_lt_size {tokens : Array Token} [Lawful tokens] : last tokens < tokens.size := by
  have : 0 < tokens.size := Lawful.size_pos
  unfold last
  omega

theorem tokenAt_eq_getElem {tokens : Array Token} {index : Nat} (h : index < tokens.size) :
    tokenAt tokens index = tokens[index] := by
  unfold tokenAt
  rw [Array.getD, dif_pos h]
  rfl

theorem start_le_stop (tokens : Array Token) (index : Nat) :
    startAt tokens index ≤ stopAt tokens index := by
  unfold startAt stopAt Token.stop
  omega

theorem tokenAt_of_size_le {tokens : Array Token} {index : Nat} (h : tokens.size ≤ index) :
    tokenAt tokens index = tokens.back?.getD default := by
  unfold tokenAt
  rw [Array.getD, dif_neg (by omega)]

/-! ### The tokens of a text -/

section OfTiles

variable {cs : List Char} {tokens : List Token}

theorem last_toArray {front : List Token} {final : Token} :
    last (front ++ [final]).toArray = front.length := by
  simp [last]

theorem isEnd_iff_of_tiles (h : Token.Tiles cs 0 tokens) (index : Nat) :
    (tokenAt tokens.toArray index).isEnd = true ↔ last tokens.toArray ≤ index := by
  obtain ⟨front, final, rfl, hfinal, hfront⟩ := h.ends
  rw [last_toArray]
  by_cases hlt : index < front.length
  . have hmem : front[index] ∈ front := List.getElem_mem hlt
    rw [tokenAt_eq_getElem (by simp; omega)]
    simp [hlt, (hfront _ hmem).1]
  . have : tokenAt (front ++ [final]).toArray index = final := by
      by_cases heq : index = front.length
      . subst heq
        rw [tokenAt_eq_getElem (by simp)]
        simp
      . rw [tokenAt_of_size_le (by simp; omega)]
        simp
    rw [this, hfinal]
    simp
    omega

theorem start_lt_stop_of_tiles (h : Token.Tiles cs 0 tokens) {index : Nat}
    (hindex : index < last tokens.toArray) :
    startAt tokens.toArray index < stopAt tokens.toArray index := by
  obtain ⟨front, final, rfl, _, hfront⟩ := h.ends
  rw [last_toArray] at hindex
  have hmem : front[index] ∈ front := List.getElem_mem hindex
  have htext := (hfront _ hmem).2
  unfold startAt stopAt
  rw [tokenAt_eq_getElem (by simp; omega)]
  simp only [List.getElem_toArray, List.getElem_append, hindex, dif_pos]
  unfold Token.stop
  have : front[index].text.length ≠ 0 := by
    intro hzero
    apply htext
    exact String.length_eq_zero_iff.1 hzero
  omega

theorem stop_le_start_of_tiles (h : Token.Tiles cs 0 tokens) {index : Nat}
    (hindex : index < last tokens.toArray) :
    stopAt tokens.toArray index ≤ startAt tokens.toArray (index + 1) := by
  have hlt : index + 1 < tokens.length := by
    simp [last] at hindex
    omega
  have hfirst : tokenAt tokens.toArray index = tokens[index] := tokenAt_eq_getElem (by simp; omega)
  have hsecond : tokenAt tokens.toArray (index + 1) = tokens[index + 1] :=
    tokenAt_eq_getElem (by simpa using hlt)
  have := (h.trivia_eq (index + 1) hlt).1
  unfold startAt stopAt
  rw [hfirst, hsecond]
  simpa [Token.stopBefore, show index < tokens.length by omega] using this

theorem Lawful.of_tiles (h : Token.Tiles cs 0 tokens) : Lawful tokens.toArray where
  size_pos := by
    obtain ⟨front, final, rfl, _⟩ := h.ends
    simp
  isEnd_iff := isEnd_iff_of_tiles h
  start_lt_stop _ := start_lt_stop_of_tiles h
  stop_le_start _ := stop_le_start_of_tiles h

theorem tokenAt_mem_of_tiles (h : Token.Tiles cs 0 tokens) {index : Nat}
    (hindex : index ≤ last tokens.toArray) : tokenAt tokens.toArray index ∈ tokens := by
  have := Lawful.of_tiles h
  have : last tokens.toArray < tokens.toArray.size := last_lt_size
  rw [tokenAt_eq_getElem (by omega)]
  simp

theorem stopAt_le_of_tiles (h : Token.Tiles cs 0 tokens) {index : Nat}
    (hindex : index ≤ last tokens.toArray) : stopAt tokens.toArray index ≤ cs.length :=
  (h.text_eq (tokenAt_mem_of_tiles h hindex)).1

theorem startAt_last_of_tiles (h : Token.Tiles cs 0 tokens) :
    startAt tokens.toArray (last tokens.toArray) = cs.length := by
  have := Lawful.of_tiles h
  apply h.start_of_isEnd (tokenAt_mem_of_tiles h (Nat.le_refl _))
  exact (Lawful.isEnd_iff _).2 (Nat.le_refl _)

end OfTiles

variable {tokens : Array Token} [Lawful tokens]

theorem lt_last_of_not_isEnd {index : Nat} (h : ¬ (tokenAt tokens index).isEnd = true) :
    index < last tokens := by
  rw [Lawful.isEnd_iff] at h
  omega

theorem not_isEnd_of_lt_last {index : Nat} (h : index < last tokens) :
    (tokenAt tokens index).isEnd = false := by
  rw [Bool.eq_false_iff]
  intro hend
  rw [Lawful.isEnd_iff] at hend
  omega

theorem lt_last_of_isPunct {index : Nat} {texts : List String}
    (h : (tokenAt tokens index).isPunct texts = true) : index < last tokens :=
  lt_last_of_not_isEnd (Token.not_isEnd_of_isPunct h)

theorem lt_last_of_isIdentifier {index : Nat} (h : (tokenAt tokens index).isIdentifier = true) :
    index < last tokens := by
  apply lt_last_of_not_isEnd
  simp only [Token.isIdentifier, beq_iff_eq] at h
  simp [Token.isEnd, h]

theorem matching?_bounds {index found : Nat} (h : Token.matching? tokens index = some found) :
    index < found ∧ found < last tokens := by
  obtain ⟨hlt, _, hfound, _, hcloser, _⟩ := Token.matching?_eq_some h
  rw [← tokenAt_eq_getElem hfound] at hcloser
  exact ⟨hlt, lt_last_of_isPunct hcloser⟩

theorem stop_le_start {i j : Nat} (h : i < j) (hj : j ≤ last tokens) :
    stopAt tokens i ≤ startAt tokens j := by
  induction j with
  | zero => omega
  | succ j ih =>
    have hnext : stopAt tokens j ≤ startAt tokens (j + 1) := Lawful.stop_le_start j (by omega)
    by_cases heq : i = j
    . rw [heq]
      exact hnext
    . have := ih (by omega) (by omega)
      have := start_le_stop tokens j
      omega

theorem start_le_start {i j : Nat} (h : i ≤ j) (hj : j ≤ last tokens) :
    startAt tokens i ≤ startAt tokens j := by
  by_cases heq : i = j
  . subst heq
    apply Nat.le_refl
  . have : stopAt tokens i ≤ startAt tokens j := stop_le_start (by omega) hj
    have := start_le_stop tokens i
    omega

theorem stop_le_stop {i j : Nat} (h : i ≤ j) (hj : j ≤ last tokens) :
    stopAt tokens i ≤ stopAt tokens j := by
  by_cases heq : i = j
  . subst heq
    apply Nat.le_refl
  . have : stopAt tokens i ≤ startAt tokens j := stop_le_start (by omega) hj
    have := start_le_stop tokens j
    omega

theorem start_lt_start {i j : Nat} (h : i < j) (hj : j < last tokens) :
    startAt tokens i < startAt tokens j := by
  have : startAt tokens i < stopAt tokens i := Lawful.start_lt_stop i (by omega)
  have : stopAt tokens i ≤ startAt tokens j := stop_le_start h (by omega)
  omega

theorem stop_lt_stop {i j : Nat} (h : i < j) (hj : j < last tokens) :
    stopAt tokens i < stopAt tokens j := by
  have : stopAt tokens i ≤ startAt tokens j := stop_le_start h (by omega)
  have : startAt tokens j < stopAt tokens j := Lawful.start_lt_stop j hj
  omega

theorem start_inj {i j : Nat} (h : startAt tokens i = startAt tokens j) (hi : i < last tokens)
    (hj : j < last tokens) : i = j := by
  apply Classical.byContradiction
  intro hne
  by_cases hlt : i < j
  . have := start_lt_start hlt hj
    omega
  . have : startAt tokens j < startAt tokens i := start_lt_start (by omega) hi
    omega

theorem stop_inj {i j : Nat} (h : stopAt tokens i = stopAt tokens j) (hi : i < last tokens)
    (hj : j < last tokens) : i = j := by
  apply Classical.byContradiction
  intro hne
  by_cases hlt : i < j
  . have := stop_lt_stop hlt hj
    omega
  . have : stopAt tokens j < stopAt tokens i := stop_lt_stop (by omega) hi
    omega

end Parser

end ThreadLint
