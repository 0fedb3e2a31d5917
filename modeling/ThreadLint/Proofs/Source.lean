import ThreadLint.Source

/-!
This module contains which line and column an offset has: the table of lines is searched by halving,
and what it leads to is what counting the line feeds of the text would give.
-/

namespace ThreadLint

/--
Whether a position comes in front of another one: on an earlier line, or further left on its line.
-/
def Position.IsBefore (position other : Position) : Prop :=
  position.line < other.line ∨ (position.line = other.line ∧ position.column < other.column)

theorem Position.IsBefore.ne {position other : Position} (h : position.IsBefore other) :
    position ≠ other := by
  rintro rfl
  unfold IsBefore at h
  omega

theorem Span.ofBounds_eq_ok {start stop : Nat} {startAt stopAt : Position} (h : start ≤ stop) :
    Span.ofBounds start stop startAt stopAt = .ok ⟨start, stop, startAt, stopAt, h⟩ := by
  unfold Span.ofBounds
  rw [dif_pos (by omega)]
  rfl

namespace Source

variable {source : Source}

theorem span_eq_ok (source : Source) {start stop : Nat} (h : start ≤ stop) :
    source.span start stop
      = .ok ⟨start, stop, source.position start, source.position stop, h⟩ :=
  Span.ofBounds_eq_ok h

/-! ### The table of lines -/

theorem lineStarts.mem_go_iff {offset start : Nat} {cs : List Char} :
    start ∈ lineStarts.go offset cs ↔
      offset < start ∧ cs[start - offset - 1]? = some '\n' := by
  induction cs generalizing offset with
  | nil => simp [go]
  | cons c rest ih =>
    have hrest : start ∈ go (offset + 1) rest ↔
        offset + 1 < start ∧ (c :: rest)[start - offset - 1]? = some '\n' := by
      rw [ih]
      apply and_congr_right
      intro hlt
      rw [show start - offset - 1 = start - (offset + 1) - 1 + 1 by omega,
        List.getElem?_cons_succ]
    have hfirst (h : start = offset + 1) : (c :: rest)[start - offset - 1]? = some c := by
      rw [h, show offset + 1 - offset - 1 = 0 by omega, List.getElem?_cons_zero]
    unfold go
    split
    . next hc =>
      rw [List.mem_cons, hrest]
      constructor
      . rintro (heq | ⟨hlt, hfeed⟩)
        . exact ⟨by omega, by rw [hfirst heq, beq_iff_eq.1 hc]⟩
        . exact ⟨by omega, hfeed⟩
      . intro ⟨hlt, hfeed⟩
        by_cases heq : start = offset + 1
        . exact .inl heq
        . exact .inr ⟨by omega, hfeed⟩
    . next hc =>
      rw [hrest]
      apply and_congr_left
      intro hfeed
      constructor
      . omega
      . intro hlt
        by_cases heq : start = offset + 1
        . rw [hfirst heq, Option.some.injEq] at hfeed
          exact absurd (beq_iff_eq.2 hfeed) hc
        . omega

theorem lineStarts.pairwise_go (offset : Nat) (cs : List Char) :
    (lineStarts.go offset cs).Pairwise (· < ·) := by
  induction cs generalizing offset with
  | nil => exact .nil
  | cons c rest ih =>
    unfold go
    split
    . refine .cons ?_ (ih _)
      intro start hstart
      exact (mem_go_iff.1 hstart).1
    . exact ih _

theorem pairwise_lineStarts (source : Source) :
    source.lineStarts.toList.Pairwise (· < ·) := by
  unfold lineStarts
  refine .cons ?_ (lineStarts.pairwise_go 0 source.chars)
  intro start hstart
  exact (lineStarts.mem_go_iff.1 hstart).1

/-- A line begins at the start of the text, and behind every line feed. -/
theorem mem_lineStarts_iff {start : Nat} :
    start ∈ source.lineStarts.toList ↔
      start = 0 ∨ (0 < start ∧ source.chars[start - 1]? = some '\n') := by
  unfold lineStarts
  rw [List.mem_cons, lineStarts.mem_go_iff, Nat.sub_zero]

theorem lineStarts.countP_go (offset bound : Nat) (cs : List Char) :
    (lineStarts.go offset cs).countP (· ≤ offset + bound) = (cs.take bound).count '\n' := by
  induction cs generalizing offset bound with
  | nil => simp [go]
  | cons c rest ih =>
    cases bound with
    | zero =>
      rw [List.take_zero, List.count_nil, List.countP_eq_zero]
      intro start hstart
      have := (mem_go_iff.1 hstart).1
      simpa using this
    | succ bound =>
      have ih : (go (offset + 1) rest).countP (· ≤ offset + (bound + 1))
          = (rest.take bound).count '\n' := by
        rw [← ih (offset + 1) bound, Nat.add_assoc, Nat.add_comm 1 bound]
      rw [List.take_succ_cons, List.count_cons]
      unfold go
      split
      . next hc => rw [List.countP_cons, ih, decide_eq_true (by omega : offset + 1 ≤ _), if_pos rfl]
      . next hc => rw [ih, Nat.add_zero]

/-- Up to an offset, one line begins at the start of the text and one behind every line feed. -/
theorem countP_lineStarts (source : Source) (offset : Nat) :
    source.lineStarts.toList.countP (· ≤ offset)
      = 1 + (source.chars.take offset).count '\n' := by
  have h := lineStarts.countP_go 0 offset source.chars
  rw [Nat.zero_add] at h
  unfold lineStarts
  rw [List.countP_cons, h, decide_eq_true (Nat.zero_le _), if_pos rfl, Nat.add_comm]

/-! ### The search -/

/--
Whether an index divides numbers that ascend: those in front of it are at most `bound`, and those
from it on are not.
-/
structure Divides (starts : Array Nat) (bound index : Nat) : Prop where
  le_size : index ≤ starts.size
  below : ∀ i, i < index → starts.getD i 0 ≤ bound
  above : ∀ i, index ≤ i → i < starts.size → bound < starts.getD i 0

theorem getD_lt_getD {starts : Array Nat} (h : starts.toList.Pairwise (· < ·)) {i j : Nat} (hlt : i < j)
    (hj : j < starts.size) : starts.getD i 0 < starts.getD j 0 := by
  rw [List.pairwise_iff_getElem] at h
  have h := h i j (by simpa using Nat.lt_trans hlt hj) (by simpa using hj) hlt
  simpa [Array.getD, hj, Nat.lt_trans hlt hj] using h

theorem countAtMost.go_divides {starts : Array Nat} {bound low high : Nat}
    (h : starts.toList.Pairwise (· < ·)) (hle : low ≤ high) (hhigh : high ≤ starts.size)
    (hbelow : ∀ i, i < low → starts.getD i 0 ≤ bound)
    (habove : ∀ i, high ≤ i → i < starts.size → bound < starts.getD i 0) :
    Divides starts bound (countAtMost.go starts bound low high) := by
  have hmono (i j : Nat) (hij : i ≤ j) (hj : j < starts.size) :
      starts.getD i 0 ≤ starts.getD j 0 := by
    cases Nat.lt_or_eq_of_le hij with
    | inl hlt => exact Nat.le_of_lt (getD_lt_getD h hlt hj)
    | inr heq => exact Nat.le_of_eq (by rw [heq])
  fun_induction countAtMost.go starts bound low high with
  | case1 low high hlt middle hmiddle ih =>
    have hmiddle' : middle < high := by omega
    apply ih
    . omega
    . exact hhigh
    . intro i hi
      exact Nat.le_trans (hmono i middle (by omega) (by omega)) hmiddle
    . exact habove
  | case2 low high hlt middle hmiddle ih =>
    have hmiddle' : low ≤ middle := by omega
    apply ih
    . exact hmiddle'
    . omega
    . exact hbelow
    . intro i hi hsize
      exact Nat.lt_of_lt_of_le (by omega) (hmono middle i hi hsize)
  | case3 low high hlt =>
    obtain rfl : low = high := by omega
    exact ⟨hhigh, hbelow, habove⟩

theorem countAtMost_divides {starts : Array Nat} (h : starts.toList.Pairwise (· < ·)) (bound : Nat) :
    Divides starts bound (countAtMost starts bound) := by
  apply countAtMost.go_divides h (Nat.zero_le _) (Nat.le_refl _)
  . omega
  . omega

theorem Divides.eq_countP {starts : Array Nat} {bound index : Nat} (h : Divides starts bound index) :
    index = starts.toList.countP (· ≤ bound) := by
  have hgetD (i : Nat) (hi : i < starts.toList.length) : starts.getD i 0 = starts.toList[i] := by
    have hsize : i < starts.size := Array.length_toList ▸ hi
    simp [Array.getD, hsize]
  have hfront : (starts.toList.take index).countP (· ≤ bound) = index := by
    rw [List.countP_eq_length.2, List.length_take, Array.length_toList]
    . exact Nat.min_eq_left h.le_size
    . intro start hstart
      obtain ⟨i, hi, rfl⟩ := List.getElem_of_mem hstart
      rw [List.length_take, Array.length_toList] at hi
      rw [List.getElem_take, ← hgetD]
      exact decide_eq_true (h.below i (by omega))
  have hback : (starts.toList.drop index).countP (· ≤ bound) = 0 := by
    rw [List.countP_eq_zero]
    intro start hstart
    obtain ⟨i, hi, rfl⟩ := List.getElem_of_mem hstart
    rw [List.length_drop, Array.length_toList] at hi
    rw [List.getElem_drop, ← hgetD, decide_eq_true_eq, Nat.not_le]
    exact h.above (index + i) (by omega) (by omega)
  calc index
      = (starts.toList.take index).countP (· ≤ bound)
          + (starts.toList.drop index).countP (· ≤ bound) := by rw [hfront, hback, Nat.add_zero]
    _ = starts.toList.countP (· ≤ bound) := by
      rw [← List.countP_append, List.take_append_drop]

/-! ### Lines and columns -/

theorem clamp_of_le {offset : Nat} (h : offset ≤ source.length) : source.clamp offset = offset := by
  unfold clamp
  omega

theorem line_position (source : Source) (offset : Int) :
    (source.position offset).line = 1 + (source.chars.take (source.clamp offset)).count '\n' := by
  rw [← countP_lineStarts]
  exact (countAtMost_divides source.pairwise_lineStarts _).eq_countP

theorem column_position (source : Source) (offset : Int) :
    (source.position offset).column = source.clamp offset - source.lineStart offset + 1 :=
  rfl

theorem lineStart_eq (source : Source) (offset : Int) :
    source.lineStart offset = source.lineStarts.getD ((source.position offset).line - 1) 0 :=
  rfl

theorem lineStart_le (source : Source) (offset : Int) :
    source.lineStart offset ≤ source.clamp offset := by
  apply (countAtMost_divides source.pairwise_lineStarts (source.clamp offset)).below
  have : countAtMost source.lineStarts (source.clamp offset)
      = 1 + (source.chars.take (source.clamp offset)).count '\n' := source.line_position offset
  omega

/-- The line of an offset begins where it is said to: at the start of the text, or behind a feed. -/
theorem lineStart_mem (source : Source) (offset : Int) :
    source.lineStart offset ∈ source.lineStarts.toList := by
  have hle := (countAtMost_divides source.pairwise_lineStarts (source.clamp offset)).le_size
  have hline : countAtMost source.lineStarts (source.clamp offset)
      = 1 + (source.chars.take (source.clamp offset)).count '\n' := source.line_position offset
  have hlt : countAtMost source.lineStarts (source.clamp offset) - 1 < source.lineStarts.size := by
    omega
  unfold lineStart
  simp only [Array.getD, hlt, dif_pos]
  exact Array.getElem_mem_toList hlt

theorem not_feed_of_lineStart_le (source : Source) {offset : Int} {index : Nat}
    (hle : source.lineStart offset ≤ index) (hlt : index < source.clamp offset) :
    source.chars[index]? ≠ some '\n' := by
  intro hfeed
  have hdivides := countAtMost_divides source.pairwise_lineStarts (source.clamp offset)
  have hmem : index + 1 ∈ source.lineStarts.toList :=
    mem_lineStarts_iff.2 (.inr ⟨Nat.succ_pos _, hfeed⟩)
  obtain ⟨i, hi, heq⟩ := List.getElem_of_mem hmem
  rw [Array.length_toList] at hi
  have hgetD : source.lineStarts.getD i 0 = index + 1 := by simpa [Array.getD, hi] using heq
  -- the line that begins behind the feed is neither up to the offset's line nor behind the offset
  by_cases hi' : i < countAtMost source.lineStarts (source.clamp offset)
  . have hlast : source.lineStarts.getD i 0 ≤ source.lineStart offset := by
      rw [lineStart_eq]
      by_cases heq : i = (source.position offset).line - 1
      . exact Nat.le_of_eq (by rw [heq])
      . apply Nat.le_of_lt
        have hline : (source.position offset).line
          = countAtMost source.lineStarts (source.clamp offset) := rfl
        have := hdivides.le_size
        exact getD_lt_getD source.pairwise_lineStarts (by omega) (by omega)
    omega
  . have := hdivides.above i (by omega) hi
    omega

/--
The number of characters between an offset and the last line feed in front of it, or the start of
the text if there is none.
-/
def sinceFeed (source : Source) (offset : Nat) : Nat :=
  ((source.chars.take offset).reverse.takeWhile (· != '\n')).length

/-- No character is between the start of a line and the feed in front of it. -/
theorem sinceFeed_of_mem_lineStarts {start : Nat} (h : start ∈ source.lineStarts.toList) :
    source.sinceFeed start = 0 := by
  obtain rfl | ⟨hpos, hfeed⟩ := mem_lineStarts_iff.1 h
  . rfl
  . obtain ⟨hbefore, hfeed⟩ := List.getElem?_eq_some_iff.1 hfeed
    have htake := List.take_succ_eq_append_getElem hbefore
    rw [Nat.sub_add_cancel hpos] at htake
    rw [sinceFeed, htake, List.reverse_append, List.reverse_singleton, List.singleton_append,
      List.takeWhile_cons_of_neg (by simpa using hfeed), List.length_nil]

theorem sinceFeed_eq_add {start stop : Nat} (hle : start ≤ stop)
    (hstop : stop ≤ source.chars.length)
    (hclear : ∀ index, start ≤ index → index < stop → source.chars[index]? ≠ some '\n') :
    source.sinceFeed stop = stop - start + source.sinceFeed start := by
  have hline (c : Char) (hc : c ∈ ((source.chars.take stop).drop start).reverse) :
      (c != '\n') = true := by
    rw [List.mem_reverse] at hc
    obtain ⟨index, hindex, rfl⟩ := List.getElem_of_mem hc
    rw [List.length_drop, List.length_take] at hindex
    have hne := hclear (start + index) (Nat.le_add_right _ _) (by omega)
    rw [List.getElem?_eq_getElem (by omega), ne_eq, Option.some.injEq] at hne
    rw [List.getElem_drop, List.getElem_take]
    exact bne_iff_ne.2 hne
  have hsplit : source.chars.take stop
      = source.chars.take start ++ (source.chars.take stop).drop start := by
    calc source.chars.take stop
        = (source.chars.take stop).take start ++ (source.chars.take stop).drop start :=
          (List.take_append_drop _ _).symm
      _ = source.chars.take start ++ (source.chars.take stop).drop start := by
        rw [List.take_take, Nat.min_eq_left hle]
  rw [sinceFeed, hsplit, List.reverse_append, List.takeWhile_append_of_pos hline, List.length_append,
    List.length_reverse, List.length_drop, List.length_take, Nat.min_eq_left hstop, sinceFeed]

theorem column_position_eq (source : Source) (offset : Int) :
    (source.position offset).column = 1 + source.sinceFeed (source.clamp offset) := by
  rw [column_position, sinceFeed_eq_add (source.lineStart_le offset) (Nat.min_le_right _ _)
      fun _ => source.not_feed_of_lineStart_le,
    sinceFeed_of_mem_lineStarts (source.lineStart_mem offset)]
  omega

theorem position_isBefore {offset other : Nat} (hlt : offset < other) (hle : other ≤ source.length) :
    (source.position offset).IsBefore (source.position other) := by
  have hfeeds : (source.chars.take offset).count '\n' ≤ (source.chars.take other).count '\n' :=
    (List.take_sublist_take_left (Nat.le_of_lt hlt)).count_le _
  have hline := source.line_position offset
  have hline' := source.line_position other
  rw [clamp_of_le (by omega)] at hline hline'
  unfold Position.IsBefore
  by_cases heq : (source.position offset).line = (source.position other).line
  . -- on one line, columns count from the same start
    have hstart : source.lineStart offset = source.lineStart other := by
      rw [lineStart_eq, lineStart_eq, heq]
    have := source.lineStart_le offset
    rw [clamp_of_le (by omega)] at this
    rw [column_position, column_position, hstart, clamp_of_le (by omega), clamp_of_le (by omega)]
    omega
  . omega

/--
The line of an offset is one more than the number of line feeds in front of it, and its column one
more than the number of characters behind the last of them, with no line feed between the start of
its line and the offset. A later offset has a later position, so that no two have the same one, and
every number outside the text counts as the nearest offset. So a span never ends at a position in
front of the one where it starts.
-/
theorem position_exact (source : Source) :
    (∀ offset : Nat, offset ≤ source.length →
      source.position offset
          = ⟨1 + (source.chars.take offset).count '\n', 1 + source.sinceFeed offset⟩ ∧
        source.lineStart offset + (source.position offset).column - 1 = offset ∧
        ∀ index, source.lineStart offset ≤ index → index < offset →
          source.chars[index]? ≠ some '\n') ∧
    (∀ offset other : Nat, offset < other → other ≤ source.length →
      (source.position offset).IsBefore (source.position other)) ∧
    (∀ offset other : Nat, offset ≤ source.length → other ≤ source.length →
      source.position offset = source.position other → offset = other) ∧
    (∀ number : Int, number ≤ 0 → source.position number = source.position 0 ∧
      source.lineStart number = source.lineStart 0) ∧
    (∀ number : Int, source.length ≤ number →
      source.position number = source.position source.length ∧
        source.lineStart number = source.lineStart source.length) ∧
    ∀ start stop : Nat, start ≤ stop → stop ≤ source.length →
      ∃ span, source.span start stop = .ok span ∧ span.extent = ⟨start, stop⟩ ∧
        span.startAt = source.position start ∧ span.stopAt = source.position stop ∧
        (span.startAt = span.stopAt ∨ span.startAt.IsBefore span.stopAt) := by
  have hclamp (number other : Int) (h : source.clamp number = source.clamp other) :
      source.position number = source.position other ∧
        source.lineStart number = source.lineStart other := by
    unfold position lineStart
    rw [h]
    exact ⟨rfl, rfl⟩
  refine ⟨?_, fun _ _ => position_isBefore, ?_, ?_, ?_, ?_⟩
  . intro offset hle
    have hclamp := clamp_of_le hle
    have hstart := source.lineStart_le offset
    refine ⟨?_, ?_, ?_⟩
    . have hline := source.line_position offset
      have hcolumn := source.column_position_eq offset
      rw [hclamp] at hline hcolumn
      rw [← hline, ← hcolumn]
    . rw [column_position, hclamp]
      omega
    . intro index hindex hlt
      exact source.not_feed_of_lineStart_le hindex (by omega)
  . intro offset other hle hle' heq
    by_cases hlt : offset < other
    . exact absurd heq (position_isBefore hlt hle').ne
    by_cases hgt : other < offset
    . exact absurd heq.symm (position_isBefore hgt hle).ne
    . omega
  . intro number h
    apply hclamp
    unfold clamp
    omega
  . intro number h
    apply hclamp
    unfold clamp
    omega
  . intro start stop hle hstop
    refine ⟨_, source.span_eq_ok hle, rfl, rfl, rfl, ?_⟩
    cases Nat.lt_or_eq_of_le hle with
    | inl hlt => exact .inr (position_isBefore hlt hstop)
    | inr heq => exact .inl (congrArg (fun offset : Nat => source.position offset) heq)

/-- An empty line, an offset on a line feed, and the line behind the last one. -/
theorem position_exact_lines :
    let source := ofString "ab\n\ncd\n" none
    source.position 3 = ⟨2, 1⟩ ∧ source.position 6 = ⟨3, 3⟩ ∧ source.position 7 = ⟨4, 1⟩ ∧
      source.position 99 = source.position 7 ∧ (source.position 3).IsBefore (source.position 6) ∧
      ∃ span, source.span 3 6 = .ok span ∧ span.startAt.IsBefore span.stopAt := by
  intro source
  obtain ⟨hposition, hbefore, hinjective, _, hbehind, hspan⟩ := position_exact source
  refine ⟨(hposition 3 (by decide)).1, (hposition 6 (by decide)).1, (hposition 7 (by decide)).1,
    (hbehind 99 (by decide)).1, hbefore 3 6 (by decide) (by decide), ?_⟩
  obtain ⟨span, heq, _, hstart, hstop, h⟩ := hspan 3 6 (by decide) (by decide)
  refine ⟨span, heq, h.resolve_left ?_⟩
  intro hsame
  rw [hstart, hstop] at hsame
  exact absurd (hinjective 3 6 (by decide) (by decide) hsame) (by decide)

end Source

end ThreadLint
