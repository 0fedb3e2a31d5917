import Mathlib.Data.List.Chain
import ThreadLint.Proofs.Token.Front
import ThreadLint.Proofs.Token.Rim

/-!
This module contains where a text may be followed by any other without a change to its lexemes: at a
seam, two characters that no word, number or mark has next to each other.
-/

namespace ThreadLint

namespace Text

/--
Whether each of some ranges lies in one of others.
-/
def CodeRanges.areWithin : CodeRanges → CodeRanges → Bool
  | [], _ => true
  | _, [] => false
  | (first, last) :: rest, (first', last') :: rest' =>
    if last' < first then decide (first' ≤ first) && areWithin ((first, last) :: rest) rest'
    else decide (first' ≤ first ∧ last ≤ last') && areWithin rest ((first', last') :: rest')
termination_by ranges others => ranges.length + others.length

theorem CodeRanges.covers_of_areWithin {ranges others : CodeRanges} {code : Nat}
    (h : ranges.areWithin others = true) (hcovers : ranges.covers code = true) :
    others.covers code = true := by
  fun_induction areWithin ranges others with
  | case1 => cases hcovers
  | case2 => cases h
  | case3 first last rest first' last' rest' hlt ih =>
    simp only [Bool.and_eq_true, decide_eq_true_eq] at h
    have hfirst := hcovers
    simp only [covers, Bool.and_eq_true, decide_eq_true_eq] at hfirst
    simp only [covers, Bool.and_eq_true, Bool.or_eq_true, decide_eq_true_eq]
    exact ⟨Nat.le_trans h.1 hfirst.1, .inr (ih h.2 hcovers)⟩
  | case4 first last rest first' last' rest' hlt ih =>
    simp only [Bool.and_eq_true, decide_eq_true_eq] at h
    simp only [covers, Bool.and_eq_true, Bool.or_eq_true, decide_eq_true_eq] at hcovers
    cases hcovers.2 with
    | inl hle =>
      simp only [covers, Bool.and_eq_true, Bool.or_eq_true, decide_eq_true_eq]
      exact ⟨by omega, .inl (by omega)⟩
    | inr hcovers => exact ih h.2 hcovers

theorem isLetterOrNumeral_of_isDigit {c : Char} (h : isDigit c = true) :
    isLetterOrNumeral c = true := by
  have hwithin : digitRanges.areWithin numericRanges = true := by decide +kernel
  rw [isLetterOrNumeral, CodeRanges.covers_of_areWithin hwithin h, Bool.or_true]

end Text

namespace Token

/--
Whether a character is white space or makes a mark of its own.
-/
def isSeparate (c : Char) : Bool :=
  isSpacing c || ['(', ')', '[', ']', '\x7b', '\x7d', ';', ','].contains c

/--
Whether a lexeme that reaches to the first of two characters ends there, and no comment begins with
the two. Behind a digit a point may begin a fraction, and the sign of an exponent is behind a letter.
-/
def isSeam (c d : Char) : Bool :=
  isSeparate c || isSeparate d ||
    if startsWord d then !continuesWord c && c != '@'
    else continuesWord c && !continuesWord d && !(continuesDigits c && d == '.') &&
      !((c == 'e' || c == 'E') && (d == '+' || d == '-'))

/--
Whether two characters are no seam.
-/
def Joined (c d : Char) : Prop :=
  isSeam c d = false

instance (c d : Char) : Decidable (Joined c d) :=
  inferInstanceAs (Decidable (_ = _))

/--
Whether there is a seam between two texts, unless one of them is empty.
-/
def Parted (xs ys : List Char) : Prop :=
  ∀ c ∈ xs.getLast?, ∀ d ∈ ys.head?, isSeam c d = true

instance (xs ys : List Char) : Decidable (Parted xs ys) :=
  decidable_of_iff ((xs.getLast?.all fun c => ys.head?.all (isSeam c)) = true) (by
    simp [Parted, Option.all_eq_true])

/-! ### The characters of lexemes -/

theorem isSeparate_eq_false {c : Char} (h : continuesWord c = true ∨ c ∈ ['@', '.', '+', '-']) :
    isSeparate c = false := by
  rw [Bool.eq_false_iff]
  intro hc
  have hall : ∀ d ∈ [' ', '\t', '\r', '\n', '\x0c', '\x0b', '\ufeff', '(', ')', '[', ']', '\x7b',
      '\x7d', ';', ','], continuesWord d = false ∧ d ∉ ['@', '.', '+', '-'] := by
    simp only [List.forall_mem_cons, List.not_mem_nil, false_implies, implies_true, and_true]
    decide +kernel
  have hmem : c ∈ [' ', '\t', '\r', '\n', '\x0c', '\x0b', '\ufeff', '(', ')', '[', ']', '\x7b',
      '\x7d', ';', ','] := by
    simp only [isSeparate, isSpacing, Bool.or_eq_true, beq_iff_eq, List.contains_iff_mem] at hc
    simp only [List.mem_cons] at hc ⊢
    grind
  obtain ⟨hword, hmark⟩ := hall c hmem
  cases h with
  | inl h =>
    rw [hword] at h
    cases h
  | inr h => exact hmark h

theorem continuesWord_of_isDigit {c : Char} (h : Text.isDigit c = true) : continuesWord c = true := by
  rw [continuesWord, Text.isLetterOrNumeral_of_isDigit h, Bool.or_true]

theorem continuesWord_of_continuesDigits {c : Char} (h : continuesDigits c = true) :
    continuesWord c = true := by
  rw [continuesDigits, Bool.or_eq_true] at h
  cases h with
  | inl h => exact continuesWord_of_isDigit h
  | inr h => rw [continuesWord, h, Bool.true_or]

theorem joined_of_word {c d : Char} (hc : continuesWord c = true) (hd : continuesWord d = true) :
    Joined c d := by
  simp [Joined, isSeam, isSeparate_eq_false (.inl hc), isSeparate_eq_false (.inl hd), hc, hd]

theorem joined_of_at {d : Char} (hd : startsWord d = true) : Joined '@' d := by
  simp [Joined, isSeam, isSeparate_eq_false (.inr (List.mem_cons_self ..)),
    isSeparate_eq_false (.inl (continuesWord_of_startsWord hd)), hd]

theorem joined_of_point {c : Char} (hc : continuesDigits c = true) : Joined c '.' := by
  have hword := continuesWord_of_continuesDigits hc
  have hstarts : startsWord '.' = false := by decide
  simp [Joined, isSeam, isSeparate_eq_false (.inl hword), isSeparate_eq_false (c := '.'), hc, hstarts]

theorem joined_of_sign {c d : Char} (hc : c = 'e' ∨ c = 'E') (hd : d = '+' ∨ d = '-') :
    Joined c d := by
  rcases hc with rfl | rfl
  all_goals
    rcases hd with rfl | rfl
    all_goals decide

theorem joined_of_digit {c d : Char} (hc : c ∈ ['.', '+', '-']) (hd : Text.isDigit d = true) :
    Joined c d := by
  have hseparate : isSeparate c = false :=
    isSeparate_eq_false (.inr (List.mem_cons_of_mem _ hc))
  have hmark : ∀ c ∈ ['.', '+', '-'], continuesWord c = false := by
    simp only [List.forall_mem_cons, List.not_mem_nil, false_implies, implies_true, and_true]
    decide
  have hstarts : startsWord d = false := by
    rw [Bool.eq_false_iff]
    intro hstarts
    rw [isDigit_of_startsWord hstarts] at hd
    cases hd
  simp [Joined, isSeam, hseparate, isSeparate_eq_false (.inl (continuesWord_of_isDigit hd)), hstarts,
    hmark c hc]

/--
Whether a text is a piece of a number: it ends like a word, and no two of its characters next to each
other are a seam.
-/
structure NumberPiece (cs : List Char) : Prop where
  chain : cs.IsChain Joined
  last : ∀ c ∈ cs.getLast?, continuesWord c = true

theorem NumberPiece.append {xs ys : List Char} (hxs : NumberPiece xs) (hys : NumberPiece ys)
    (hhead : ∀ d ∈ ys.head?, continuesWord d = true ∨ d = '.' ∧ ∀ c ∈ xs, continuesDigits c = true) :
    NumberPiece (xs ++ ys) := by
  constructor
  case chain =>
    rw [List.isChain_append]
    refine ⟨hxs.chain, hys.chain, ?_⟩
    intro c hc d hd
    cases hhead d hd with
    | inl hword => exact joined_of_word (hxs.last c hc) hword
    | inr hpoint =>
      rw [hpoint.1]
      exact joined_of_point (hpoint.2 c (List.mem_of_getLast? hc))
  case last =>
    intro c hc
    rw [List.getLast?_append, Option.mem_def, Option.or_eq_some_iff] at hc
    cases hc with
    | inl hc => exact hys.last c hc
    | inr hc => exact hxs.last c hc.2

theorem NumberPiece.cons {c d : Char} {rest : List Char} (h : NumberPiece (d :: rest))
    (hjoined : Joined c d) : NumberPiece (c :: d :: rest) := by
  constructor
  case chain => exact List.isChain_cons_cons.2 ⟨hjoined, h.chain⟩
  case last =>
    intro e he
    exact h.last e (by simpa using he)

theorem NumberPiece.of_word {cs : List Char} (h : ∀ c ∈ cs, continuesWord c = true) :
    NumberPiece cs := by
  constructor
  case chain =>
    apply List.Pairwise.isChain
    exact List.pairwise_of_forall_mem_list fun c hc d hd => joined_of_word (h c hc) (h d hd)
  case last => exact fun c hc => h c (List.mem_of_getLast? hc)

theorem NumberPiece.nil : NumberPiece [] :=
  .of_word (by simp)

theorem of_mem_takeWhile {test : Char → Bool} {cs : List Char} {c : Char}
    (h : c ∈ cs.takeWhile test) : test c = true :=
  List.all_eq_true.1 List.all_takeWhile c h

theorem numberPiece_fraction (cs : List Char) :
    NumberPiece (cs.take (fractionLength cs)) ∧
      ∀ d ∈ (cs.take (fractionLength cs)).head?, d = '.' := by
  unfold fractionLength
  split
  . next d rest =>
    split
    . next hdigit =>
      rw [Nat.add_comm, List.take_succ_cons, take_length_takeWhile]
      have hdigits : NumberPiece ((d :: rest).takeWhile continuesDigits) :=
        .of_word fun c hc => continuesWord_of_continuesDigits (of_mem_takeWhile hc)
      rw [List.takeWhile_cons_of_pos (by simp [continuesDigits, hdigit])] at hdigits ⊢
      exact ⟨hdigits.cons (joined_of_digit (by simp) hdigit), by simp⟩
    . simp [NumberPiece.nil]
  . simp [NumberPiece.nil]

theorem numberPiece_exponent (cs : List Char) :
    NumberPiece (cs.take (exponentLength cs)) ∧
      ∀ d ∈ (cs.take (exponentLength cs)).head?, continuesWord d = true := by
  cases cs with
  | nil => simp [NumberPiece.nil]
  | cons c rest =>
    by_cases hc : c = 'e' ∨ c = 'E'
    . rw [exponentLength_cons hc]
      split
      . simp [NumberPiece.nil]
      . next hdigits =>
        have hword : continuesWord c = true := by
          rcases hc with rfl | rfl
          all_goals decide
        rw [Nat.add_assoc, Nat.add_comm, List.take_succ_cons, List.take_add, take_length_takeWhile]
        refine ⟨?_, by simpa using hword⟩
        -- a sign is always followed by a digit
        have hnumber : NumberPiece ((rest.drop (signLength rest)).takeWhile Text.isDigit) :=
          .of_word fun c hc => continuesWord_of_isDigit (of_mem_takeWhile hc)
        cases hpiece : (rest.drop (signLength rest)).takeWhile Text.isDigit with
        | nil => simp [hpiece] at hdigits
        | cons d more =>
          have hdigit : Text.isDigit d = true := by
            apply @of_mem_takeWhile _ (rest.drop (signLength rest))
            rw [hpiece]
            exact List.mem_cons_self
          rw [hpiece] at hnumber
          unfold signLength
          split
          case h_3 => exact hnumber.cons (joined_of_word hword (continuesWord_of_isDigit hdigit))
          case h_1 =>
            have hsign := hnumber.cons (@joined_of_digit '+' d (by simp) hdigit)
            exact hsign.cons (joined_of_sign hc (.inl rfl))
          case h_2 =>
            have hsign := hnumber.cons (@joined_of_digit '-' d (by simp) hdigit)
            exact hsign.cons (joined_of_sign hc (.inr rfl))
    . rw [exponentLength_eq_zero hc]
      simp [NumberPiece.nil]

theorem numberPiece_number (cs : List Char) : NumberPiece (cs.take (numberLength cs)) := by
  unfold numberLength
  split
  case h_5 =>
    dsimp only
    rw [List.take_add, List.take_add, List.take_add, take_length_takeWhile, take_length_takeWhile]
    obtain ⟨hfraction, hpoint⟩ := numberPiece_fraction (cs.drop (cs.takeWhile continuesDigits).length)
    obtain ⟨hexponent, hmark⟩ := numberPiece_exponent (cs.drop ((cs.takeWhile continuesDigits).length +
      fractionLength (cs.drop (cs.takeWhile continuesDigits).length)))
    have hletters : ∀ c ∈ "uUlLfFdDmM".toList, continuesWord c = true := by
      rw [← List.all_eq_true]
      decide
    have hsuffix {cs : List Char} {c : Char} (hc : c ∈ cs.takeWhile ("uUlLfFdDmM".toList.contains ·)) :
        continuesWord c = true :=
      hletters c (List.contains_iff_mem.1 (of_mem_takeWhile hc))
    refine .append (.append (.append (.of_word ?_) hfraction ?_) hexponent ?_) (.of_word ?_) ?_
    . exact fun c hc => continuesWord_of_continuesDigits (of_mem_takeWhile hc)
    . exact fun d hd => .inr ⟨hpoint d hd, fun c hc => of_mem_takeWhile hc⟩
    . exact fun d hd => .inl (hmark d hd)
    . exact fun c hc => hsuffix hc
    . exact fun d hd => .inl (hsuffix (List.mem_of_head? hd))
  all_goals
    next rest =>
    rw [Nat.add_comm, List.take_succ_cons, List.take_succ_cons, take_length_takeWhile]
    apply NumberPiece.of_word
    intro c hc
    simp only [List.mem_cons] at hc
    rcases hc with rfl | rfl | hc
    . decide
    . decide
    . exact of_mem_takeWhile hc

theorem isChain_word {cs : List Char} (h : startsIdentifier cs = true) :
    (cs.take (wordLength cs)).IsChain Joined := by
  rw [startsIdentifier_iff] at h
  obtain ⟨c, rest, rfl, h⟩ | ⟨c, rest, rfl, h⟩ := h
  . rw [take_wordLength]
    refine (NumberPiece.of_word ?_).chain
    intro d hd
    rw [List.mem_cons] at hd
    cases hd with
    | inl heq =>
      rw [heq]
      exact continuesWord_of_startsWord h
    | inr hmem => exact of_mem_takeWhile hmem
  . rw [take_wordLength]
    have hword : continuesWord c = true := continuesWord_of_startsWord h
    have hpiece : NumberPiece ((c :: rest).takeWhile continuesWord) :=
      .of_word fun d hd => of_mem_takeWhile hd
    rw [List.takeWhile_cons_of_pos hword] at hpiece ⊢
    exact List.isChain_cons_cons.2 ⟨joined_of_at h, hpiece.chain⟩

theorem isChain_mark : ∀ mark ∈ marks, mark.toList.IsChain Joined := by
  decide

/-- What has no seam in it does not go on behind one. -/
theorem Parted.length_le {xs ys : List Char} {n : Nat} (h : Parted xs ys) (hxs : xs ≠ [])
    (hchain : ((xs ++ ys).take n).IsChain Joined) (hn : n ≤ (xs ++ ys).length) : n ≤ xs.length := by
  apply Nat.le_of_not_lt
  intro hlt
  rw [List.length_append] at hn
  rw [List.take_append, List.take_of_length_le (Nat.le_of_lt hlt), List.isChain_append] at hchain
  cases ys with
  | nil => simp at hn; omega
  | cons d rest =>
    obtain ⟨k, hk⟩ : ∃ k, n - xs.length = k + 1 := ⟨n - xs.length - 1, by omega⟩
    have hjoined := hchain.2.2 (xs.getLast hxs) (List.getLast?_eq_some_getLast hxs) d (by
      rw [hk, List.take_succ_cons]
      rfl)
    have hseam := h (xs.getLast hxs) (List.getLast?_eq_some_getLast hxs) d rfl
    rw [hjoined] at hseam
    cases hseam

/-! ### Literals -/

theorem exists_cons_of_append {cs ys tail : List Char} {d : Char} (hne : cs ≠ [])
    (h : cs ++ ys = d :: tail) : ∃ rest, cs = d :: rest := by
  cases cs with
  | nil => exact absurd rfl hne
  | cons c rest =>
    cases h
    exact ⟨rest, rfl⟩

theorem commentLength?_append {cs : List Char} {n : Nat} (h : commentLength? cs = some n)
    (ys : List Char) : commentLength? (cs ++ ys) = some n := by
  fun_induction commentLength? cs generalizing n with
  | case1 => cases h
  | case2 rest =>
    cases h
    rfl
  | case3 c rest hne ih =>
    obtain ⟨k, hk, rfl⟩ := Option.map_eq_some_iff.1 h
    rw [List.cons_append, commentLength?, ih hk]
    . rfl
    . intro tail hc htail
      have hrest : rest ≠ [] := by
        rintro rfl
        cases hk
      obtain ⟨rest', rfl⟩ := exists_cons_of_append hrest htail
      exact hne rest' hc rfl

theorem plainLength?_append {cs : List Char} {n : Nat} (h : plainLength? cs = some n)
    (ys : List Char) : plainLength? (cs ++ ys) = some n := by
  fun_induction plainLength? cs generalizing n with
  | case1 | case3 | case4 => cases h
  | case2 =>
    cases h
    rfl
  | case5 c rest ih =>
    obtain ⟨k, hk, rfl⟩ := Option.map_eq_some_iff.1 h
    rw [List.cons_append, List.cons_append, plainLength?, ih hk]
    rfl
  | case6 c rest hquote hfeed hend hescape ih =>
    obtain ⟨k, hk, rfl⟩ := Option.map_eq_some_iff.1 h
    have hbackslash : c ≠ '\\' := by
      intro hc
      cases rest with
      | nil => exact hend hc rfl
      | cons d rest => exact hescape d rest hc rfl
    rw [List.cons_append, plainLength?, ih hk]
    . rfl
    . exact hquote
    . exact hfeed
    . exact fun hc _ => hbackslash hc
    . exact fun _ _ hc _ => hbackslash hc

theorem characterLength?_append {cs : List Char} {n : Nat} (h : characterLength? cs = some n)
    (ys : List Char) : characterLength? (cs ++ ys) = some n := by
  fun_induction characterLength? cs generalizing n with
  | case1 | case3 | case4 => cases h
  | case2 =>
    cases h
    rfl
  | case5 c rest ih =>
    obtain ⟨k, hk, rfl⟩ := Option.map_eq_some_iff.1 h
    rw [List.cons_append, List.cons_append, characterLength?, ih hk]
    rfl
  | case6 c rest hquote hfeed hend hescape ih =>
    obtain ⟨k, hk, rfl⟩ := Option.map_eq_some_iff.1 h
    have hbackslash : c ≠ '\\' := by
      intro hc
      cases rest with
      | nil => exact hend hc rfl
      | cons d rest => exact hescape d rest hc rfl
    rw [List.cons_append, characterLength?, ih hk]
    . rfl
    . exact hquote
    . exact hfeed
    . exact fun hc _ => hbackslash hc
    . exact fun _ _ hc _ => hbackslash hc

/--
Whether what stands behind a string of some length at the front of a text is no quote, also if the
text goes on.
-/
def EndsBefore (n : Nat) (cs ys : List Char) : Prop :=
  n < cs.length ∨ ys.head? ≠ some '"'

theorem EndsBefore.cons {n : Nat} {cs ys : List Char} {c : Char} (h : EndsBefore (n + 1) (c :: cs) ys) :
    EndsBefore n cs ys :=
  h.imp_left Nat.lt_of_succ_lt_succ

theorem EndsBefore.drop {n k : Nat} {cs ys : List Char} (h : EndsBefore (k + n) cs ys) :
    EndsBefore n (cs.drop k) ys := by
  apply h.imp_left
  intro hlt
  rw [List.length_drop]
  omega

theorem verbatimLength?_append {cs ys : List Char} {n : Nat} (h : verbatimLength? cs = some n)
    (hends : EndsBefore n cs ys) : verbatimLength? (cs ++ ys) = some n := by
  fun_induction verbatimLength? cs generalizing n with
  | case1 => cases h
  | case2 rest ih =>
    obtain ⟨k, hk, rfl⟩ := Option.map_eq_some_iff.1 h
    rw [List.cons_append, List.cons_append, verbatimLength?, ih hk hends.cons.cons]
    rfl
  | case3 rest hsingle =>
    cases h
    rw [List.cons_append, verbatimLength?]
    intro tail htail
    cases rest with
    | nil =>
      cases hends with
      | inl hlt => simp at hlt
      | inr hhead =>
        rw [List.nil_append] at htail
        exact hhead (by rw [htail]; rfl)
    | cons d rest =>
      cases htail
      exact hsingle rest rfl
  | case4 c rest hdouble hquote ih =>
    obtain ⟨k, hk, rfl⟩ := Option.map_eq_some_iff.1 h
    rw [List.cons_append, verbatimLength?, ih hk hends.cons]
    . rfl
    . exact fun _ hc _ => hquote hc
    . exact hquote

theorem holeLength_append {literal offset depth : Nat} {cs : List Char} {n : Nat}
    (h : holeLength literal offset depth cs = .ok n) (ys : List Char) :
    holeLength literal offset depth (cs ++ ys) = .ok n := by
  fun_induction holeLength literal offset depth cs generalizing n with
  | case1 | case5 | case7 | case9 | case11 => simp at h
  | case2 offset depth rest ih =>
    obtain ⟨more, hmore, hn⟩ := bind_eq_ok.1 h
    cases hn
    rw [List.cons_append, holeLength, ih hmore]
    rfl
  | case3 offset depth rest hdepth =>
    cases h
    rw [List.cons_append, holeLength, if_pos hdepth]
  | case4 offset depth rest hdepth ih =>
    obtain ⟨more, hmore, hn⟩ := bind_eq_ok.1 h
    cases hn
    rw [List.cons_append, holeLength, if_neg hdepth, ih hmore]
    rfl
  | case6 offset depth rest inner hinner ih =>
    obtain ⟨more, hmore, hn⟩ := bind_eq_ok.1 h
    cases hn
    rw [List.cons_append, holeLength, plainLength?_append hinner]
    dsimp only
    rw [List.drop_append_of_le_length (plainLength?_le hinner), ih hmore]
    rfl
  | case8 offset depth rest inner hinner ih =>
    obtain ⟨more, hmore, hn⟩ := bind_eq_ok.1 h
    cases hn
    -- the hole goes on behind the string
    have hlt : inner < rest.length := by
      apply Nat.lt_of_not_le
      intro hle
      rw [List.drop_eq_nil_of_le hle, holeLength] at hmore
      cases hmore
    rw [List.cons_append, List.cons_append, holeLength, verbatimLength?_append hinner (.inl hlt)]
    dsimp only
    rw [List.drop_append_of_le_length (Nat.le_of_lt hlt), ih hmore]
    rfl
  | case10 offset depth rest inner hinner ih =>
    obtain ⟨more, hmore, hn⟩ := bind_eq_ok.1 h
    cases hn
    rw [List.cons_append, holeLength, characterLength?_append hinner]
    dsimp only
    rw [List.drop_append_of_le_length (characterLength?_le hinner), ih hmore]
    rfl
  | case12 offset depth c rest hopen hclose hplain hverbatim hcharacter hfeed ih =>
    obtain ⟨more, hmore, hn⟩ := bind_eq_ok.1 h
    cases hn
    rw [List.cons_append, holeLength, ih hmore]
    . rfl
    . exact hopen
    . exact hclose
    . exact hplain
    . intro tail hc htail
      have hrest : rest ≠ [] := by
        rintro rfl
        simp [holeLength] at hmore
      obtain ⟨rest', rfl⟩ := exists_cons_of_append hrest htail
      exact hverbatim rest' hc rfl
    . exact hcharacter
    . exact hfeed

theorem interpolatedLength_append {verbatim : Bool} {literal offset : Nat} {cs ys : List Char} {n : Nat}
    (h : interpolatedLength verbatim literal offset cs = .ok n) (hends : EndsBefore n cs ys) :
    interpolatedLength verbatim literal offset (cs ++ ys) = .ok n := by
  fun_induction interpolatedLength verbatim literal offset cs generalizing n with
  | case1 | case8 => simp at h
  | case2 offset rest hverbatim ih =>
    obtain ⟨more, hmore, hn⟩ := bind_eq_ok.1 h
    cases hn
    rw [List.cons_append, List.cons_append, interpolatedLength, if_pos hverbatim]
    rw [ih hmore (by simpa using hends.drop)]
    rfl
  | case3 offset rest hverbatim =>
    cases h
    rw [List.cons_append, List.cons_append, interpolatedLength, if_neg hverbatim]
  | case4 offset rest hsingle =>
    cases h
    rw [List.cons_append, interpolatedLength]
    intro tail htail
    cases rest with
    | nil =>
      cases hends with
      | inl hlt => simp at hlt
      | inr hhead =>
        rw [List.nil_append] at htail
        exact hhead (by rw [htail]; rfl)
    | cons d rest =>
      cases htail
      exact hsingle rest rfl
  | case5 offset c rest hverbatim ih =>
    obtain ⟨more, hmore, hn⟩ := bind_eq_ok.1 h
    cases hn
    have := ih hmore (by simpa using hends.drop)
    rw [List.cons_append] at this
    rw [List.cons_append, List.cons_append, interpolatedLength, if_pos hverbatim, this]
    rfl
  | case6 offset c rest hverbatim ih =>
    obtain ⟨more, hmore, hn⟩ := bind_eq_ok.1 h
    cases hn
    rw [List.cons_append, List.cons_append, interpolatedLength, if_neg hverbatim]
    rw [ih hmore (by simpa using hends.drop)]
    rfl
  | case7 offset rest hverbatim ih =>
    obtain ⟨more, hmore, hn⟩ := bind_eq_ok.1 h
    cases hn
    rw [List.cons_append, interpolatedLength, if_pos hverbatim]
    rw [ih hmore (by simpa using hends.drop)]
    rfl
  | case9 offset rest ih =>
    obtain ⟨more, hmore, hn⟩ := bind_eq_ok.1 h
    cases hn
    rw [List.cons_append, List.cons_append, interpolatedLength]
    rw [ih hmore (by simpa using hends.drop)]
    rfl
  | case10 offset rest hdoubled ih =>
    obtain ⟨hole, hhole, h⟩ := bind_eq_ok.1 h
    obtain ⟨more, hmore, hn⟩ := bind_eq_ok.1 h
    cases hn
    rw [List.cons_append, interpolatedLength, holeLength_append hhole]
    . simp only [bind, Except.bind]
      rw [List.drop_append_of_le_length (holeLength_le hhole), ih hole hmore]
      . rfl
      . rw [Nat.add_assoc] at hends
        simpa using hends.drop.drop
    . intro tail htail
      have hrest : rest ≠ [] := by
        rintro rfl
        simp [holeLength] at hhole
      obtain ⟨rest', rfl⟩ := exists_cons_of_append hrest htail
      exact hdoubled rest' rfl
  | case11 offset c rest hdoubled hquote hescape hfeed hbraces hbrace ih =>
    obtain ⟨more, hmore, hn⟩ := bind_eq_ok.1 h
    cases hn
    have hrest : rest ≠ [] := by
      rintro rfl
      simp [interpolatedLength] at hmore
    rw [List.cons_append, interpolatedLength, ih hmore (by simpa using hends.drop)]
    . rfl
    . exact fun _ hc _ => hquote hc
    . exact hquote
    . intro d tail hc htail
      obtain ⟨rest', rfl⟩ := exists_cons_of_append hrest htail
      exact hescape d rest' hc rfl
    . exact hfeed
    . exact fun _ hc _ => hbrace hc
    . exact hbrace

theorem le_quotesLength? {quotes : Nat} {cs : List Char} {n : Nat}
    (h : quotesLength? quotes cs = some n) : quotes ≤ n := by
  fun_induction quotesLength? quotes cs generalizing n with
  | case1 => cases h
  | case2 c rest hfound =>
    cases h
    exact Nat.le_refl _
  | case3 c rest hfound ih =>
    obtain ⟨k, hk, rfl⟩ := Option.map_eq_some_iff.1 h
    exact Nat.le_succ_of_le (ih hk)

theorem quotesLength?_append {quotes : Nat} {cs : List Char} {n : Nat}
    (h : quotesLength? quotes cs = some n) (ys : List Char) :
    quotesLength? quotes (cs ++ ys) = some n := by
  fun_induction quotesLength? quotes cs generalizing n with
  | case1 => cases h
  | case2 c rest hfound =>
    cases h
    rw [List.cons_append, quotesLength?, if_pos]
    rw [List.isPrefixOf_iff_prefix] at *
    exact hfound.trans (List.prefix_append _ _)
  | case3 c rest hfound ih =>
    obtain ⟨k, hk, rfl⟩ := Option.map_eq_some_iff.1 h
    rw [List.cons_append, quotesLength?, if_neg, ih hk]
    . rfl
    . -- the quotes that end the string stand behind the first character
      rw [List.isPrefixOf_iff_prefix] at *
      have hle : quotes ≤ rest.length := (le_quotesLength? hk).trans (quotesLength?_le hk)
      intro hbegins
      apply hfound
      apply List.prefix_of_prefix_length_le hbegins (List.prefix_append _ ys)
      rw [List.length_replicate, List.length_cons]
      omega

theorem rawLength_append {literal : Nat} {cs : List Char} {n : Nat}
    (h : rawLength literal cs = .ok n) (ys : List Char) : rawLength literal (cs ++ ys) = .ok n := by
  unfold rawLength at *
  dsimp only at *
  split at h
  . cases h
  . next body hbody =>
    cases h
    have hlt : (cs.takeWhile (· == '"')).length < cs.length := by
      apply Nat.lt_of_not_le
      intro hle
      rw [List.drop_eq_nil_of_le hle] at hbody
      cases hbody
    have htake : (cs ++ ys).takeWhile (· == '"') = cs.takeWhile (· == '"') := by
      rw [List.takeWhile_append, if_neg (by omega)]
    rw [htake, List.drop_append_of_le_length (Nat.le_of_lt hlt), quotesLength?_append hbody]

theorem quotedLength_empty {interpolated verbatim : Bool} {literal : Nat} :
    quotedLength interpolated verbatim literal ['"', '"'] = .ok 2 := by
  have hbody : interpolatedLength verbatim literal (literal + 1) ['"'] = .ok 1 := by
    simp [interpolatedLength]
  rw [quotedLength.eq_3 _ _ _ _ _ (by simp), hbody]
  cases interpolated
  . cases verbatim
    . rfl
    . rfl
  . rfl

/-- A string that ends before a quote does not become a raw one. -/
theorem not_raw_append {interpolated verbatim : Bool} {literal : Nat} {c : Char} {rest ys : List Char}
    {n : Nat} (h : quotedLength interpolated verbatim literal (c :: rest) = .ok n)
    (hends : EndsBefore n (c :: rest) ys)
    (hnot : ∀ tail, c = '"' → rest = '"' :: '"' :: tail → False) :
    ∀ tail, c = '"' → rest ++ ys = '"' :: '"' :: tail → False := by
  intro tail hc htail
  match rest with
  | [] =>
    rw [quotedLength.eq_3 _ _ _ _ _ (by simp)] at h
    cases interpolated
    . cases verbatim
      . cases h
      . cases h
    . simp [interpolatedLength] at h
  | [d] =>
    rw [List.singleton_append, List.cons.injEq] at htail
    obtain ⟨rfl, htail⟩ := htail
    rw [hc, quotedLength_empty] at h
    cases h
    cases hends with
    | inl hlt => simp at hlt
    | inr hhead => exact hhead (by rw [htail]; rfl)
  | d :: e :: rest =>
    simp only [List.cons_append, List.cons.injEq] at htail
    obtain ⟨rfl, rfl, _⟩ := htail
    exact hnot rest hc rfl

theorem quotedLength_append {interpolated verbatim : Bool} {literal : Nat} {cs ys : List Char} {n : Nat}
    (h : quotedLength interpolated verbatim literal cs = .ok n) (hends : EndsBefore n cs ys) :
    quotedLength interpolated verbatim literal (cs ++ ys) = .ok n := by
  match cs with
  | [] => simp [quotedLength] at h
  | c :: rest =>
    by_cases hraw : ∃ tail, c :: rest = '"' :: '"' :: '"' :: tail
    . obtain ⟨tail, hraw⟩ := hraw
      rw [hraw] at h ⊢
      exact rawLength_append h ys
    . have hnot : ∀ tail, c = '"' → rest = '"' :: '"' :: tail → False := by
        rintro tail rfl rfl
        exact hraw ⟨tail, rfl⟩
      have hgrown := not_raw_append h hends hnot
      rw [quotedLength.eq_3 _ _ _ _ _ hnot] at h
      rw [List.cons_append, quotedLength.eq_3 _ _ _ _ _ hgrown]
      dsimp only at h ⊢
      split at h
      . next hinterpolated =>
        obtain ⟨body, hbody, hn⟩ := bind_eq_ok.1 h
        cases hn
        rw [if_pos hinterpolated, interpolatedLength_append hbody (by simpa using hends.drop)]
        rfl
      . next hinterpolated =>
        rw [if_neg hinterpolated]
        split at h
        . cases h
        . next body hbody =>
          cases h
          split at hbody
          . next hverbatim =>
            rw [if_pos hverbatim, verbatimLength?_append hbody (by simpa using hends.drop)]
            rfl
          . next hverbatim =>
            rw [if_neg hverbatim, plainLength?_append hbody]
            rfl

theorem stringLength_append {offset : Nat} {cs ys : List Char} {n : Nat}
    (h : stringLength offset cs = .ok n) (hends : EndsBefore n cs ys) :
    stringLength offset (cs ++ ys) = .ok n := by
  obtain ⟨body, hbody, hn⟩ := bind_eq_ok.1 h
  cases hn
  have hlt : (cs.takeWhile fun c => c == '$' || c == '@').length < cs.length := by
    have hbounds := quotedLength_bounds hbody
    rw [List.length_drop] at hbounds
    omega
  unfold stringLength
  dsimp only
  rw [List.takeWhile_append, if_neg (by omega), List.drop_append_of_le_length (Nat.le_of_lt hlt),
    quotedLength_append hbody hends.drop]
  rfl

/-! ### The class of a lexeme in front of a seam -/

theorem Parted.prefix_of_append {front cs ys : List Char} (h : Parted cs ys) (hcs : cs ≠ [])
    (hchain : front.IsChain Joined) (hbegins : front <+: cs ++ ys) : front <+: cs := by
  apply List.prefix_of_prefix_length_le hbegins (List.prefix_append cs ys)
  apply h.length_le hcs _ hbegins.length_le
  rwa [← List.prefix_iff_eq_take.1 hbegins]

/--
The beginnings of strings with marks in front of their quotes.
-/
def markedStarts : List (List Char) :=
  [['$', '"'], ['@', '"'], ['$', '@', '"'], ['@', '$', '"'], ['$', '$']]

theorem startsMarkedString_iff {cs : List Char} :
    startsMarkedString cs = true ↔ ∃ front ∈ markedStarts, front <+: cs := by
  constructor
  . intro h
    unfold startsMarkedString at h
    split at h
    case h_6 => cases h
    all_goals simp [markedStarts, List.cons_prefix_cons]
  . rintro ⟨front, hmem, tail, rfl⟩
    simp only [markedStarts, List.mem_cons, List.not_mem_nil, or_false] at hmem
    rcases hmem with rfl | rfl | rfl | rfl | rfl
    all_goals rfl

section

variable {cs ys : List Char} (h : Parted cs ys) (hcs : cs ≠ [])

include h hcs

theorem Parted.startsMarkedString_eq : startsMarkedString (cs ++ ys) = startsMarkedString cs := by
  rw [Bool.eq_iff_iff, startsMarkedString_iff, startsMarkedString_iff]
  have hchain : ∀ front ∈ markedStarts, front.IsChain Joined := by decide
  constructor
  . rintro ⟨front, hmem, hbegins⟩
    exact ⟨front, hmem, h.prefix_of_append hcs (hchain front hmem) hbegins⟩
  . rintro ⟨front, hmem, hbegins⟩
    exact ⟨front, hmem, hbegins.trans (List.prefix_append _ _)⟩

theorem Parted.startsNumber_eq : startsNumber (cs ++ ys) = startsNumber cs := by
  rw [Bool.eq_iff_iff]
  constructor
  . intro hstarts
    rw [startsNumber_iff] at hstarts ⊢
    obtain ⟨c, rest, heq, hdigit⟩ | ⟨d, rest, heq, hdigit⟩ := hstarts
    . have hbegins : [c] <+: cs ++ ys := ⟨rest, heq.symm⟩
      obtain ⟨tail, rfl⟩ := h.prefix_of_append hcs (.singleton c) hbegins
      exact .inl ⟨c, tail, rfl, hdigit⟩
    . have hbegins : ['.', d] <+: cs ++ ys := ⟨rest, heq.symm⟩
      have hjoined : Joined '.' d := joined_of_digit (by simp) hdigit
      obtain ⟨tail, rfl⟩ := h.prefix_of_append hcs (List.isChain_pair.2 hjoined) hbegins
      exact .inr ⟨d, tail, rfl, hdigit⟩
  . intro hstarts
    apply @startsNumber_of_take _ cs.length
    rwa [List.take_left]

theorem Parted.startsIdentifier_eq : startsIdentifier (cs ++ ys) = startsIdentifier cs := by
  rw [Bool.eq_iff_iff]
  constructor
  . intro hstarts
    rw [startsIdentifier_iff] at hstarts ⊢
    obtain ⟨c, rest, heq, hword⟩ | ⟨c, rest, heq, hword⟩ := hstarts
    . have hbegins : [c] <+: cs ++ ys := ⟨rest, heq.symm⟩
      obtain ⟨tail, rfl⟩ := h.prefix_of_append hcs (.singleton c) hbegins
      exact .inl ⟨c, tail, rfl, hword⟩
    . have hbegins : ['@', c] <+: cs ++ ys := ⟨rest, heq.symm⟩
      obtain ⟨tail, rfl⟩ :=
        h.prefix_of_append hcs (List.isChain_pair.2 (joined_of_at hword)) hbegins
      exact .inr ⟨c, tail, rfl, hword⟩
  . intro hstarts
    apply @startsIdentifier_of_take _ cs.length
    rwa [List.take_left]

theorem Parted.find?_marks_eq {mark : String}
    (hmark : marks.find? (fun mark => mark.toList.isPrefixOf cs) = some mark) :
    marks.find? (fun mark => mark.toList.isPrefixOf (cs ++ ys)) = some mark := by
  have hbegins : mark.toList.isPrefixOf cs = true := by simpa using List.find?_some hmark
  rw [List.isPrefixOf_iff_prefix] at hbegins
  cases hfound : marks.find? (fun mark => mark.toList.isPrefixOf (cs ++ ys)) with
  | none =>
    have := List.find?_eq_none.1 hfound mark (List.mem_of_find?_eq_some hmark)
    rw [List.isPrefixOf_iff_prefix] at this
    exact absurd (hbegins.trans (List.prefix_append _ _)) this
  | some other =>
    have hother : other.toList.isPrefixOf (cs ++ ys) = true := by simpa using List.find?_some hfound
    rw [List.isPrefixOf_iff_prefix] at hother
    have hle := (h.prefix_of_append hcs (isChain_mark other (List.mem_of_find?_eq_some hfound))
      hother).length_le
    rw [String.length_toList] at hle
    have htake := find?_marks_take hfound hle
    rw [List.take_left, hmark] at htake
    exact htake.symm

theorem Parted.numberLength_eq : numberLength (cs ++ ys) = numberLength cs := by
  have hle := h.length_le hcs (numberPiece_number (cs ++ ys)).chain numberLength_le
  have htake := numberLength_take hle
  rwa [List.take_left, eq_comm] at htake

theorem Parted.wordLength_eq (hstarts : startsIdentifier cs = true) :
    wordLength (cs ++ ys) = wordLength cs := by
  have hchain := isChain_word ((h.startsIdentifier_eq hcs).trans hstarts)
  have hle : wordLength (cs ++ ys) ≤ (cs ++ ys).length := by
    cases cs with
    | nil => exact absurd rfl hcs
    | cons c rest =>
      rw [List.cons_append, List.length_cons]
      exact wordLength_le
  have htake := wordLength_take (h.length_le hcs hchain hle)
  rwa [List.take_left, eq_comm] at htake

/-- A lexeme stays as it is if a text is put behind a seam. -/
theorem Parted.lexeme_append {offset : Nat} {kind : TokenKind} {n : Nat}
    (hlexeme : lexeme offset cs = .ok (kind, n)) : lexeme offset (cs ++ ys) = .ok (kind, n) := by
  have hhead : (cs ++ ys).head? = cs.head? := List.head?_append_of_ne_nil cs hcs
  unfold lexeme at hlexeme ⊢
  rw [h.startsMarkedString_eq hcs, h.startsNumber_eq hcs, h.startsIdentifier_eq hcs, hhead]
  split at hlexeme
  . next hstring =>
    obtain ⟨length, hlength, hn⟩ := bind_eq_ok.1 hlexeme
    cases hn
    have hends : EndsBefore n cs ys := by
      by_cases hlt : n < cs.length
      . exact .inl hlt
      . right
        intro hquote
        have hlast := stringLength_last hlength
        rw [List.take_of_length_le (by omega)] at hlast
        have hseam := h '"' hlast '"' hquote
        revert hseam
        decide
    rw [if_pos hstring, stringLength_append hlength hends]
    rfl
  . next hstring =>
    rw [if_neg hstring]
    split at hlexeme
    . next hquote =>
      rw [if_pos hquote]
      split at hlexeme
      . cases hlexeme
      . next body hbody =>
        cases hlexeme
        have hdrop : (cs ++ ys).drop 1 = cs.drop 1 ++ ys :=
          List.drop_append_of_le_length (List.length_pos_iff.2 hcs)
        rw [hdrop, characterLength?_append hbody]
    . next hquote =>
      rw [if_neg hquote]
      split at hlexeme
      . next hnumber =>
        cases hlexeme
        rw [if_pos hnumber, h.numberLength_eq hcs]
      . next hnumber =>
        rw [if_neg hnumber]
        split at hlexeme
        . next hword =>
          cases hlexeme
          rw [if_pos hword, h.wordLength_eq hcs hword]
          dsimp only
          rw [List.take_append_of_le_length]
          cases cs with
          | nil => exact absurd rfl hcs
          | cons c rest => exact wordLength_le
        . next hword =>
          rw [if_neg hword]
          split at hlexeme
          . next mark hmark =>
            cases hlexeme
            rw [h.find?_marks_eq hcs hmark]
          . cases hlexeme

end

end Token

end ThreadLint
