import ThreadLint.Proofs.Except
import ThreadLint.Token.Tokenize

/-!
This module contains the bounds of lexemes: no lexeme reaches beyond the text that it is measured
on, and none is empty.
-/

namespace ThreadLint.Token

theorem length_takeWhile_le (test : Char → Bool) (cs : List Char) :
    (cs.takeWhile test).length ≤ cs.length :=
  (List.takeWhile_sublist test).length_le

theorem length_takeWhile_pos {test : Char → Bool} {c : Char} (rest : List Char) (h : test c) :
    0 < ((c :: rest).takeWhile test).length := by
  rw [List.takeWhile_cons_of_pos h]
  simp

theorem le_of_map_add {found : Option Nat} {k bound n : Nat} (h : found.map (· + k) = some n)
    (ih : ∀ {m}, found = some m → m ≤ bound) : n ≤ bound + k := by
  rw [Option.map_eq_some_iff] at h
  obtain ⟨m, hm, rfl⟩ := h
  have := ih hm
  omega

theorem le_of_bind_add {ε : Type} {result : Except ε Nat} {k bound n : Nat}
    (h : (result >>= fun more => pure (k + more)) = .ok n)
    (ih : ∀ {m}, result = .ok m → m ≤ bound) : n ≤ k + bound := by
  obtain ⟨m, hm, hn⟩ := bind_eq_ok.1 h
  cases hn
  have := ih hm
  omega

/-! ### Trivia -/

theorem lineLength_le (cs : List Char) : lineLength cs ≤ cs.length := by
  unfold lineLength
  apply length_takeWhile_le

theorem commentLength?_le {cs : List Char} {n : Nat} (h : commentLength? cs = some n) :
    n ≤ cs.length := by
  fun_induction commentLength? cs generalizing n with
  | case1 => simp at h
  | case2 =>
    cases h
    simp
  | case3 _ _ _ ih => exact le_of_map_add h ih

theorem triviaLength_le {offset : Nat} {fresh : Bool} {cs : List Char} {n : Nat}
    (h : triviaLength offset fresh cs = .ok n) : n ≤ cs.length := by
  fun_induction triviaLength offset fresh cs generalizing n with
  | case1 =>
    cases h
    omega
  | case2 _ _ rest line =>
    rename_i ih
    have := le_of_bind_add h ih
    have : line ≤ rest.length := lineLength_le rest
    simp only [List.length_cons, List.length_drop] at *
    omega
  | case3 => simp at h
  | case4 _ _ rest body hbody ih =>
    have := le_of_bind_add h ih
    have := commentLength?_le hbody
    simp only [List.length_cons, List.length_drop] at *
    omega
  | case5 _ _ _ rest _ _ _ ih =>
    have := le_of_bind_add h ih
    simp only [List.length_cons]
    omega
  | case6 _ _ _ rest _ _ _ _ line =>
    rename_i ih
    have := le_of_bind_add h ih
    have : line ≤ rest.length := lineLength_le rest
    simp only [List.length_cons, List.length_drop] at *
    omega
  | case7 =>
    cases h
    omega

/-! ### Literals -/

theorem plainLength?_le {cs : List Char} {n : Nat} (h : plainLength? cs = some n) :
    n ≤ cs.length := by
  fun_induction plainLength? cs generalizing n with
  | case1 | case3 | case4 => simp at h
  | case2 =>
    cases h
    simp
  | case5 _ _ ih =>
    have := le_of_map_add h ih
    simp only [List.length_cons]
    omega
  | case6 _ _ _ _ _ _ ih => exact le_of_map_add h ih

theorem verbatimLength?_le {cs : List Char} {n : Nat} (h : verbatimLength? cs = some n) :
    n ≤ cs.length := by
  fun_induction verbatimLength? cs generalizing n with
  | case1 => simp at h
  | case2 _ ih =>
    have := le_of_map_add h ih
    simp only [List.length_cons]
    omega
  | case3 =>
    cases h
    simp
  | case4 _ _ _ _ ih => exact le_of_map_add h ih

theorem characterLength?_le {cs : List Char} {n : Nat} (h : characterLength? cs = some n) :
    n ≤ cs.length := by
  fun_induction characterLength? cs generalizing n with
  | case1 | case3 | case4 => simp at h
  | case2 =>
    cases h
    simp
  | case5 _ _ ih =>
    have := le_of_map_add h ih
    simp only [List.length_cons]
    omega
  | case6 _ _ _ _ _ _ ih => exact le_of_map_add h ih

theorem holeLength_le {literal offset depth : Nat} {cs : List Char} {n : Nat}
    (h : holeLength literal offset depth cs = .ok n) : n ≤ cs.length := by
  fun_induction holeLength literal offset depth cs generalizing n with
  | case1 | case5 | case7 | case9 | case11 => simp at h
  | case2 _ _ _ ih | case4 _ _ _ _ ih | case12 _ _ _ _ _ _ _ _ _ _ ih =>
    have := le_of_bind_add h ih
    simp only [List.length_cons]
    omega
  | case3 =>
    cases h
    simp
  | case6 _ _ _ _ hinner ih =>
    have := le_of_bind_add h ih
    have := plainLength?_le hinner
    simp only [List.length_cons, List.length_drop] at *
    omega
  | case8 _ _ _ _ hinner ih =>
    have := le_of_bind_add h ih
    have := verbatimLength?_le hinner
    simp only [List.length_cons, List.length_drop] at *
    omega
  | case10 _ _ _ _ hinner ih =>
    have := le_of_bind_add h ih
    have := characterLength?_le hinner
    simp only [List.length_cons, List.length_drop] at *
    omega

theorem interpolatedLength_le {verbatim : Bool} {literal offset : Nat} {cs : List Char} {n : Nat}
    (h : interpolatedLength verbatim literal offset cs = .ok n) : n ≤ cs.length := by
  fun_induction interpolatedLength verbatim literal offset cs generalizing n with
  | case1 | case8 => simp at h
  | case3 | case4 =>
    cases h
    simp
  | case2 _ _ _ ih | case5 _ _ _ _ ih | case6 _ _ _ _ ih | case7 _ _ _ ih | case9 _ _ ih
  | case11 _ _ _ _ _ _ _ _ _ ih =>
    have := le_of_bind_add h ih
    simp only [List.length_cons] at *
    omega
  | case10 _ rest _ ih =>
    obtain ⟨hole, hhole, h⟩ := bind_eq_ok.1 h
    have := le_of_bind_add h (ih hole)
    have := holeLength_le hhole
    simp only [List.length_cons, List.length_drop] at *
    omega

theorem quotesLength?_le {quotes : Nat} {cs : List Char} {n : Nat}
    (h : quotesLength? quotes cs = some n) : n ≤ cs.length := by
  fun_induction quotesLength? quotes cs generalizing n with
  | case1 => simp at h
  | case2 _ _ found =>
    cases h
    have := (List.isPrefixOf_iff_prefix.1 found).length_le
    simpa using this
  | case3 _ _ _ ih => exact le_of_map_add h ih

theorem rawLength_le {literal : Nat} {cs : List Char} {n : Nat}
    (h : rawLength literal cs = .ok n) : n ≤ cs.length := by
  unfold rawLength at h
  dsimp only at h
  split at h
  . simp at h
  . next body hbody =>
    cases h
    have := quotesLength?_le hbody
    have := length_takeWhile_le (· == '"') cs
    simp only [List.length_drop] at *
    omega

theorem rawLength_pos {literal : Nat} {rest : List Char} {n : Nat}
    (h : rawLength literal ('"' :: rest) = .ok n) : 0 < n := by
  unfold rawLength at h
  dsimp only at h
  split at h
  . simp at h
  . cases h
    have : 0 < (List.takeWhile (· == '"') ('"' :: rest)).length := length_takeWhile_pos rest rfl
    omega

/-- The body of a string that is not raw follows its quote. -/
theorem quotedLength_eq_ok {interpolated verbatim : Bool} {literal : Nat} {c : Char}
    {rest : List Char} {n : Nat} (h : quotedLength interpolated verbatim literal (c :: rest) = .ok n)
    (hraw : ∀ tail, c :: rest ≠ '"' :: '"' :: '"' :: tail) :
    ∃ body, n = 1 + body ∧ body ≤ rest.length := by
  rw [quotedLength.eq_3 _ _ _ _ _ (fun tail hc hrest => hraw tail (by rw [hc, hrest]))] at h
  dsimp only at h
  split at h
  . obtain ⟨body, hbody, hn⟩ := bind_eq_ok.1 h
    cases hn
    exact ⟨body, rfl, interpolatedLength_le hbody⟩
  . split at h
    . simp [bind, Except.bind] at h
    . next body found =>
      cases h
      refine ⟨body, rfl, ?_⟩
      split at found
      . exact verbatimLength?_le found
      . exact plainLength?_le found

theorem quotedLength_bounds {interpolated verbatim : Bool} {literal : Nat} {cs : List Char}
    {n : Nat} (h : quotedLength interpolated verbatim literal cs = .ok n) :
    0 < n ∧ n ≤ cs.length := by
  match cs with
  | [] => simp [quotedLength] at h
  | c :: rest =>
    by_cases hraw : ∃ tail, c :: rest = '"' :: '"' :: '"' :: tail
    . obtain ⟨tail, hraw⟩ := hraw
      rw [hraw] at h ⊢
      exact ⟨rawLength_pos h, rawLength_le h⟩
    . obtain ⟨body, rfl, hbody⟩ := quotedLength_eq_ok h (fun tail heq => hraw ⟨tail, heq⟩)
      simp only [List.length_cons]
      omega

theorem stringLength_bounds {offset : Nat} {cs : List Char} {n : Nat}
    (h : stringLength offset cs = .ok n) : 0 < n ∧ n ≤ cs.length := by
  obtain ⟨body, hbody, hn⟩ := bind_eq_ok.1 h
  cases hn
  have := quotedLength_bounds hbody
  have := length_takeWhile_le (fun c => c == '$' || c == '@') cs
  simp only [List.length_drop] at *
  omega

/-! ### Numbers and words -/

theorem fractionLength_le (cs : List Char) : fractionLength cs ≤ cs.length := by
  unfold fractionLength
  split
  . next d rest =>
    split
    . have := length_takeWhile_le continuesDigits (d :: rest)
      simp only [List.length_cons] at *
      omega
    . omega
  . omega

theorem exponentLength_tail_le (sign : Nat) (rest : List Char) (h : sign ≤ rest.length) :
    (if ((rest.drop sign).takeWhile Text.isDigit).length = 0 then 0
      else 1 + sign + ((rest.drop sign).takeWhile Text.isDigit).length) ≤ rest.length + 1 := by
  have := length_takeWhile_le Text.isDigit (rest.drop sign)
  simp only [List.length_drop] at this
  split
  . omega
  . omega

theorem exponentLength_le (cs : List Char) : exponentLength cs ≤ cs.length := by
  unfold exponentLength
  split
  case h_3 => omega
  all_goals
    apply exponentLength_tail_le
    split
    case h_3 => omega
    all_goals simp

theorem numberLength_le {cs : List Char} : numberLength cs ≤ cs.length := by
  unfold numberLength
  split
  case h_5 =>
    dsimp only
    generalize hwhole : (cs.takeWhile continuesDigits).length = whole
    generalize hfraction : fractionLength (cs.drop whole) = fraction
    generalize hexponent : exponentLength (cs.drop (whole + fraction)) = exponent
    have := length_takeWhile_le continuesDigits cs
    have := fractionLength_le (cs.drop whole)
    have := exponentLength_le (cs.drop (whole + fraction))
    have := length_takeWhile_le ("uUlLfFdDmM".toList.contains ·)
      (cs.drop (whole + fraction + exponent))
    simp only [List.length_drop] at *
    omega
  all_goals
    next rest =>
    have := length_takeWhile_le continuesWord rest
    simp only [List.length_cons] at *
    omega

theorem numberLength_pos {cs : List Char} (h : startsNumber cs) : 0 < numberLength cs := by
  unfold numberLength
  split
  case h_5 =>
    dsimp only
    unfold startsNumber at h
    split at h
    . next d rest _ _ _ _ =>
      have point : ('.' :: d :: rest).takeWhile continuesDigits = [] := rfl
      have : 0 < fractionLength ('.' :: d :: rest) := by
        rw [fractionLength, if_pos h]
        omega
      rw [point]
      simp only [List.length_nil, List.drop_zero]
      omega
    . next c rest _ _ _ _ _ =>
      have := length_takeWhile_pos rest (show continuesDigits c by simp [continuesDigits, h])
      omega
    . simp at h
  all_goals omega

theorem wordLength_le {c : Char} {rest : List Char} : wordLength (c :: rest) ≤ rest.length + 1 := by
  unfold wordLength
  have := length_takeWhile_le continuesWord rest
  simp only [List.drop_succ_cons, List.drop_zero]
  omega

theorem wordKind_ne_eof (word : String) : wordKind word ≠ .eof := by
  unfold wordKind
  split
  . simp
  . simp

theorem mark_pos : ∀ mark ∈ marks, 0 < mark.length := by decide

theorem lexeme_bounds {offset : Nat} {c : Char} {rest : List Char} {kind : TokenKind} {n : Nat}
    (h : lexeme offset (c :: rest) = .ok (kind, n)) :
    kind ≠ .eof ∧ 0 < n ∧ n ≤ rest.length + 1 := by
  unfold lexeme at h
  split at h
  . obtain ⟨_, hlength, hn⟩ := bind_eq_ok.1 h
    cases hn
    have := stringLength_bounds hlength
    simp only [List.length_cons] at this
    simpa using this
  . split at h
    . split at h
      . simp at h
      . next found =>
        cases h
        have := characterLength?_le found
        simp only [List.drop_succ_cons, List.drop_zero] at this
        simp
        omega
    . split at h
      . next hnumber =>
        cases h
        simp
        exact ⟨numberLength_pos hnumber, numberLength_le⟩
      . split at h
        . cases h
          refine ⟨wordKind_ne_eof _, ?_, wordLength_le⟩
          unfold wordLength
          omega
        . split at h
          . next mark found =>
            cases h
            have hprefix := List.find?_some found
            have := (List.isPrefixOf_iff_prefix.1 hprefix).length_le
            refine ⟨by simp, mark_pos mark (List.mem_of_find?_eq_some found), ?_⟩
            rw [String.length_toList] at this
            exact this
          . simp at h

end ThreadLint.Token
