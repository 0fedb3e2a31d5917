import ThreadLint.Proofs.Token.Lexeme
import ThreadLint.Token.Tokenize

/-!
This module contains the theorem that the tokens of a text tile it: nothing of the text is lost
between two of them, and nothing is in two of them.
-/

namespace ThreadLint

namespace Text

theorem toList_slice (text : List Char) (start stop : Nat) :
    (slice text start stop).toList = (text.drop start).take (stop - start) := by
  unfold slice
  rw [String.toList_ofList]

theorem length_slice {text : List Char} {start stop : Nat} (h : stop ≤ text.length) :
    (slice text start stop).length = stop - start := by
  rw [← String.length_toList]
  rw [toList_slice]
  rw [List.length_take]
  rw [List.length_drop]
  omega

theorem slice_append_drop {text : List Char} {start stop : Nat} (h : start ≤ stop) :
    (slice text start stop).toList ++ text.drop stop = text.drop start := by
  rw [toList_slice]
  rw [show text.drop stop = (text.drop start).drop (stop - start) by
    rw [List.drop_drop, Nat.add_sub_cancel' h]]
  apply List.take_append_drop

theorem getLast?_take_of_slice {text : List Char} {start stop : Nat} {part : String}
    (h : slice text start stop = part) (hle : start ≤ stop) (hne : part.toList ≠ []) :
    (text.take stop).getLast? = part.toList.getLast? := by
  rw [show stop = start + (stop - start) by omega, List.take_add, ← toList_slice, h,
    List.getLast?_append]
  cases hlast : part.toList.getLast? with
  | none => exact absurd (List.getLast?_eq_none_iff.1 hlast) hne
  | some c => rfl

end Text

namespace Token

/--
The tokens hold everything of a text from an offset on, and every one of them but the last is a
lexeme.
-/
inductive Tiles (cs : List Char) : Nat → List Token → Prop where
  | last {offset : Nat} (h : offset ≤ cs.length) :
    Tiles cs offset [⟨.eof, "", cs.length, Text.slice cs offset cs.length⟩]
  | next {offset : Nat} {token : Token} {others : List Token}
    (start : offset ≤ token.start)
    (trivia : token.trivia = Text.slice cs offset token.start)
    (text : token.text = Text.slice cs token.start token.stop)
    (lexed : lexeme token.start (cs.drop token.start) = .ok (token.kind, token.text.length))
    (kind : token.kind ≠ .eof)
    (length : 0 < token.text.length)
    (stop : token.stop ≤ cs.length)
    (tail : Tiles cs token.stop others) :
    Tiles cs offset (token :: others)

theorem tokensFrom_eq_ok {offset : Nat} {fresh : Bool} {cs : List Char} {tokens : List Token}
    (h : tokensFrom offset fresh cs = .ok tokens) :
    ∃ trivia, triviaLength offset fresh cs = .ok trivia ∧
      ((cs.drop trivia = [] ∧
          tokens = [⟨.eof, "", offset + trivia, String.ofList (cs.take trivia)⟩]) ∨
        ∃ c rest kind length others, cs.drop trivia = c :: rest ∧
          lexeme (offset + trivia) (c :: rest) = .ok (kind, length) ∧
          tokensFrom (offset + trivia + length) false (rest.drop (length - 1)) = .ok others ∧
          tokens = ⟨kind, String.ofList ((c :: rest).take length), offset + trivia,
            String.ofList (cs.take trivia)⟩ :: others) := by
  unfold tokensFrom at h
  obtain ⟨trivia, htrivia, h⟩ := bind_eq_ok.1 h
  refine ⟨trivia, htrivia, ?_⟩
  split at h
  . next hdrop =>
    cases h
    exact .inl ⟨hdrop, rfl⟩
  . next c rest hdrop =>
    obtain ⟨⟨kind, length⟩, hlexeme, h⟩ := bind_eq_ok.1 h
    obtain ⟨others, hothers, h⟩ := bind_eq_ok.1 h
    cases h
    exact .inr ⟨c, rest, kind, length, others, hdrop, hlexeme, hothers, rfl⟩

theorem Tiles.of_tokensFrom {text : List Char} {offset : Nat} {fresh : Bool} {tokens : List Token}
    (hoffset : offset ≤ text.length)
    (h : tokensFrom offset fresh (text.drop offset) = .ok tokens) : Tiles text offset tokens := by
  obtain ⟨trivia, htrivia, h⟩ := tokensFrom_eq_ok h
  have htrivia := triviaLength_le htrivia
  rw [List.length_drop] at htrivia
  cases h with
  | inl h =>
    obtain ⟨hdrop, rfl⟩ := h
    have := congrArg List.length hdrop
    simp only [List.length_drop, List.length_nil] at this
    have hstart : offset + trivia = text.length := by omega
    have htake : String.ofList ((text.drop offset).take trivia)
        = Text.slice text offset text.length := by
      unfold Text.slice
      rw [show text.length - offset = trivia by omega]
    rw [hstart, htake]
    exact .last hoffset
  | inr h =>
    obtain ⟨c, rest, kind, length, others, hdrop, hlexeme, hothers, rfl⟩ := h
    obtain ⟨hkind, hpos, hlength⟩ := lexeme_bounds hlexeme
    rw [List.drop_drop] at hdrop
    have hstop : text.length - (offset + trivia) = rest.length + 1 := by
      simpa using congrArg List.length hdrop
    have htext : (String.ofList ((c :: rest).take length)).length = length := by
      rw [← String.length_toList, String.toList_ofList, List.length_take, List.length_cons]
      omega
    have hrest : rest.drop (length - 1) = text.drop (offset + trivia + length) := by
      rw [← List.drop_drop, hdrop]
      rw [← List.drop_succ_cons (a := c)]
      rw [show length - 1 + 1 = length by omega]
    rw [hrest] at hothers
    have tail := Tiles.of_tokensFrom (by omega) hothers
    apply Tiles.next
    case start => exact Nat.le_add_right offset trivia
    case trivia => simp [Text.slice]
    case text =>
      simp only [stop, Text.slice, htext]
      rw [hdrop, Nat.add_sub_cancel_left]
    case lexed =>
      simp only [htext]
      rw [hdrop]
      exact hlexeme
    case kind => exact hkind
    case length =>
      simp only [htext]
      exact hpos
    case stop =>
      simp only [stop, htext]
      omega
    case tail =>
      simp only [stop, htext]
      exact tail
termination_by text.length - offset
decreasing_by omega

theorem Tiles.of_tokenize {source : Source} {tokens : List Token}
    (h : tokenize source = .ok tokens) : Tiles source.chars 0 tokens := by
  unfold tokenize at h
  rw [mapError_eq_ok] at h
  exact Tiles.of_tokensFrom (Nat.zero_le _) h

/--
The offset behind the token in front of an index. The tokens begin at `offset`.
-/
def stopBefore (offset : Nat) (tokens : List Token) : Nat → Nat
  | 0 => offset
  | index + 1 => (tokens[index]?.map stop).getD 0

/--
What it means that tokens tile a text.
-/
structure Tiling (source : Source) (tokens : List Token) : Prop where
  ends : ∃ front last, tokens = front ++ [last] ∧ last.isEnd = true ∧
    ∀ token ∈ front, token.isEnd = false ∧ token.text ≠ ""
  text_eq : ∀ token ∈ tokens, token.stop ≤ source.length ∧ token.text = source.slice token.extent
  trivia_eq : ∀ index (h : index < tokens.length),
    stopBefore 0 tokens index ≤ tokens[index].start ∧
      tokens[index].trivia = source.slice ⟨stopBefore 0 tokens index, tokens[index].start⟩
  join_eq : String.join (tokens.map fun token => token.trivia ++ token.text) = source.text

theorem Tiles.ends {cs : List Char} {offset : Nat} {tokens : List Token}
    (h : Tiles cs offset tokens) : ∃ front last, tokens = front ++ [last] ∧ last.isEnd = true ∧
      ∀ token ∈ front, token.isEnd = false ∧ token.text ≠ "" := by
  induction h with
  | last => exact ⟨[], _, rfl, rfl, by simp⟩
  | @next _ token _ _ _ _ _ kind length _ _ ih =>
    obtain ⟨front, last, rfl, hlast, hfront⟩ := ih
    refine ⟨token :: front, last, rfl, hlast, ?_⟩
    intro other hother
    rw [List.mem_cons] at hother
    cases hother with
    | inl heq =>
      rw [heq]
      refine ⟨by simpa [isEnd] using kind, ?_⟩
      intro hempty
      rw [hempty] at length
      simp at length
    | inr hmem => exact hfront other hmem

theorem Tiles.text_eq {cs : List Char} {offset : Nat} {tokens : List Token}
    (h : Tiles cs offset tokens) {token : Token} (hmem : token ∈ tokens) :
    token.stop ≤ cs.length ∧ token.text = Text.slice cs token.start token.stop := by
  induction h with
  | last =>
    rw [List.mem_singleton] at hmem
    rw [hmem]
    simp [stop, Text.slice]
  | next _ _ text _ _ _ stop _ ih =>
    rw [List.mem_cons] at hmem
    cases hmem with
    | inl heq =>
      rw [heq]
      exact ⟨stop, text⟩
    | inr hmem => exact ih hmem

theorem Tiles.start_of_isEnd {cs : List Char} {offset : Nat} {tokens : List Token}
    (h : Tiles cs offset tokens) {token : Token} (hmem : token ∈ tokens) (hend : token.isEnd = true) :
    token.start = cs.length := by
  induction h with
  | last =>
    rw [List.mem_singleton] at hmem
    rw [hmem]
  | next _ _ _ _ kind _ _ _ ih =>
    rw [List.mem_cons] at hmem
    cases hmem with
    | inl heq =>
      rw [heq] at hend
      exact absurd (by simpa [isEnd] using hend) kind
    | inr hmem => exact ih hmem

theorem stopBefore_succ (offset : Nat) (token : Token) (others : List Token) (index : Nat) :
    stopBefore offset (token :: others) (index + 1) = stopBefore token.stop others index := by
  cases index with
  | zero => rfl
  | succ index => rfl

theorem Tiles.trivia_eq {cs : List Char} {offset : Nat} {tokens : List Token}
    (h : Tiles cs offset tokens) (index : Nat) (hindex : index < tokens.length) :
    stopBefore offset tokens index ≤ tokens[index].start ∧
      tokens[index].trivia
        = Text.slice cs (stopBefore offset tokens index) tokens[index].start := by
  induction h generalizing index with
  | last h =>
    have : index = 0 := by simpa using hindex
    subst this
    exact ⟨h, rfl⟩
  | next start trivia _ _ _ _ _ _ ih =>
    cases index with
    | zero => exact ⟨start, trivia⟩
    | succ index =>
      rw [stopBefore_succ]
      exact ih index (by simpa using hindex)

theorem Tiles.join_eq {cs : List Char} {offset : Nat} {tokens : List Token}
    (h : Tiles cs offset tokens) :
    (String.join (tokens.map fun token => token.trivia ++ token.text)).toList
      = cs.drop offset := by
  induction h with
  | @last offset h =>
    have : (Text.slice cs offset cs.length).toList ++ cs.drop cs.length = cs.drop offset :=
      Text.slice_append_drop h
    simpa using this
  | @next offset token others start trivia text _ _ _ _ _ ih =>
    rw [List.map_cons, String.join_cons, String.toList_append, String.toList_append]
    rw [ih, trivia, text]
    rw [List.append_assoc]
    have hstop : token.start ≤ token.stop := Nat.le_add_right _ _
    rw [Text.slice_append_drop hstop]
    rw [Text.slice_append_drop start]

theorem tokenize_tiling {source : Source} {tokens : List Token}
    (h : tokenize source = .ok tokens) : Tiling source tokens := by
  have tiles := Tiles.of_tokenize h
  constructor
  case ends => exact tiles.ends
  case text_eq =>
    intro token hmem
    exact tiles.text_eq hmem
  case trivia_eq =>
    intro index hindex
    exact tiles.trivia_eq index hindex
  case join_eq =>
    apply String.toList_injective
    rw [tiles.join_eq]
    simp [Source.text]

/-- A text with a comment, a string with a hole and a doubled quote. -/
theorem tokenize_tiling_interpolation :
    Tiling (Source.ofString "x = $\"\x7b\"\x7d\"\x7d\" /* */ ;" none)
      [⟨.identifier, "x", 0, ""⟩, ⟨.punct, "=", 2, " "⟩,
        ⟨.string, "$\"\x7b\"\x7d\"\x7d\"", 4, " "⟩, ⟨.punct, ";", 19, " /* */ "⟩,
        ⟨.eof, "", 20, ""⟩] :=
  tokenize_tiling (eq_ok_of_toOption (by decide +kernel))

end Token

end ThreadLint
