import ThreadLint.Proofs.Rule

/-!
This module contains what tokens have to do with the names that nodes mention: a node that mentions a
word begins with a token that reads like it, and the names of the bases of a type are what stands in
their extents, without the white space.
-/

namespace ThreadLint

open ThreadLint.Parser

/--
Whether all of an extent is part of another one.
-/
structure Extent.IsInside (extent outer : Extent) : Prop where
  start_le : outer.start ≤ extent.start
  stop_le : extent.stop ≤ outer.stop

instance (extent outer : Extent) : Decidable (extent.IsInside outer) :=
  decidable_of_iff (outer.start ≤ extent.start ∧ extent.stop ≤ outer.stop)
    ⟨fun ⟨hstart, hstop⟩ => ⟨hstart, hstop⟩, fun ⟨hstart, hstop⟩ => ⟨hstart, hstop⟩⟩

/-! ### Tokens that read like a name -/

namespace Token

theorem dropBlanks_eq {text : String} (h : ∀ c ∈ text.toList, Text.isBlank c = false) :
    Text.dropBlanks text = text := by
  unfold Text.dropBlanks
  rw [List.filter_eq_self.2, String.ofList_toList]
  intro c hc
  rw [h c hc]
  rfl

theorem Tiles.dropBlanks_of_identifier {cs : List Char} {tokens : List Token}
    (h : Tiles cs 0 tokens) {token : Token} (hmem : token ∈ tokens)
    (hidentifier : token.isIdentifier = true) : Text.dropBlanks token.text = token.text := by
  obtain ⟨c, rest, hstarts, htext⟩ := h.text_of_identifier hmem hidentifier
  apply dropBlanks_eq
  intro d hd
  rw [htext, List.mem_cons] at hd
  cases hd with
  | inl heq =>
    rw [heq]
    by_cases hmark : c = '@'
    . rw [hmark]
      decide
    . have hword : startsWord c = true := by
        unfold startsIdentifier at hstarts
        split at hstarts
        all_goals simp_all
      exact isBlank_of_continuesWord (continuesWord_of_startsWord hword)
  | inr hd => exact isBlank_of_continuesWord (List.all_eq_true.1 List.all_takeWhile d hd)

theorem length_identifierName (token : Token) :
    token.identifierName.length ≤ token.text.length ∧
      token.text.length ≤ token.identifierName.length + 1 := by
  unfold identifierName
  split
  . next rest hchars =>
    rw [← String.length_toList, ← String.length_toList, hchars, String.toList_ofList]
    simp
  . exact ⟨Nat.le_refl _, Nat.le_succ _⟩

end Token

section

variable {source : Source} {tokens : List Token} {root : Node} (h : Sited source tokens root)

include h

/-- A token that reads like a word is not the end of the text. -/
theorem Sited.exists_index {token : Token} (hmem : token ∈ tokens)
    (hword : Token.IsWord token.identifierName) :
    ∃ index, index < last tokens.toArray ∧ token = tokenAt tokens.toArray index := by
  have := h.lawful
  obtain ⟨index, hindex, rfl⟩ := List.mem_iff_getElem.1 hmem
  have hsize : index < tokens.toArray.size := by simpa using hindex
  have heq : tokens[index] = tokenAt tokens.toArray index := by
    rw [tokenAt_eq_getElem hsize, List.getElem_toArray]
  refine ⟨index, ?_, heq⟩
  rw [heq] at hword
  apply Nat.lt_of_not_le
  intro hle
  have hend := (Lawful.isEnd_iff index).2 hle
  rw [heq] at hmem
  have hstart := h.tiles.start_of_isEnd hmem hend
  have hstop := (h.tiles.text_eq hmem).1
  have hempty : (tokenAt tokens.toArray index).text.toList = [] := by
    rw [← List.length_eq_zero_iff, String.length_toList]
    unfold Token.stop at hstop
    omega
  obtain ⟨c, rest, hchars, _⟩ := hword
  simp [Token.identifierName, hempty] at hchars

/-- A token that reads like a word has its name in front unless it has a mark there. -/
theorem Sited.text_eq_iff_slice_eq {token : Token} (hmem : token ∈ tokens)
    (hword : Token.IsWord token.identifierName) :
    token.text = token.identifierName ↔
      source.slice ⟨token.start, token.start + token.identifierName.length⟩
        = token.identifierName := by
  obtain ⟨_, htext⟩ := h.tiles.text_eq hmem
  constructor
  . intro heq
    rw [← heq]
    exact htext.symm
  . intro hslice
    apply Decidable.by_contra
    intro hne
    have hmark : token.text.toList.head? = some '@' := by
      unfold Token.identifierName at hne
      split at hne
      . next hchars =>
        rw [hchars]
        rfl
      . exact absurd rfl hne
    obtain ⟨c, rest, hchars, hc, _⟩ := hword
    have hfirst {stop : Nat} {d : Char}
        (hd : (source.slice ⟨token.start, stop⟩).toList.head? = some d) :
        (source.chars.drop token.start).head? = some d := by
      unfold Source.slice at hd
      rw [Text.toList_slice, List.head?_take] at hd
      split at hd
      . cases hd
      . exact hd
    rw [htext] at hmark
    have hfront := hfirst hmark
    rw [hfirst (by rw [hslice, hchars, List.head?_cons])] at hfront
    exact Token.ne_of_startsWord hc '@' (by decide) (Option.some.inj hfront)

theorem Sited.eq_of_startAt_eq {index index' : Nat} (hindex : index < last tokens.toArray)
    (hindex' : index' < last tokens.toArray)
    (heq : startAt tokens.toArray index = startAt tokens.toArray index') : index = index' := by
  have := h.lawful
  have hlt : startAt tokens.toArray index < stopAt tokens.toArray index :=
    Lawful.start_lt_stop index hindex
  have hlt' : startAt tokens.toArray index' < stopAt tokens.toArray index' :=
    Lawful.start_lt_stop index' hindex'
  rcases Nat.lt_trichotomy index index' with hbefore | heq | hbehind
  . have : stopAt tokens.toArray index ≤ startAt tokens.toArray index' :=
      stop_le_start hbefore (by omega)
    omega
  . exact heq
  . have : stopAt tokens.toArray index' ≤ startAt tokens.toArray index :=
      stop_le_start hbehind (by omega)
    omega

/-- No node ends inside a token. -/
theorem Sited.stop_le_or_le_start {node : Node} (hmem : node ∈ root.preorder) {index : Nat}
    (hindex : index < last tokens.toArray) :
    stopAt tokens.toArray index ≤ node.extent.stop ∨
      node.extent.stop ≤ startAt tokens.toArray index := by
  have := h.lawful
  cases h.mem_preorder hmem with
  | inl heq =>
    rw [heq, h.root_eq]
    exact .inl (stopAt_le_of_tiles h.tiles (Nat.le_of_lt hindex))
  | inr hlocated =>
    obtain ⟨first, stop, hkept⟩ := hlocated
    cases hkept with
    | inl hwhole =>
      obtain ⟨hlt, hlast, hextent, _⟩ := whole_iff.1 hwhole
      rw [hextent, extentOf]
      rcases Nat.lt_or_ge (stop - 1) index with hbehind | hbefore
      . exact .inr (stop_le_start hbehind (by omega))
      . exact .inl (stop_le_stop hbefore (by omega))
    | inr hmissing =>
      rw [hmissing.1.2.2]
      exact .inl (stop_le_start hindex (Nat.le_refl _))

/-- A word that an identifier mentions is what a token reads like. -/
theorem Sited.identifierName_of_mentions {first : Nat} {name : String} {role : IdentifierRole}
    (hlast : first < last tokens.toArray) (hword : Token.IsWord name)
    (hrole : ∀ typeName, role ≠ .declaration typeName)
    (hmentions : Mentions tokens.toArray first name role) :
    (tokenAt tokens.toArray first).identifierName = name := by
  have hmem := tokenAt_mem_of_tiles h.tiles (Nat.le_of_lt hlast)
  cases role with
  | name => exact hmentions.1.symm
  | parts => exact (hmentions hword).symm
  | declaration typeName => exact absurd rfl (hrole typeName)
  | typeTest =>
    obtain ⟨hname, hkind⟩ := hmentions hword
    have htext : Text.dropBlanks (tokenAt tokens.toArray first).text
        = (tokenAt tokens.toArray first).text := by
      rw [Bool.or_eq_true] at hkind
      cases hkind with
      | inl hidentifier => exact h.tiles.dropBlanks_of_identifier hmem hidentifier
      | inr hpredefined =>
        have htypes : ∀ text ∈ predefinedTypes, Text.dropBlanks text = text := by decide +kernel
        rw [isPredefinedType, Token.isKeyword, Bool.and_eq_true, List.contains_iff_mem]
          at hpredefined
        exact htypes _ hpredefined.2
    rw [htext] at hname
    rw [Token.identifierName_of_isWord (hname ▸ hword), hname]

end

/-! ### Names that are spelled out -/

namespace Token

variable {cs : List Char} {offset : Nat} {tokens : List Token}

/-- The tokens from one of them on hold what is behind the token in front of it. -/
theorem Tiles.drop (h : Tiles cs offset tokens) (index : Nat) (hindex : index < tokens.length) :
    Tiles cs (stopBefore offset tokens index) (tokens.drop index) := by
  induction h generalizing index with
  | last h =>
    obtain rfl : index = 0 := by simpa using hindex
    exact .last h
  | next start trivia text lexed kind length stop tail ih =>
    cases index with
    | zero => exact .next start trivia text lexed kind length stop tail
    | succ index =>
      rw [stopBefore_succ, List.drop_succ_cons]
      exact ih index (Nat.lt_of_succ_lt_succ hindex)

/-- The tokens in front of one of them are written up to the end of the last one. -/
theorem Tiles.join_take (h : Tiles cs offset tokens) (index : Nat) (hindex : index < tokens.length) :
    (String.join ((tokens.take index).map fun token => token.trivia ++ token.text)).toList
        ++ cs.drop (stopBefore offset tokens index)
      = cs.drop offset := by
  rw [← (h.drop index hindex).join_eq, ← h.join_eq, ← String.toList_append, ← String.join_append,
    ← List.map_append, List.take_append_drop]

theorem stopBefore_drop (offset first count : Nat) (tokens : List Token) :
    stopBefore (stopBefore offset tokens first) (tokens.drop first) count
      = stopBefore offset tokens (first + count) := by
  cases count with
  | zero => rfl
  | succ count => rw [← Nat.add_assoc, stopBefore, stopBefore, List.getElem?_drop]

end Token

namespace Parser

variable {cs : List Char} {tokens : List Token}

/-- What some tokens are spelled like is what is written in their extent. -/
theorem spelled_eq_dropBlanks (h : Token.Tiles cs 0 tokens) {first stop : Nat} (hlt : first < stop)
    (hstop : stop < tokens.length) :
    spelled tokens.toArray first stop
      = Text.dropBlanks (Text.slice cs (startAt tokens.toArray first)
        (stopAt tokens.toArray (stop - 1))) := by
  obtain ⟨count, rfl⟩ : ∃ count, stop = first + 1 + count := ⟨stop - (first + 1), by omega⟩
  have hfirst : first < tokens.length := by omega
  have hat {index : Nat} (hindex : index < tokens.length) :
      tokenAt tokens.toArray index = tokens[index] :=
    tokenAt_eq_getElem (by rwa [List.size_toArray])
  have hstopBefore {index : Nat} (hindex : index < tokens.length) :
      Token.stopBefore 0 tokens (index + 1) = stopAt tokens.toArray index := by
    rw [Token.stopBefore, List.getElem?_eq_getElem hindex, stopAt, hat hindex]
    rfl
  have hwords : (tokens.toArray.extract first (first + 1 + count)).toList
      = tokens[first] :: (tokens.drop (first + 1)).take count := by
    rw [List.extract_toArray, List.extract_eq_take_drop, List.drop_eq_getElem_cons hfirst,
      show first + 1 + count - first = count + 1 by omega, List.take_succ_cons]
  have hjoin := (h.drop (first + 1) (by omega)).join_take count (by rw [List.length_drop]; omega)
  rw [Token.stopBefore_drop, hstopBefore hfirst, show first + 1 + count = first + count + 1 by omega,
    hstopBefore (by omega)] at hjoin
  unfold spelled
  rw [hwords]
  dsimp only
  congr 1
  apply String.toList_injective
  rw [show first + 1 + count - 1 = first + count by omega]
  have := Lawful.of_tiles h
  have hlast : first + count ≤ last tokens.toArray := by
    unfold last
    rw [List.size_toArray]
    omega
  have hle : startAt tokens.toArray first ≤ stopAt tokens.toArray (first + count) :=
    Nat.le_trans (start_le_stop _ _) (stop_le_stop (by omega) hlast)
  have htext : tokens[first].text.toList ++ cs.drop (stopAt tokens.toArray first)
      = cs.drop (startAt tokens.toArray first) := by
    rw [(h.text_eq (List.getElem_mem hfirst)).2, startAt, stopAt, hat hfirst]
    exact Text.slice_append_drop (Nat.le_add_right _ _)
  -- Both are followed by the rest of the text.
  refine @List.append_cancel_right _ _ (cs.drop (stopAt tokens.toArray (first + count))) _ ?_
  rw [Text.slice_append_drop hle, String.toList_append, List.append_assoc, hjoin, htext]

end Parser

theorem Sited.base_eq {source : Source} {tokens : List Token} {root node : Node}
    (h : Sited source tokens root) (hmem : node ∈ root.preorder) {head : TypeHead}
    (hform : node.form = .classDecl head) {base : String × Extent} (hbase : base ∈ head.bases) :
    base.1 = Text.dropBlanks (source.slice base.2) := by
  have := h.lawful
  obtain ⟨first, stop, hlast, _, hbases⟩ := h.fits hmem hform (by simp [Form.kind])
  obtain ⟨⟨lo, hi, _, hlt, hhi, hextent, hname⟩, _⟩ := hbases base hbase
  have hsize : Parser.last tokens.toArray < tokens.toArray.size := Parser.last_lt_size
  rw [List.size_toArray] at hsize
  rw [hname, hextent, Parser.spelled_eq_dropBlanks h.tiles hlt (by omega)]
  rfl

end ThreadLint
