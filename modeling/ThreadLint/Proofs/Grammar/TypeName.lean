import ThreadLint.Grammar.TypeName
import ThreadLint.Proofs.Grammar.Placed

/-!
This module contains what the parsers for types ensure: the extent of a type is the one of the
tokens that it is made of.
-/

namespace ThreadLint.Parser

variable {tokens : Array Token} [Lawful tokens] {cursor : Nat}

/--
Whether the token in front of an index may end a type, unless the text ends at the index.
-/
def EndsType (tokens : Array Token) (stop : Nat) : Prop :=
  stop = last tokens ∨ endsHead (tokenAt tokens (stop - 1)) = true

/--
Whether a type is written from one token up to another.
-/
def IsType (tokens : Array Token) (first : Nat) (type : TypeUse) (stop : Nat) : Prop :=
  first < stop ∧ (type.extent = extentOf tokens first stop ∧ type.text = spelled tokens first stop) ∧
    EndsType tokens stop

omit [Lawful tokens] in
theorem endsType_of_isPunct {index : Nat} {texts : List String}
    (htexts : ∀ text ∈ texts, text ∈ [")", ">", "]", "?"])
    (h : (tokenAt tokens index).isPunct texts = true) : EndsType tokens (index + 1) := by
  obtain ⟨hkind, htext⟩ := Token.isPunct_iff.1 h
  have hends : (tokenAt tokens index).isPunct [")", ">", "]", "?"] = true :=
    Token.isPunct_iff.2 ⟨hkind, htexts _ htext⟩
  right
  simp [endsHead, hends]

omit [Lawful tokens] in
theorem endsType_of_name {index : Nat}
    (h : ((tokenAt tokens index).isIdentifier || isPredefinedType (tokenAt tokens index)) = true) :
    EndsType tokens (index + 1) := by
  right
  rw [Bool.or_eq_true] at h
  cases h with
  | inl h => simp [endsHead, h]
  | inr h => simp [endsHead, h]

theorem IsType.isDeclaredName {first stop : Nat} {type : TypeUse} (h : IsType tokens first type stop)
    (hname : (tokenAt tokens stop).isIdentifier = true) : IsDeclaredName tokens stop := by
  obtain ⟨hlt, _, hends⟩ := h
  obtain ⟨before, rfl⟩ : ∃ before, stop = before + 1 := ⟨stop - 1, by omega⟩
  obtain hlast | hhead := hends
  . have := lt_last_of_isIdentifier hname
    omega
  . exact .first hhead hname

omit [Lawful tokens] in
/-- A group ends with a bracket that may end a type, if a brace does not open it. -/
theorem endsType_of_matching? {opener closer : Nat} {texts : List String}
    (htexts : ∀ text ∈ texts, text = "(" ∨ text = "[")
    (hopener : (tokenAt tokens opener).isPunct texts = true)
    (h : Token.matching? tokens opener = some closer) : EndsType tokens (closer + 1) := by
  obtain ⟨_, hlt, hcloser, htext, hisCloser, _⟩ := Token.matching?_eq_some h
  rw [← tokenAt_eq_getElem hlt, ← tokenAt_eq_getElem hcloser] at htext
  rw [← tokenAt_eq_getElem hcloser] at hisCloser
  obtain ⟨hkind, hmem⟩ := Token.isPunct_iff.1 hopener
  have hcases : (tokenAt tokens closer).text ∈ [")", "]"] := by
    rw [Token.closer?, if_pos (by simp [hkind])] at htext
    obtain heq | heq := htexts _ hmem
    . rw [heq] at htext
      have : some ")" = some (tokenAt tokens closer).text := htext
      simp [← Option.some.inj this]
    . rw [heq] at htext
      have : some "]" = some (tokenAt tokens closer).text := htext
      simp [← Option.some.inj this]
  have hpunct : (tokenAt tokens closer).isPunct [")", "]"] = true :=
    Token.isPunct_iff.2 ⟨(Token.isPunct_iff.1 hisCloser).1, hcases⟩
  exact endsType_of_isPunct (by simp) hpunct

theorem skipGroup_endsType {texts : List String} (htexts : ∀ text ∈ texts, text = "(" ∨ text = "[")
    (hopener : (tokenAt tokens cursor).isPunct texts = true) :
    Ensures tokens skipGroup cursor fun _ next => cursor < next ∧ EndsType tokens next := by
  have hisOpener : (tokenAt tokens cursor).isOpener = true := by
    refine Token.isOpener_of_isPunct ?_ hopener
    intro text htext
    obtain rfl | rfl := htexts text htext
    . decide
    . decide
  apply ((Ensures.skipGroup hisOpener).and_of_eq_ok _).mono
  . intro _ _ _ _ h
    exact h
  . intro _ next heq
    rw [skipGroup_eq hisOpener] at heq
    cases hmatching : Token.matching? tokens cursor with
    | none =>
      rw [hmatching] at heq
      cases heq
      exact .inl rfl
    | some closer =>
      rw [hmatching] at heq
      cases heq
      exact endsType_of_matching? htexts hopener hmatching

theorem typeArgumentList_ensures {type : Parser TypeUse} (hcursor : Single tokens cursor)
    (htype : ∀ first, cursor < first → first ≤ last tokens →
      Ensures tokens type first (IsType tokens first)) :
    Ensures tokens (typeArgumentList type) cursor fun _ next =>
      cursor < next ∧ EndsType tokens next := by
  unfold typeArgumentList
  apply Ensures.advance hcursor
  apply Ensures.bind (Q := fun _ _ => True)
  . apply loop_ensures (fun _ _ => True) hcursor.lt trivial
    intro found first hle hlast _
    apply Ensures.atPunct
    extract_lets tail
    have htail : ∀ found next, first ≤ next → next ≤ last tokens →
        Ensures tokens (tail found) next (Progress.Holds first (fun _ _ => True) fun _ _ => True) := by
      intro found next hnext hlast
      apply (Ensures.accept hlast "," (by simp)).bind
      rintro _ _ _ hlast (⟨rfl, hlt, rfl⟩ | ⟨rfl, rfl⟩)
      . exact .pure hlast ⟨by omega, trivial⟩
      . exact .pure hlast trivial
    clear_value tail
    apply Ensures.ite
    . intro _
      exact htail _ _ (Nat.le_refl _) hlast
    . intro _
      apply (htype first hle hlast).bind
      intro argument next hnext hlast _
      exact htail _ _ hnext hlast
  . intro _ next hle _ _
    apply Ensures.require (by simp)
    intro hclose hlt
    exact .pure hlt ⟨by omega, endsType_of_isPunct (by simp) hclose⟩

theorem skipTypeArguments_ensures {type : Parser TypeUse} (hcursor : cursor ≤ last tokens)
    (hends : EndsType tokens cursor)
    (htype : ∀ first, cursor < first → first ≤ last tokens →
      Ensures tokens type first (IsType tokens first)) :
    Ensures tokens (skipTypeArguments type) cursor fun _ next => EndsType tokens next := by
  unfold skipTypeArguments
  apply Ensures.atPunct
  apply Ensures.ite
  . intro h
    apply (typeArgumentList_ensures (.of_isPunct (by simp) h) htype).bind
    intro _ next _ hlast hnext
    exact .pure hlast hnext.2
  . intro _
    exact .pure hcursor hends

theorem typeWith_ensures {inner : Parser TypeUse} {nullable arrays : Bool}
    (hinner : ∀ first, cursor < first → first ≤ last tokens →
      Ensures tokens inner first (IsType tokens first)) :
    Ensures tokens (typeWith inner nullable arrays) cursor (IsType tokens cursor) := by
  unfold typeWith
  apply Ensures.here
  apply Ensures.current
  extract_lets tail
  -- what may stand behind the first tokens of a type
  have htail : ∀ next, cursor < next → next ≤ last tokens → EndsType tokens next →
      Ensures tokens (tail ()) next (IsType tokens cursor) := by
    intro next hlt hlast hends
    unfold tail
    apply Ensures.bind (Q := fun _ stop => EndsType tokens stop)
    . apply loop_ensures (fun _ stop => EndsType tokens stop) hlast hends
      intro _ first _ hlast hends
      apply Ensures.atPunct
      apply Ensures.ite
      . intro h
        rw [Bool.and_eq_true] at h
        have hsingle := Single.of_isPunct (by simp) h.2
        apply Ensures.advance hsingle
        exact .pure hsingle.lt ⟨Nat.lt_succ_self _, endsType_of_isPunct (by simp) h.2⟩
      . intro _
        apply Ensures.atPunct
        apply Ensures.peek
        apply Ensures.ite
        . intro h
          rw [Bool.and_eq_true, Bool.and_eq_true] at h
          apply (skipGroup_endsType (by simp) h.1.2).bind
          intro _ next _ hlast hnext
          exact .pure hlast hnext
        . intro _
          exact .pure hlast hends
    . intro _ stop _ hlast hends
      apply Ensures.here
      apply Ensures.spelling
      apply Ensures.lastStop
      apply Ensures.pure hlast
      rw [if_neg (by omega)]
      exact ⟨by omega, ⟨rfl, rfl⟩, hends⟩
  clear_value tail
  apply Ensures.ite
  . intro hgroup
    apply Ensures.closing? (Token.isOpener_of_isPunct (by decide) hgroup)
    split
    . next closer hclosing =>
      have := matching?_bounds hclosing
      apply Ensures.seek (by omega) (by omega) (.group hclosing)
      apply htail
      . omega
      . omega
      . exact endsType_of_matching? (by simp) hgroup hclosing
    . apply Ensures.mismatch_bind
  . intro _
    apply Ensures.ite
    . intro h
      have hsingle : Single tokens cursor := by
        rw [Bool.or_eq_true] at h
        cases h with
        | inl h => exact .of_isIdentifier h
        | inr h => exact .of_isKeyword h
      have hinner' : ∀ lo, cursor ≤ lo → ∀ first, lo < first → first ≤ last tokens →
          Ensures tokens inner first (IsType tokens first) := by
        intro lo hlo first hfirst
        exact hinner first (by omega)
      apply Ensures.advance hsingle
      apply (skipTypeArguments_ensures hsingle.lt (endsType_of_name h) (hinner' _ (by omega))).bind
      intro _ next hnext hlast hends
      apply Ensures.bind (Q := fun _ stop => EndsType tokens stop)
      . apply loop_ensures (fun _ stop => EndsType tokens stop) hlast hends
        intro _ first hfirst hlast hends
        apply Ensures.atPunct
        apply Ensures.peek
        apply Ensures.ite
        . intro h
          rw [Bool.and_eq_true] at h
          have hname := Single.of_isIdentifier h.2
          apply Ensures.advance (.of_isPunct (by simp) h.1)
          apply Ensures.advance hname
          have hends : EndsType tokens (first + 1 + 1) := endsType_of_name (by simp [h.2])
          apply (skipTypeArguments_ensures hname.lt hends (hinner' _ (by omega))).bind
          intro _ _ _ hlast hends
          exact .pure hlast ⟨by omega, hends⟩
        . intro _
          exact .pure hlast hends
      . intro _ _ _ hlast hends
        apply htail
        . omega
        . exact hlast
        . exact hends
    . intro _
      apply Ensures.mismatch_bind

theorem typeAtDepth_ensures {depth : Nat} {nullable arrays : Bool} (hcursor : cursor ≤ last tokens)
    (hdepth : last tokens < cursor + depth) :
    Ensures tokens (typeAtDepth depth nullable arrays) cursor (IsType tokens cursor) := by
  induction depth generalizing cursor nullable arrays with
  | zero => omega
  | succ depth ih =>
    apply typeWith_ensures
    intro first hfirst hlast
    apply ih hlast
    omega

theorem typeUse_ensures {nullable arrays : Bool} (hcursor : cursor ≤ last tokens) :
    Ensures tokens (typeUse nullable arrays) cursor (IsType tokens cursor) := by
  have hdepth : last tokens < cursor + (tokens.size - cursor + 1) := by
    unfold last at *
    omega
  exact typeAtDepth_ensures hcursor hdepth

/-- A type begins with a name or a parenthesis. -/
theorem name_or_group_of_typeUse {nullable arrays : Bool} {type : TypeUse} {next : Nat}
    (hcursor : cursor ≤ last tokens)
    (h : typeUse nullable arrays tokens cursor = .ok (type, next)) :
    (tokenAt tokens cursor).isPunct ["("] = true ∨
      ((tokenAt tokens cursor).isIdentifier || isPredefinedType (tokenAt tokens cursor)) = true := by
  apply Decidable.by_contra
  intro hother
  rw [not_or] at hother
  unfold typeUse typeAtDepth typeWith at h
  rw [bind_eq_of_eq_ok (show here tokens cursor = .ok (cursor, cursor) from rfl),
    bind_eq_of_eq_ok (current_eq hcursor), if_neg hother.1, if_neg hother.2] at h
  cases h

theorem begins_of_typeUse {nullable arrays : Bool} {type : TypeUse} {next : Nat}
    (hcursor : cursor ≤ last tokens)
    (h : typeUse nullable arrays tokens cursor = .ok (type, next)) :
    Begins (tokenAt tokens cursor) = true := by
  cases name_or_group_of_typeUse hcursor h with
  | inl hgroup => exact begins_of_isPunct (by simp) hgroup
  | inr hname =>
    have htypes : ∀ text ∈ predefinedTypes, text ∉ noOperand := by decide
    rw [Bool.or_eq_true] at hname
    cases hname with
    | inl h => exact begins_of_isIdentifier h
    | inr h => exact begins_of_isKeyword htypes h

/-! ### Types that are words -/

omit [Lawful tokens] in
/-- Only what is white space in a token is left out of a spelling. -/
theorem mem_spelled {first stop : Nat} {token : Token} {c : Char}
    (hmem : token ∈ (tokens.extract first stop).toList) (hc : c ∈ token.text.toList)
    (hblank : Text.isBlank c = false) : c ∈ (spelled tokens first stop).toList := by
  unfold spelled Text.dropBlanks
  rw [String.toList_ofList, List.mem_filter]
  refine ⟨?_, by simp [hblank]⟩
  generalize (tokens.extract first stop).toList = taken at hmem
  cases hmem with
  | head rest => simp [hc]
  | tail front hmem =>
    simp only [String.toList_append, List.mem_append, String.toList_join, List.mem_flatMap,
      List.mem_map]
    exact .inr ⟨_, ⟨token, hmem, rfl⟩, by simp [hc]⟩

omit [Lawful tokens] in
theorem not_isPunct_of_isWord {first stop index : Nat} {texts : List String}
    (hword : Token.IsWord (spelled tokens first stop))
    (htexts : texts.all (fun text => text.toList.any fun c =>
      !Text.isBlank c && !Token.continuesWord c) = true)
    (hbounds : first ≤ index ∧ index < stop ∧ index < tokens.size) :
    (tokenAt tokens index).isPunct texts = false := by
  rw [Bool.eq_false_iff]
  intro h
  have hmem : tokenAt tokens index ∈ (tokens.extract first stop).toList := by
    rw [tokenAt_eq_getElem hbounds.2.2, Array.mem_toList_iff, Array.mem_extract_iff_getElem]
    refine ⟨index - first, by omega, ?_⟩
    simp only [Nat.add_sub_cancel' hbounds.1]
  have hany := List.all_eq_true.1 htexts _ (Token.isPunct_iff.1 h).2
  obtain ⟨c, hc, hother⟩ := List.any_eq_true.1 hany
  rw [Bool.and_eq_true, Bool.not_eq_true', Bool.not_eq_true'] at hother
  have := hword.continues (mem_spelled hmem hc hother.1)
  rw [hother.2] at this
  cases this

/-- A type that does not begin with a parenthesis goes on with a mark, if at all. -/
theorem typeWith_ensures_succ {inner : Parser TypeUse} {nullable arrays : Bool}
    (hgroup : (tokenAt tokens cursor).isPunct ["("] = false)
    (hbehind : (tokenAt tokens (cursor + 1)).isPunct ["<", ".", "::", "?", "["] = false) :
    Ensures tokens (typeWith inner nullable arrays) cursor fun _ next => next = cursor + 1 := by
  have hpunct {texts : List String} (htexts : ∀ text ∈ texts, text ∈ ["<", ".", "::", "?", "["]) :
      (tokenAt tokens (cursor + 1)).isPunct texts = false := by
    rw [Bool.eq_false_iff] at hbehind ⊢
    intro h
    obtain ⟨hkind, htext⟩ := Token.isPunct_iff.1 h
    exact hbehind (Token.isPunct_iff.2 ⟨hkind, htexts _ htext⟩)
  unfold typeWith
  apply Ensures.here
  apply Ensures.current
  extract_lets tail
  have htail : cursor + 1 ≤ last tokens →
      Ensures tokens (tail ()) (cursor + 1) fun _ next => next = cursor + 1 := by
    intro hlast
    unfold tail
    apply Ensures.bind (Q := fun _ next => next = cursor + 1)
    . apply loop_ensures (fun _ next => next = cursor + 1) hlast rfl
      rintro _ first _ hlast rfl
      apply Ensures.atPunct
      rw [hpunct (by simp), Bool.and_false, if_neg Bool.false_ne_true]
      apply Ensures.atPunct
      apply Ensures.peek
      rw [hpunct (by simp), Bool.and_false, Bool.false_and, if_neg Bool.false_ne_true]
      exact .pure hlast rfl
    . rintro _ _ _ hlast rfl
      apply Ensures.here
      apply Ensures.spelling
      apply Ensures.lastStop
      exact .pure hlast rfl
  clear_value tail
  rw [if_neg (by rw [hgroup]; exact Bool.false_ne_true)]
  apply Ensures.ite
  . intro h
    have hsingle : Single tokens cursor := by
      rw [Bool.or_eq_true] at h
      cases h with
      | inl h => exact .of_isIdentifier h
      | inr h => exact .of_isKeyword h
    have hlast := hsingle.lt
    apply Ensures.advance hsingle
    apply Ensures.bind (Q := fun _ next => next = cursor + 1)
    . unfold skipTypeArguments
      apply Ensures.atPunct
      rw [hpunct (by simp), if_neg Bool.false_ne_true]
      exact .pure hlast rfl
    . rintro _ _ _ hlast rfl
      apply Ensures.bind (Q := fun _ next => next = cursor + 1)
      . apply loop_ensures (fun _ next => next = cursor + 1) hlast rfl
        rintro _ first _ hlast rfl
        apply Ensures.atPunct
        apply Ensures.peek
        rw [hpunct (by simp), Bool.false_and, if_neg Bool.false_ne_true]
        exact .pure hlast rfl
      . rintro _ _ _ hlast rfl
        exact htail hlast
  . intro _
    apply Ensures.mismatch_bind

/-- A type that is a word is a token. -/
theorem mentions_of_typeUse {nullable arrays : Bool} {type : TypeUse} {next : Nat}
    (hcursor : cursor ≤ last tokens)
    (h : typeUse nullable arrays tokens cursor = .ok (type, next)) :
    Mentions tokens cursor type.text .typeTest := by
  intro hword
  obtain ⟨_, hlast, _, hlt, ⟨_, htext⟩, _⟩ := (typeUse_ensures hcursor).of_eq_ok hcursor h
  have hsize : last tokens < tokens.size := last_lt_size
  rw [htext] at hword ⊢
  have hgroup : (tokenAt tokens cursor).isPunct ["("] = false :=
    not_isPunct_of_isWord hword (by decide) (by omega)
  refine ⟨?_, (name_or_group_of_typeUse hcursor h).resolve_left (by simp [hgroup])⟩
  have hnext : next = cursor + 1 := by
    by_cases hone : next = cursor + 1
    . exact hone
    . have hbehind : (tokenAt tokens (cursor + 1)).isPunct ["<", ".", "::", "?", "["] = false :=
        not_isPunct_of_isWord hword (by decide) (by omega)
      have hsucc : Ensures tokens
          (typeWith (typeAtDepth (tokens.size - cursor) true true) nullable arrays) cursor
            fun _ next => next = cursor + 1 :=
        typeWith_ensures_succ hgroup hbehind
      exact (hsucc.of_eq_ok hcursor h).2.2.2
  have hindex : cursor < tokens.size := by omega
  have htaken : (tokens.extract cursor next).toList = [tokenAt tokens cursor] := by
    rw [hnext, tokenAt_eq_getElem hindex]
    apply List.ext_getElem
    . simp
      omega
    . intro index h h'
      rw [List.length_singleton, Nat.lt_one_iff] at h'
      simp [h']
  rw [spelled, htaken]
  simp

theorem anyType_ensures (hcursor : cursor ≤ last tokens) :
    Ensures tokens anyType cursor (IsType tokens cursor) :=
  typeUse_ensures hcursor

theorem typeArguments?_ensures (hcursor : cursor ≤ last tokens) :
    Ensures tokens typeArguments? cursor fun _ next =>
      next = cursor ∨ (tokenAt tokens cursor).isPunct ["<"] = true := by
  unfold typeArguments?
  apply Ensures.atPunct
  apply Ensures.ite
  . intro h
    apply Ensures.mono
    . apply Ensures.attempt (Q := fun _ _ => True) hcursor
      apply (typeArgumentList_ensures (.of_isPunct (by simp) h)
        (fun first _ hlast => anyType_ensures hlast)).bind
      intro _ _ _ hlast _
      apply Ensures.current
      apply Ensures.ite
      . intro _
        exact .pure hlast trivial
      . intro _
        apply Ensures.mismatch
    . intros
      exact .inr h
  . intro _
    exact .pure hcursor (.inl rfl)

end ThreadLint.Parser
