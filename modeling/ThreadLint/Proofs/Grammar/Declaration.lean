import ThreadLint.Grammar.Declaration
import ThreadLint.Proofs.Grammar.Statement

/-!
This module contains what the parsers for declarations ensure: a member is made of all tokens from
its first attribute or modifier up to the cursor.
-/

namespace ThreadLint.Parser

variable {tokens : Array Token} [Lawful tokens] {cursor first : Nat} {g : Grammar}

theorem usingDirective_ensures (hfirst : first ≤ cursor) (hcursor : Single tokens cursor) :
    Ensures tokens (usingDirective first) cursor fun node next => Whole tokens first next node := by
  unfold usingDirective
  apply Ensures.advance hcursor
  apply Ensures.atKeyword
  extract_lets -underBinder tail
  have htail : ∀ next, cursor < next → next ≤ last tokens →
      Ensures tokens (tail ()) next fun node stop => Whole tokens first stop node := by
    intro next hnext hlast
    apply Ensures.current
    apply Ensures.peek
    extract_lets -underBinder behind
    have hbehind : ∀ alias? start, next ≤ start → start ≤ last tokens →
        Ensures tokens (behind alias?) start fun node stop => Whole tokens first stop node := by
      intro alias? start hstart hlast
      apply (anyType_ensures hlast).bind
      intro name stop hstop hlast _
      apply (Ensures.expect hlast ";" (by simp)).bind
      intro _ close hclose hlast _
      exact node_whole trivial (laid_nil (Nat.le_refl cursor)) (by omega)
    clear_value behind
    apply Ensures.ite
    . intro h
      rw [Bool.and_eq_true] at h
      have hsecond := Single.of_isPunct (by simp) h.2
      apply Ensures.advance (.of_isIdentifier h.1)
      apply Ensures.advance hsecond
      exact hbehind _ _ (by omega) hsecond.lt
    . intro _
      exact hbehind none next (Nat.le_refl _) hlast
  clear_value tail
  apply Ensures.ite
  . intro h
    have hsingle := Single.of_isKeyword h
    have hlt := hsingle.lt
    apply Ensures.advance hsingle
    exact htail _ (by omega) hlt
  . intro _
    exact htail _ (Nat.lt_succ_self _) hcursor.lt

theorem namespaceDeclaration_ensures (hg : g.Sound tokens (cursor + 1)) (hfirst : first ≤ cursor)
    (hcursor : Single tokens cursor) :
    Ensures tokens (namespaceDeclaration g first) cursor fun node next =>
      Whole tokens first next node := by
  unfold namespaceDeclaration
  apply Ensures.advance hcursor
  apply (typeUse_ensures hcursor.lt).bind
  intro name next hnext hlast _
  apply (Ensures.accept hlast ";" (by simp)).bind
  rintro _ _ _ hlast (⟨rfl, _, rfl⟩ | ⟨rfl, rfl⟩)
  . apply (hg.members _ none (by omega) hlast).bind
    intro members stop hstop hlast hmembers
    exact node_whole trivial hmembers.1 (by omega)
  . apply Ensures.require_braces
    . intro _ hlt
      exact hg.members _ none (by omega) hlt
    . intro _ members stop close hstop hclose hlast hmembers _
      exact node_whole trivial hmembers.1 (by omega)

theorem baseList.commaListOf_ensures {item : Parser (String × Extent)}
    (hcursor : cursor ≤ last tokens)
    (hitem : ∀ index, cursor ≤ index → index ≤ last tokens →
      Ensures tokens item index fun base next => Written tokens index next base) :
    Ensures tokens (baseList.commaListOf item) cursor fun bases next =>
      ∀ base ∈ bases, Written tokens cursor next base := by
  apply loop_ensures (fun (found : List (String × Extent)) next =>
    ∀ base ∈ found, Written tokens cursor next base) hcursor
  . simp
  . intro found index hindex hlast hfound
    apply (hitem index hindex hlast).bind
    intro base next hnext hlast hbase
    have hall : ∀ stop, next ≤ stop →
        ∀ other ∈ base :: found, Written tokens cursor stop other := by
      intro stop hstop other hother
      cases hother with
      | head => exact hbase.mono (by omega)
      | tail _ hother => exact ((hfound other hother).mono (by omega))
    obtain ⟨_, _, _, _, _, _⟩ := hbase
    apply (Ensures.accept hlast "," (by simp)).bind
    rintro _ _ _ hlast (⟨rfl, _, rfl⟩ | ⟨rfl, rfl⟩)
    . exact .pure hlast ⟨by omega, hall _ (Nat.le_succ _)⟩
    . refine .pure hlast ?_
      intro other hother
      exact hall _ (Nat.le_refl _) other (List.mem_reverse.1 hother)

theorem baseList_ensures (hcursor : cursor ≤ last tokens) :
    Ensures tokens baseList cursor fun bases next =>
      ∀ base ∈ bases, Written tokens cursor next base := by
  unfold baseList
  apply (Ensures.accept hcursor ":" (by simp)).bind
  rintro _ _ hle hlast (⟨rfl, _, rfl⟩ | ⟨rfl, rfl⟩)
  . refine .mono (baseList.commaListOf_ensures hlast ?_) ?_
    . intro index _ hlast
      apply (typeUse_ensures hlast).bind
      intro base next hnext hlast hbase
      apply (skipParentheses_ensures hlast).bind
      intro _ stop hstop hlast _
      exact .pure hlast ⟨index, next, Nat.le_refl _, hbase.1, hstop, hbase.2.1⟩
    . intro bases next _ _ hbases base hbase
      exact ((hbases base hbase).mono (by omega))
  . refine .pure hlast ?_
    simp

theorem typeMembers_ensures {keyword name : String} (hg : g.Sound tokens (cursor + 1))
    (hcursor : cursor ≤ last tokens) :
    Ensures tokens (typeMembers g keyword name) cursor fun nodes next =>
      Laid tokens cursor next nodes := by
  unfold typeMembers
  apply Ensures.ite
  . intro _
    apply Ensures.atPunct
    apply Ensures.ite
    . intro h
      apply (Ensures.skipGroup (Token.isOpener_of_isPunct (by decide) h)).bind
      intro _ next hnext hlast _
      exact .pure hlast (laid_nil (by omega))
    . intro _
      exact .pure hcursor (laid_nil (by omega))
  . intro _
    cases hopener : (tokenAt tokens cursor).isPunct ["\x7b"] with
    | true =>
      have hlt := lt_last_of_isPunct hopener
      refine .braces hopener (fun _ => bind_eq_of_eq_ok (accept_eq hopener))
        (hg.members _ (some name) (Nat.le_refl _) hlt) ?_
      intro members stop close hstop hclose hlast hmembers _
      exact .pure hlast (hmembers.1.mono (by omega))
    | false =>
      apply Ensures.look (fun hcursor => accept_eq_of_not hcursor hopener)
      apply (Ensures.expect hcursor ";" (by simp)).bind
      intro _ close hclose hlast _
      exact .pure hlast (laid_nil (by omega))

theorem typeDeclaration_ensures {attributes : List Node} {modifiers : List String}
    (hg : g.Sound tokens (cursor + 1)) (hcursor : Single tokens cursor)
    (hhead : endsHead (tokenAt tokens cursor) = true)
    (hattributes : Laid tokens first cursor attributes) :
    Ensures tokens (typeDeclaration g first attributes modifiers) cursor fun node next =>
      Whole tokens first next node := by
  have hfirst := hattributes.le
  have hlt := hcursor.lt
  unfold typeDeclaration
  apply Ensures.advance hcursor
  apply Ensures.atKeyword
  extract_lets -underBinder tail
  have htail : ∀ before, cursor ≤ before → endsHead (tokenAt tokens before) = true →
      Ensures tokens (tail ()) (before + 1) fun node stop => Whole tokens first stop node := by
    intro before hbefore hhead
    apply Ensures.identifier
    intro hname hlt
    apply (skipTypeParameters_ensures hlt fun _ => ⟨before + 1, rfl, .first hhead hname⟩).bind
    intro _ next hnext hlast _
    apply Ensures.atPunct
    extract_lets -underBinder behind
    have hbehind : ∀ start, next ≤ start → start ≤ last tokens →
        Ensures tokens (behind ()) start fun node stop => Whole tokens first stop node := by
      intro start hstart hlast
      apply (baseList_ensures hlast).bind
      intro bases opener hopener hlast hbases
      apply (skipConstraints_ensures hlast).bind
      intro _ body hbody hlast _
      apply (typeMembers_ensures (hg.mono (by omega)) hlast).bind
      intro members stop hstop hlast hmembers
      apply (Ensures.accept hlast ";" (by simp)).bind
      intro _ close hclose hlast _
      have hchildren := hattributes.append hmembers (by omega)
      apply node_whole _ hchildren (by omega)
      refine ⟨⟨before + 1, by omega, by omega, hname, rfl, rfl⟩, ?_⟩
      intro base hbase
      obtain ⟨lo, hi, hlo, hlt, hhi, heq⟩ := hbases base hbase
      refine ⟨⟨lo, hi, by omega, hlt, by omega, heq⟩, ?_⟩
      rw [heq.1]
      exact (hattributes.clear_of_le (by omega) (by omega)).append
        (hmembers.clear_of_lt hlt (by omega) (by omega))
    clear_value behind
    apply Ensures.ite
    . intro h
      apply (parameterList_ensures (hg.mono (by omega)) (.of_isPunct (by simp) h) (by simp)).bind
      intro _ start hstart hlast _
      exact hbehind start hstart hlast
    . intro _
      exact hbehind next (Nat.le_refl _) hlast
  clear_value tail
  apply Ensures.ite
  . intro h
    rw [Bool.and_eq_true] at h
    apply Ensures.advance (.of_isKeyword h.2)
    exact htail _ (Nat.le_succ _) (endsHead_of_isKeyword (by decide) h.2)
  . intro _
    exact htail _ (Nat.le_refl _) hhead

/--
What the reader of accessors takes at a time: an accessor with its attributes and modifiers.
-/
def accessor (g : Grammar) : Parser (List Node) := do
  let _ ← attributeLists g
  let _ ← manyWhile
    (·.isKeyword ["private", "protected", "internal", "public", "readonly"]) advance
  if ← atWord ["get", "set", "init", "add", "remove"] then
    let _ ← advance
    return (← body g).toList
  else mismatch

theorem accessors_eq (g : Grammar) :
    accessors g = do
      let _ ← require ["\x7b"]
      let bodies ← manyWhile (isBefore "\x7d") (accessor g)
      let _ ← expect "\x7d"
      return bodies.flatten :=
  rfl

theorem accessor_ensures (hg : g.Sound tokens (cursor + 1)) (hcursor : cursor ≤ last tokens) :
    Ensures tokens (accessor g) cursor fun nodes next =>
      cursor < next ∧ Laid tokens cursor next nodes := by
  apply (attributeLists_ensures hg hcursor).bind
  intro _ next hnext hlast _
  apply (skipKeywords_ensures hlast).bind
  intro _ start hstart hlast _
  apply Ensures.atWord
  apply Ensures.ite
  . intro h
    have hsingle := Single.of_isWord h
    apply Ensures.advance hsingle
    apply (body_ensures (hg.mono (by omega)) hsingle.lt).bind
    intro body stop hstop hlast hbody
    exact .pure hlast ⟨by omega, hbody.mono (by omega)⟩
  . intro _
    apply Ensures.mismatch

theorem accessors_ensures (hg : g.Sound tokens (cursor + 1)) :
    Ensures tokens (accessors g) cursor fun nodes next => Laid tokens cursor next nodes := by
  rw [accessors_eq]
  apply Ensures.require_braces
  . intro _ hlt
    refine manyWhile_ensures (Laid tokens) hlt ?_
    intro index hindex hlast _
    exact accessor_ensures (hg.mono (by omega)) hlast
  . intro _ bodies next close hnext hclose hlast hbodies _
    exact .pure hlast ((Laid.flatten hbodies.1).mono (by omega))

theorem property_ensures {attributes : List Node} {form : Form}
    (hg : g.Sound tokens (cursor + 1)) (hcursor : cursor ≤ last tokens) (hfirst : first < cursor)
    (hattributes : Laid tokens first cursor attributes)
    (hfits : ∀ stop children, Fits tokens first stop children form) :
    Ensures tokens (property g first attributes form) cursor fun node next =>
      Whole tokens first next node := by
  unfold property
  apply Ensures.atPunct
  extract_lets -underBinder tail
  have htail : ∀ next, cursor ≤ next → next ≤ last tokens →
      Ensures tokens (tail ()) next fun node stop => Whole tokens first stop node := by
    intro next hnext hlast
    apply (Ensures.accept hlast "=>" (by simp)).bind
    intro found start hstart hlast hfound
    extract_lets -underBinder behind
    have hbehind : ∀ parts stop, start ≤ stop → stop ≤ last tokens → Laid tokens start stop parts →
        Ensures tokens (behind parts) stop fun node stop => Whole tokens first stop node := by
      intro parts stop hstop hlast hparts
      exact node_whole (hfits _ _) (hattributes.append hparts (by omega)) (by omega)
    clear_value behind
    apply Ensures.ite
    . intro h
      have : next < start := by
        obtain ⟨_, _, hstart⟩ | ⟨hnot, _⟩ := hfound
        . omega
        . simp [hnot] at h
      apply (hg.expression start (by omega) hlast).bind
      intro value stop hstop hlast hvalue
      apply (Ensures.expect hlast ";" (by simp)).bind
      intro _ close hclose hlast _
      exact hbehind [value] close (by omega) hlast (hvalue.laid.mono (by omega))
    . intro _
      apply (accessors_ensures (hg.mono (by omega))).bind
      intro bodies stop hstop hlast hbodies
      apply (Ensures.accept hlast "=" (by simp)).bind
      intro found opener hopener hlast hfound
      extract_lets -underBinder made
      have hmade : ∀ initial close, opener ≤ close → close ≤ last tokens →
          Laid tokens opener close initial →
          Ensures tokens (made initial) close fun node stop => Whole tokens first stop node := by
        intro initial close hclose hlast hinitial
        exact hbehind _ close (by omega) hlast (hbodies.append hinitial (by omega))
      clear_value made
      apply Ensures.ite
      . intro h
        have : stop < opener := by
          obtain ⟨_, _, hopener⟩ | ⟨hnot, _⟩ := hfound
          . omega
          . simp [hnot] at h
        apply (initialValue_ensures (hg.mono (by omega)) hlast).bind
        intro value close hclose hlast hvalue
        apply (Ensures.expect hlast ";" (by simp)).bind
        intro _ behind hbehind hlast _
        exact hmade [value] behind (by omega) hlast (hvalue.laid.mono (by omega))
      . intro _
        exact hmade [] opener (Nat.le_refl _) hlast (laid_nil (by omega))
  clear_value tail
  apply Ensures.ite
  . intro h
    apply (parameterList_ensures (hg.mono (by omega)) (.of_isPunct (by simp) h) (by simp)).bind
    intro _ next hnext hlast _
    exact htail next hnext hlast
  . intro _
    exact htail cursor (Nat.le_refl _) hcursor

theorem field_ensures {attributes : List Node} {form : Form} {nameIndex : Nat}
    (hg : g.Sound tokens (cursor + 1)) (hcursor : cursor ≤ last tokens)
    (hindex : nameIndex < cursor) (hname : (tokenAt tokens nameIndex).isIdentifier = true)
    (hattributes : Laid tokens first nameIndex attributes)
    (hfits : ∀ stop children, Fits tokens first stop children form) :
    Ensures tokens (field g first attributes form nameIndex) cursor fun node next =>
      Whole tokens first next node := by
  have := hattributes.le
  unfold field
  apply (declarators_ensures hg hcursor hindex hname).bind
  rintro declared next hnext hlast ⟨hdeclared, _⟩
  apply (Ensures.expect hlast ";" (by simp)).bind
  intro _ close hclose hlast _
  have hchildren := hattributes.append hdeclared (by omega)
  exact node_whole (hfits _ _) hchildren (by omega)

theorem event_ensures {attributes : List Node} {modifiers : List String}
    (hg : g.Sound tokens (cursor + 1)) (hcursor : Single tokens cursor)
    (hattributes : Laid tokens first cursor attributes) :
    Ensures tokens (event g first attributes modifiers) cursor fun node next =>
      Whole tokens first next node := by
  have := hattributes.le
  unfold event
  apply Ensures.advance hcursor
  apply (anyType_ensures hcursor.lt).bind
  intro type next hnext hlast _
  apply Ensures.here
  apply Ensures.identifier
  intro hname hlt
  apply Ensures.atPunct
  apply Ensures.ite
  . intro _
    exact property_ensures (hg.mono (by omega)) hlt (by omega)
      (hattributes.mono (by omega)) fun _ _ => trivial
  . intro _
    exact field_ensures (hg.mono (by omega)) hlt (Nat.lt_succ_self _) hname
      (hattributes.mono (by omega)) fun _ _ => trivial

theorem lastNameIndex_ensures {nameIndex : Nat} (hcursor : nameIndex + 1 ≤ last tokens)
    (hname : IsDeclaredName tokens nameIndex) :
    Ensures tokens (lastNameIndex nameIndex) (nameIndex + 1) fun index next =>
      nameIndex ≤ index ∧ next = index + 1 ∧ IsDeclaredName tokens index := by
  apply loop_ensures (fun index next =>
    nameIndex ≤ index ∧ next = index + 1 ∧ IsDeclaredName tokens index) hcursor
  . exact ⟨Nat.le_refl _, rfl, hname⟩
  . rintro index _ _ hlast ⟨hle, rfl, hname⟩
    apply Ensures.atPunct
    apply Ensures.peek
    apply Ensures.ite
    . intro h
      rw [Bool.and_eq_true] at h
      have hsecond := Single.of_isIdentifier h.2
      apply Ensures.advance (.of_isPunct (by simp) h.1)
      apply Ensures.advance hsecond
      apply Ensures.here
      exact .pure hsecond.lt ⟨by omega, by omega, rfl, .segment hname h.1 h.2⟩
    . intro _
      exact .pure hlast ⟨hle, rfl, hname⟩

theorem typedMember_ensures {attributes : List Node} {modifiers : List String}
    (hg : g.Sound tokens (cursor + 1)) (hcursor : cursor ≤ last tokens)
    (hattributes : Laid tokens first cursor attributes) :
    Ensures tokens (typedMember g first attributes modifiers) cursor fun node next =>
      Whole tokens first next node := by
  have := hattributes.le
  unfold typedMember
  apply (anyType_ensures hcursor).bind
  intro type start hstart hlast htype
  have := htype.1
  apply Ensures.atKeyword
  apply Ensures.ite
  . intro _
    apply Ensures.mismatch
  . intro _
    apply Ensures.atKeyword
    apply Ensures.peek
    apply Ensures.ite
    . intro h
      rw [Bool.and_eq_true] at h
      have hsingle := Single.of_isKeyword h.1
      have hlt := hsingle.lt
      apply Ensures.advance hsingle
      exact property_ensures (hg.mono (by omega)) hlt (by omega)
        (hattributes.mono (by omega)) fun _ _ => trivial
    . intro _
      apply Ensures.here
      apply Ensures.identifier
      intro hname hlt
      apply (lastNameIndex_ensures hlt (htype.isDeclaredName hname)).bind
      rintro nameIndex _ hnext hlast ⟨hle, rfl, hdeclared⟩
      have hindex := Nat.lt_succ_self nameIndex
      have hname := hdeclared.isIdentifier
      apply Ensures.tokenNumber (by omega)
      apply Ensures.atPunct
      apply Ensures.ite
      . intro _
        apply method_ensures (hg.mono (by omega)) hlast (hattributes.mono (by omega))
          (fun _ => ⟨nameIndex, rfl, hdeclared⟩)
        refine ⟨nameIndex, by omega, hindex, ⟨hname, rfl, rfl⟩, ?_, ?_⟩
        . exact hattributes.clear_token_of_le (by omega) (by omega)
        . rintro _ ⟨⟩
          exact ⟨⟨cursor, start, by omega, htype.1, hle, htype.2.1⟩, rfl⟩
      . intro _
        apply Ensures.atPunct
        apply Ensures.ite
        . intro _
          exact property_ensures (hg.mono (by omega)) hlast (by omega)
            (hattributes.mono (by omega)) fun _ _ => trivial
        . intro _
          exact field_ensures (hg.mono (by omega)) hlast hindex hname
            (hattributes.mono (by omega)) fun _ _ => trivial

theorem constructorDeclaration_ensures {attributes : List Node} {modifiers : List String}
    (hg : g.Sound tokens (cursor + 1))
    (hname : (tokenAt tokens cursor).isIdentifier = true)
    (hopener : (tokenAt tokens (cursor + 1)).isPunct ["("] = true)
    (hattributes : Laid tokens first cursor attributes) :
    Ensures tokens (constructorDeclaration g first attributes modifiers) cursor fun node next =>
      Whole tokens first next node := by
  have hsingle := Single.of_isIdentifier hname
  have hlt := hsingle.lt
  unfold constructorDeclaration
  apply Ensures.advance hsingle
  apply method_ensures (hg.mono (by omega)) hlt (hattributes.mono (by omega))
  . intro hangle
    rw [isPunct_eq_false_of_isPunct (by simp) hopener] at hangle
    cases hangle
  refine ⟨cursor, hattributes.le, Nat.lt_succ_self _, ⟨hname, rfl, rfl⟩, ?_, ?_⟩
  . exact hattributes.clear_token_of_le (Nat.le_refl _) (by omega)
  . rintro _ ⟨⟩

theorem declaration_ensures {owner : Option String} {attributes : List Node}
    {modifiers : List String} (hg : g.Sound tokens (cursor + 1)) (hcursor : cursor ≤ last tokens)
    (hattributes : Laid tokens first cursor attributes) :
    Ensures tokens (declaration g owner first attributes modifiers) cursor fun node next =>
      Whole tokens first next node := by
  unfold declaration
  apply Ensures.current
  apply Ensures.peek
  apply Ensures.ite
  . intro h
    obtain ⟨hsingle, hhead⟩ : Single tokens cursor ∧ endsHead (tokenAt tokens cursor) = true := by
      rw [Bool.or_eq_true, Bool.and_eq_true] at h
      cases h with
      | inl h => exact ⟨.of_isKeyword h, endsHead_of_isKeyword (by decide) h⟩
      | inr h => exact ⟨.of_isWord h.1, endsHead_of_isWord (by decide) h.1⟩
    exact typeDeclaration_ensures hg hsingle hhead hattributes
  . intro _
    apply Ensures.ite
    . intro _
      apply Ensures.mismatch
    . intro _
      apply Ensures.ite
      . intro h
        exact event_ensures hg (.of_isKeyword h) hattributes
      . intro _
        apply Ensures.ite
        . intro h
          rw [Bool.and_eq_true, Bool.and_eq_true] at h
          exact constructorDeclaration_ensures hg h.1.1 h.2 hattributes
        . intro _
          exact typedMember_ensures hg hcursor hattributes

/-! ### Members -/

omit [Lawful tokens] in
theorem some_whole {parser : Parser Node}
    (h : Ensures tokens parser cursor fun node next => Whole tokens first next node) :
    Ensures tokens (parser >>= fun node => pure (some node)) cursor fun result next =>
      first < next ∧ Laid tokens first next result.toList := by
  apply h.bind
  intro node next _ hlast hnode
  exact .pure hlast ⟨hnode.lt, hnode.inside.laid⟩

theorem member_ensures {owner : Option String} (hg : g.Sound tokens (cursor + 1))
    (hcursor : cursor ≤ last tokens) :
    Ensures tokens (member g owner) cursor fun result next =>
      cursor < next ∧ Laid tokens cursor next result.toList := by
  have hle := Nat.le_refl cursor
  unfold member
  apply Ensures.here
  apply Ensures.current
  apply Ensures.ite
  . intro h
    have hsingle := Single.of_isPunct (by simp) h
    apply Ensures.advance hsingle
    exact .pure hsingle.lt ⟨Nat.lt_succ_self _, laid_nil (Nat.le_succ _)⟩
  . intro _
    apply Ensures.ite
    . intro h
      rw [Bool.and_eq_true] at h
      exact some_whole (usingDirective_ensures hle (.of_isKeyword h.2))
    . intro _
      apply Ensures.peek
      apply Ensures.ite
      . intro h
        rw [Bool.and_eq_true, Bool.and_eq_true] at h
        apply Ensures.advance (.of_isWord h.1.2)
        exact some_whole (usingDirective_ensures (Nat.le_succ _) (.of_isKeyword h.2))
      . intro _
        apply Ensures.ite
        . intro h
          rw [Bool.and_eq_true] at h
          exact some_whole (namespaceDeclaration_ensures hg hle (.of_isKeyword h.2))
        . intro _
          apply (attributeLists_ensures hg hcursor).bind
          rintro attributes next hnext hlast ⟨hattributes, _⟩
          apply (modifiers_ensures hlast).bind
          intro modifiers start hstart hlast _
          apply some_whole
          exact declaration_ensures (hg.mono (by omega)) hlast (hattributes.mono (by omega))

/--
What the reader of members takes at a time: a member, or the attributes of the whole file.
-/
def memberGroup (g : Grammar) (owner : Option String) : Parser (List Node) := do
  if owner.isNone && (← atPunct ["["]) && (← peek 2).isPunct [":"] then attributeLists g
  else
    let first ← here
    match ← attempt (member g owner) with
    | some found => return found.toList
    | none => return [← skipConstruct first "member"]

theorem members_eq (g : Grammar) (owner : Option String) :
    members g owner = do
      let groups ← manyWhile (isBefore "\x7d") (memberGroup g owner)
      return groups.flatten :=
  rfl

theorem memberGroup_ensures {owner : Option String} (hg : g.Sound tokens (cursor + 1))
    (hcursor : cursor < last tokens) :
    Ensures tokens (memberGroup g owner) cursor fun nodes next =>
      cursor < next ∧ Laid tokens cursor next nodes := by
  have hle := Nat.le_of_lt hcursor
  apply Ensures.atPunct
  apply Ensures.peek
  apply Ensures.ite
  . intro h
    rw [Bool.and_eq_true, Bool.and_eq_true] at h
    apply (attributeLists_ensures hg hle).mono
    intro nodes next _ _ hnodes
    exact ⟨hnodes.2 h.1.2, hnodes.1⟩
  . intro _
    apply Ensures.here
    apply (Ensures.attempt hle (member_ensures hg hle)).bind
    intro result next _ hlast hresult
    cases result with
    | some found => exact .pure hlast hresult
    | none =>
      cases hresult
      apply (skipConstruct_ensures hlast).bind
      intro node stop _ hlast hnode
      refine .pure hlast ⟨?_, hnode.laid⟩
      cases hnode with
      | inl hnode => exact hnode.lt
      | inr hnode => omega

theorem members_ensures {owner : Option String} (hg : g.Sound tokens (cursor + 1))
    (hcursor : cursor ≤ last tokens) :
    Ensures tokens (members g owner) cursor fun nodes next =>
      Laid tokens cursor next nodes ∧ isBefore "\x7d" (tokenAt tokens next) = false := by
  rw [members_eq]
  refine .bind (manyWhile_ensures (Laid tokens) hcursor ?_) ?_
  . intro index hindex _ hbefore
    exact memberGroup_ensures (hg.mono (by omega)) (lt_last_of_isBefore hbefore)
  . intro groups next _ hlast hgroups
    exact .pure hlast ⟨Laid.flatten hgroups.1, hgroups.2⟩

end ThreadLint.Parser
