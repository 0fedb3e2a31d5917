import ThreadLint.Proofs.Layout.Declaration
import ThreadLint.Proofs.Truncation

/-!
This module contains that comments, white space and preprocessor lines between the tokens of a text
do not matter for its syntax tree, apart from where things are written and from the names of types,
which are cut out of the text with all that stands inside them.
-/

namespace ThreadLint

open ThreadLint.Parser

namespace Token

/--
What a token is, apart from where it is written.
-/
def content (token : Token) : TokenKind × String :=
  (token.kind, token.text)

/--
For each token but the last one, whether it is an angle bracket that touches another one behind it.
-/
def touching (tokens : List Token) : List Bool :=
  List.zipWith
    (fun token next => token.isPunct [">"] && next.isPunct [">"] && next.start == token.stop)
    tokens tokens.tail

theorem alike_iff {token token' : Token} : token.Alike token' ↔ token.content = token'.content := by
  constructor
  . rintro ⟨⟩
    rfl
  . intro h
    cases token
    cases token'
    cases h
    exact .intro ..

/-- The nesting of brackets is checked in the same way. -/
theorem unclosed_go_alike {source source' : Source} {tokens tokens' opened opened' openers : List Token}
    (h : tokens.map content = tokens'.map content)
    (hopened : opened.map content = opened'.map content)
    (hopeners : unclosed.go source opened tokens = .ok openers) :
    ∃ openers', unclosed.go source' opened' tokens' = .ok openers' := by
  induction tokens generalizing opened opened' tokens' with
  | nil =>
    cases tokens' with
    | nil => exact ⟨_, rfl⟩
    | cons token' rest' => simp at h
  | cons token rest ih =>
    cases tokens' with
    | nil => simp at h
    | cons token' rest' =>
      rw [List.map_cons, List.map_cons, List.cons.injEq, ← alike_iff] at h
      obtain ⟨htoken, hrest⟩ := h
      unfold unclosed.go at hopeners ⊢
      rw [htoken.isOpener_eq, htoken.isCloser_eq] at hopeners
      split at hopeners
      . next hopener =>
        rw [if_pos hopener]
        refine ih hrest ?_ hopeners
        rw [List.map_cons, List.map_cons, hopened, alike_iff.1 htoken]
      next hopener =>
      rw [if_neg hopener]
      split at hopeners
      . next hcloser =>
        rw [if_pos hcloser]
        cases opened with
        | nil => cases hopeners
        | cons opener outer =>
          cases opened' with
          | nil => simp at hopened
          | cons opener' outer' =>
            rw [List.map_cons, List.map_cons, List.cons.injEq, ← alike_iff] at hopened
            dsimp only at hopeners ⊢
            rw [hopened.1.closer?_eq, htoken.text_eq] at hopeners
            split at hopeners
            . next hcloses =>
              rw [if_pos hcloses]
              exact ih hrest hopened.2 hopeners
            . cases hopeners
      . next hcloser =>
        rw [if_neg hcloser]
        exact ih hrest hopened hopeners

end Token

/-! ### Two lists of tokens -/

namespace Parser

/--
Whether nothing but white space is different between some tokens and others, where it can be cut out
of the text with a type.
-/
def SameRemarks (tokens tokens' : List Token) : Prop :=
  ∀ index, index < tokens.length → isInside tokens.toArray index = true →
    (tokenAt tokens.toArray index).remarks = (tokenAt tokens'.toArray index).remarks

instance (tokens tokens' : List Token) : Decidable (SameRemarks tokens tokens') :=
  inferInstanceAs (Decidable (∀ index, index < tokens.length → _))

variable {γ : Type} {tokens tokens' : List Token}

theorem tokenAt_toArray (index : Nat) :
    tokenAt tokens.toArray index = tokens[index]?.getD (tokens.getLast?.getD default) := by
  unfold tokenAt
  simp [Array.getD_eq_getD_getElem?]

theorem tokenAt_view (view : Token → γ) (index : Nat) :
    view (tokenAt tokens.toArray index)
      = (tokens.map view)[index]?.getD ((tokens.map view).getLast?.getD (view default)) := by
  rw [tokenAt_toArray, List.getElem?_map, List.getLast?_map, Option.getD_map, Option.getD_map]

theorem touching_getElem? [Lawful tokens.toArray] {index : Nat}
    (h : (tokenAt tokens.toArray index).isPunct [">"] = true)
    (hnext : (tokenAt tokens.toArray (index + 1)).isPunct [">"] = true) :
    (Token.touching tokens)[index]?
      = some ((tokenAt tokens.toArray (index + 1)).start == (tokenAt tokens.toArray index).stop) := by
  have hlt : index + 1 < tokens.length := by
    have hlast : last tokens.toArray < tokens.toArray.size := last_lt_size
    exact Nat.lt_trans (lt_last_of_isPunct hnext) hlast
  have hindex : tokenAt tokens.toArray index = tokens[index] :=
    tokenAt_eq_getElem (by simpa using Nat.lt_of_succ_lt hlt)
  have hbehind : tokenAt tokens.toArray (index + 1) = tokens[index + 1] :=
    tokenAt_eq_getElem (by simpa using hlt)
  rw [hindex] at h ⊢
  rw [hbehind] at hnext ⊢
  unfold Token.touching
  rw [List.getElem?_zipWith, List.getElem?_tail, List.getElem?_eq_getElem (Nat.lt_of_succ_lt hlt),
    List.getElem?_eq_getElem hlt]
  dsimp only
  rw [h, hnext, Bool.true_and, Bool.true_and]

variable {spelled : Bool} [Lawful tokens.toArray] [Lawful tokens'.toArray]
  (hcontent : tokens.map Token.content = tokens'.map Token.content)
  (htouching : Token.touching tokens = Token.touching tokens')

include hcontent htouching

theorem SameTokens.of_lists
    (hremarks : spelled = true → SameRemarks tokens tokens') :
    SameTokens spelled tokens.toArray tokens'.toArray where
  lawful := inferInstance
  lawful' := inferInstance
  size_eq := by
    have := congrArg List.length hcontent
    simpa using this
  alike index := by
    rw [Token.alike_iff, tokenAt_view Token.content, tokenAt_view Token.content, hcontent]
  touch_iff index h hnext := by
    have halike (index : Nat) :
        (tokenAt tokens.toArray index).Alike (tokenAt tokens'.toArray index) := by
      rw [Token.alike_iff, tokenAt_view Token.content, tokenAt_view Token.content, hcontent]
    have h' := touching_getElem? h hnext
    rw [isPunct_eq _ _ _ (halike _)] at h hnext
    rw [htouching, touching_getElem? h hnext, Option.some.injEq] at h'
    exact beq_eq_beq.1 h'.symm
  remarks_eq := hremarks

end Parser

theorem exists_members_of_same {spelled : Bool} {tokens : Array Token} (tokens' : Array Token)
    [Lawful tokens'] [same : SameTokens spelled tokens tokens'] {nodes : List Node}
    (h : Parsed.members tokens = .ok nodes) :
    ∃ nodes', Parsed.members tokens' = .ok nodes' ∧ SameNodes spelled nodes nodes' := by
  have hgrammar : (Grammar.ofDepth tokens.size).Agrees tokens tokens' spelled :=
    Grammar.ofDepth_agrees _
  have houtcome := members_agrees hgrammar none 0
  have hstop : ∀ stop, Parsed.members tokens' = .error stop → stop = .mismatch :=
    fun _ => Parsed.eq_mismatch_of_members
  unfold Parsed.members at h hstop ⊢
  rw [← same.size_eq] at hstop ⊢
  obtain ⟨_, hmembers, rfl⟩ := map_eq_ok.1 h
  rw [hmembers] at houtcome
  generalize Parser.members (Grammar.ofDepth tokens.size) none tokens' 0 = result at houtcome hstop ⊢
  cases houtcome with
  | ok _ hsame => exact ⟨_, rfl, hsame⟩
  | reversed_right => cases hstop _ rfl

/-! ### Two texts -/

section

variable {text text' : String} {path path' : Option String} {tokens tokens' : List Token}
  (htokens : Token.tokenize (Source.ofString text path) = .ok tokens)
  (htokens' : Token.tokenize (Source.ofString text' path') = .ok tokens')
  (hcontent : tokens.map Token.content = tokens'.map Token.content)
  (htouching : Token.touching tokens = Token.touching tokens')

include htokens htokens' hcontent htouching

theorem exists_parse_of_content_eq {spelled : Bool}
    (hremarks : spelled = true → SameRemarks tokens tokens') {parsed : Parsed} (h : parse text path = .ok parsed) :
    ∃ parsed', parse text' path' = .ok parsed' ∧ SameNode spelled parsed.root parsed'.root := by
  have := Lawful.of_tiles (Token.Tiles.of_tokenize htokens)
  have := Lawful.of_tiles (Token.Tiles.of_tokenize htokens')
  have := SameTokens.of_lists hcontent htouching hremarks
  obtain ⟨_, openers, nodes, htokenized, hopeners, _, hnodes, _, hroot⟩ :=
    Parsed.ofSource_eq_ok (parse_eq_ok h)
  rw [htokens] at htokenized
  cases htokenized
  have hopeners' : ∃ openers', Token.unclosed (Source.ofString text' path') tokens' = .ok openers' :=
    Token.unclosed_go_alike hcontent rfl hopeners
  obtain ⟨openers', hopeners'⟩ := hopeners'
  obtain ⟨nodes', hnodes', hsame⟩ := exists_members_of_same tokens'.toArray hnodes
  have hstops : ¬ StopsAtTarget tokens'.toArray := by
    intro hstops
    rw [← Parsed.members_eq_mismatch_iff, hnodes'] at hstops
    cases hstops
  obtain ⟨parsed', hparsed', _⟩ := recovers_of_not_stopsAtTarget htokens' hopeners' hstops
  refine ⟨parsed', hparsed', ?_⟩
  obtain ⟨_, _, _, htokenized', _, _, hmembers', _, hroot'⟩ :=
    Parsed.ofSource_eq_ok (parse_eq_ok hparsed')
  rw [htokens'] at htokenized'
  cases htokenized'
  rw [hnodes'] at hmembers'
  cases hmembers'
  rw [hroot, hroot']
  unfold SameNode
  rw [Node.bare_eq, Node.bare_eq, hsame]

theorem parse_isOk_of_content_eq (h : (parse text path).isOk = true) :
    (parse text' path').isOk = true := by
  obtain ⟨parsed, hparsed⟩ := exists_eq_ok h
  have hremarks : false = true → SameRemarks tokens tokens' := by simp
  obtain ⟨parsed', hparsed', _⟩ :=
    exists_parse_of_content_eq htokens htokens' hcontent htouching hremarks hparsed
  rw [hparsed']
  rfl

/--
Texts of the same tokens both have a syntax tree or both have none. The trees only differ in where
they are written and in the texts that are cut out of the file: the names of types and the operands
of `typeof` and `sizeof`. These are the same too if nothing but white space is different where they
can stand.
-/
theorem parse_bare_eq :
    (parse text path).isOk = (parse text' path').isOk ∧
      ∀ parsed parsed', parse text path = .ok parsed → parse text' path' = .ok parsed' →
        parsed.root.bare false = parsed'.root.bare false ∧
          (SameRemarks tokens tokens' → parsed.root.bare true = parsed'.root.bare true) := by
  constructor
  . rw [Bool.eq_iff_iff]
    exact ⟨parse_isOk_of_content_eq htokens htokens' hcontent htouching,
      parse_isOk_of_content_eq htokens' htokens hcontent.symm htouching.symm⟩
  intro parsed parsed' hparsed hparsed'
  have hsame (spelled : Bool) (hremarks : spelled = true → SameRemarks tokens tokens') :
      parsed.root.bare spelled = parsed'.root.bare spelled := by
    obtain ⟨_, hfound, h⟩ :=
      exists_parse_of_content_eq htokens htokens' hcontent htouching hremarks hparsed
    rw [hparsed'] at hfound
    cases hfound
    exact h
  exact ⟨hsame false (by simp), fun hremarks => hsame true fun _ => hremarks⟩

end

/-- White space in the name of a base does not matter, nor does a comment behind it. -/
theorem parse_bare_eq_base :
    let text := "class P : Shell.AsyncPackage { }"
    let text' := "class P : Shell\n  . AsyncPackage // loads late\n{ }"
    ∃ parsed parsed', parse text none = .ok parsed ∧ parse text' none = .ok parsed' ∧
      parsed.root.bare true = parsed'.root.bare true := by
  intro text text'
  have hok : (parse text none).isOk = true := by decide +kernel
  have htokenized : ((Token.tokenize (Source.ofString text none) >>= fun tokens =>
      (Token.tokenize (Source.ofString text' none)).map fun tokens' =>
        decide (tokens.map Token.content = tokens'.map Token.content ∧
          Token.touching tokens = Token.touching tokens' ∧
            SameRemarks tokens tokens'))).toOption = some true := by
    decide +kernel
  obtain ⟨tokens, htokens, hread⟩ := bind_eq_ok.1 (eq_ok_of_toOption htokenized)
  obtain ⟨tokens', htokens', hsame⟩ := map_eq_ok.1 hread
  obtain ⟨hcontent, htouching, hremarks⟩ := of_decide_eq_true hsame
  obtain ⟨hboth, hbare⟩ := parse_bare_eq htokens htokens' hcontent htouching
  obtain ⟨parsed, h⟩ := exists_eq_ok hok
  obtain ⟨parsed', h'⟩ := exists_eq_ok (hboth.symm.trans hok)
  exact ⟨parsed, parsed', h, h', (hbare parsed parsed' h h').2 hremarks⟩

/--
A comment between the segments of a base becomes part of its name, so that the tree differs from
that of the same tokens without it.
-/
theorem bare_ne_of_comment_in_base :
    let text := "class P : Shell. /* x */ AsyncPackage { }"
    let text' := "class P : Shell. AsyncPackage { }"
    (∃ tokens tokens', Token.tokenize (Source.ofString text none) = .ok tokens ∧
      Token.tokenize (Source.ofString text' none) = .ok tokens' ∧
        tokens.map Token.content = tokens'.map Token.content ∧
          Token.touching tokens = Token.touching tokens') ∧
      ∃ parsed parsed', parse text none = .ok parsed ∧ parse text' none = .ok parsed' ∧
        parsed.root.children.map (fun node => node.form.bare true)
          = [.classDecl ⟨"P", ⟨0, 0⟩, "class", [], [("Shell./*x*/AsyncPackage", ⟨0, 0⟩)]⟩] ∧
        parsed'.root.children.map (fun node => node.form.bare true)
          = [.classDecl ⟨"P", ⟨0, 0⟩, "class", [], [("Shell.AsyncPackage", ⟨0, 0⟩)]⟩] ∧
        parsed.root.bare true ≠ parsed'.root.bare true := by
  intro text text'
  have htokenized : ((Token.tokenize (Source.ofString text none) >>= fun tokens =>
      (Token.tokenize (Source.ofString text' none)).map fun tokens' =>
        decide (tokens.map Token.content = tokens'.map Token.content ∧
          Token.touching tokens = Token.touching tokens'))).toOption = some true := by
    decide +kernel
  obtain ⟨tokens, htokens, hread⟩ := bind_eq_ok.1 (eq_ok_of_toOption htokenized)
  obtain ⟨tokens', htokens', hsame⟩ := map_eq_ok.1 hread
  refine ⟨⟨tokens, tokens', htokens, htokens', of_decide_eq_true hsame⟩, ?_⟩
  have hforms : ((parse text none).map fun parsed =>
      parsed.root.children.map fun node => node.form.bare true).toOption
      = some [.classDecl ⟨"P", ⟨0, 0⟩, "class", [], [("Shell./*x*/AsyncPackage", ⟨0, 0⟩)]⟩] := by
    decide +kernel
  have hforms' : ((parse text' none).map fun parsed =>
      parsed.root.children.map fun node => node.form.bare true).toOption
      = some [.classDecl ⟨"P", ⟨0, 0⟩, "class", [], [("Shell.AsyncPackage", ⟨0, 0⟩)]⟩] := by
    decide +kernel
  obtain ⟨parsed, h, hbases⟩ := map_eq_ok.1 (eq_ok_of_toOption hforms)
  obtain ⟨parsed', h', hbases'⟩ := map_eq_ok.1 (eq_ok_of_toOption hforms')
  refine ⟨parsed, parsed', h, h', hbases, hbases', ?_⟩
  intro heq
  have hchildren := congrArg (fun node => node.children.map Node.form) heq
  rw [Node.forms_bare_eq, Node.forms_bare_eq, hbases, hbases'] at hchildren
  exact absurd hchildren (by decide)

end ThreadLint
