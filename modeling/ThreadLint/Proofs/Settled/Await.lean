import ThreadLint.Proofs.Rule.Written
import ThreadLint.Proofs.Settled.Carry
import ThreadLint.Proofs.Token.Front

/-!
This module contains what it means that a rule does not find again what its fix is for, and that calls
are not found again once they are awaited. Neither a call nor an access to a member begins with an
`await` that has an operand: the word belongs to an expression around them.
-/

namespace ThreadLint

namespace Token

open ThreadLint.Parser

/--
Whether an operand without operators in front of it begins with a text, whatever stands behind that
text: the first token does, unless it is longer than the text.
-/
structure LeadsOperand (lead : List Char) : Prop where
  visible : ∃ c rest, lead = c :: rest ∧ startsTrivia c = false
  begins : ∀ {offset : Nat} {more : List Char} {token : Token},
    lexeme offset (lead ++ more) = .ok (token.kind, token.text.length) →
      token.text.toList = (lead ++ more).take token.text.length →
      token.text.length ≤ lead.length → Begins token = true

/-- What is copied from the front of an operand leads one. -/
theorem LeadsOperand.of_lexeme {offset m : Nat} {cs lead : List Char} {token : Token}
    (h : lexeme offset cs = .ok (token.kind, token.text.length))
    (htext : token.text.toList = cs.take token.text.length) (hbegins : Begins token = true)
    (hlead : lead.take m = cs.take m) (hm : m ≤ lead.length) (hle : token.text.length ≤ m)
    (hlength : lead.length = m ∨ token.text.length < m) : LeadsOperand lead := by
  cases cs with
  | nil =>
    have hmarks : marks.find? (fun mark => mark.toList.isPrefixOf []) = none := by decide
    simp [lexeme, startsMarkedString, startsNumber, startsIdentifier, hmarks] at h
  | cons c rest =>
    have hpos := (lexeme_bounds h).2.1
    constructor
    case visible =>
      obtain ⟨k, rfl⟩ : ∃ k, m = k + 1 := ⟨m - 1, by omega⟩
      rw [List.take_succ_cons] at hlead
      obtain ⟨rest', heq, _⟩ := exists_cons_of_take hlead
      exact ⟨c, rest', heq, startsTrivia_eq_false h htext hbegins⟩
    case begins =>
      intro offset' more token' h' htext' hle'
      have hcs : (c :: rest).take m = (lead ++ more).take m := by
        rw [List.take_append_of_le_length hm, hlead]
      exact begins_congr hcs h h' htext htext' hle (by omega) hbegins

/-- What begins with a bracket leads an operand. -/
theorem LeadsOperand.of_bracket {c : Char} {rest : List Char} (hc : c ∈ ['(', '[', '\x7b']) :
    LeadsOperand (c :: rest) := by
  refine ⟨⟨c, rest, rfl, ?_⟩, ?_⟩
  . simp only [List.mem_cons, List.not_mem_nil, or_false] at hc
    rcases hc with rfl | rfl | rfl
    all_goals rfl
  . intro offset more token hlexeme htext _
    obtain ⟨hkind, hlength⟩ := frontClass_of_bracket hc (frontClass_of_lexeme hlexeme)
    rw [hlength, List.cons_append, List.take_succ_cons, List.take_zero] at htext
    refine @begins_of_isPunct token [String.singleton c] ?_ ?_
    . simp only [List.mem_cons, List.not_mem_nil, or_false] at hc
      rcases hc with rfl | rfl | rfl
      all_goals decide
    . rw [Token.isPunct_iff, List.mem_singleton]
      exact ⟨hkind, String.toList_injective (by rw [htext, String.toList_singleton])⟩

/-- A name that does not go on leads an operand. -/
theorem LeadsOperand.of_word {word : String} {d : Char} {rest : List Char} (hword : IsWord word)
    (hkind : wordKind word = .identifier) (hd : continuesWord d = false) :
    LeadsOperand (word.toList ++ d :: rest) := by
  obtain ⟨c, others, hchars, hc, _⟩ := id hword
  refine ⟨⟨c, others ++ d :: rest, by rw [hchars, List.cons_append], ?_⟩, ?_⟩
  . exact startsTrivia_of_startsWord hc
  . intro offset more token hlexeme _ _
    rw [List.append_assoc, List.cons_append] at hlexeme
    obtain ⟨hidentifier, _⟩ := lexeme_of_word hword hd hlexeme
    apply begins_of_isIdentifier
    rw [Token.isIdentifier, hidentifier, hkind]
    rfl

end Token

open ThreadLint.Parser

theorem Sited.exists_opens {source : Source} {tokens : List Token} {root node : Node}
    (h : Sited source tokens root) (hmem : node ∈ root.preorder)
    (hkind : node.kind = .callExpr ∨ node.kind = .memberAccess) :
    ∃ first stop, Whole tokens.toArray first stop node ∧ Opens tokens.toArray first := by
  obtain ⟨first, stop, hwhole⟩ := h.whole hmem (by
    rcases hkind with heq | heq
    all_goals simp [heq])
  obtain ⟨_, _, _, hfits, _⟩ := whole_iff.1 hwhole
  refine ⟨first, stop, hwhole, ?_⟩
  unfold Node.kind at hkind
  cases hform : node.form
  case callExpr =>
    rw [hform] at hfits
    obtain ⟨_, _, _, _, hopens, _⟩ := hfits
    exact hopens
  case memberAccess =>
    rw [hform] at hfits
    obtain ⟨_, _, _, _, _, hopens, _⟩ := hfits
    exact hopens
  all_goals simp [hform, Form.kind] at hkind

/-- A call or an access to a member does not begin with an `await` that has an operand. -/
theorem Sited.not_awaited {source : Source} {tokens : List Token} {root node : Node}
    (h : Sited source tokens root) (htokens : Token.tokenize source = .ok tokens)
    (hmem : node ∈ root.preorder) (hkind : node.kind = .callExpr ∨ node.kind = .memberAccess)
    {lead more : List Char} (hlead : Token.LeadsOperand lead)
    (hchars : source.chars.drop node.extent.start = "await ".toList ++ (lead ++ more)) :
    node.extent.stop ≠ node.extent.start + 6 + lead.length := by
  have := h.lawful
  intro hstop
  obtain ⟨first, stop, hwhole, hopens⟩ := h.exists_opens hmem hkind
  obtain ⟨hlt, hlast, hextent, _⟩ := whole_iff.1 hwhole
  obtain ⟨c, rest, rfl, hc⟩ := hlead.visible
  have hstart : node.extent.start = startAt tokens.toArray first := by
    rw [hextent, extentOf]
  have hawait : Token.Reads source tokens first ("await".toList ++ ' ' :: (c :: rest ++ more)) := by
    refine ⟨by omega, ?_⟩
    rw [← hstart, hchars]
    rfl
  obtain ⟨_, hwordKind, hwordText⟩ :=
    Token.word_of_reads htokens (by decide) (by decide) hawait
  have hword : (tokenAt tokens.toArray first).isWord ["await"] = true := by
    rw [Token.isWord, hwordKind, hwordText]
    decide
  have hfive : (tokenAt tokens.toArray first).text.length = 5 := by
    rw [hwordText]
    rfl
  obtain ⟨hnextStart, hnext⟩ := Token.reads_next_blank htokens hawait hfive rfl hc
  obtain ⟨_, hlexeme, htext⟩ := Token.lexeme_of_reads htokens hnext
  have hlength : (tokenAt tokens.toArray (first + 1)).text.length ≤ (c :: rest).length := by
    have hfirst : stopAt tokens.toArray first = startAt tokens.toArray first + 5 := by
      rw [stopAt, Token.stop, hwordText]
      rfl
    have hne : stop - 1 ≠ first := by
      intro heq
      rw [hextent, extentOf, heq] at hstop
      dsimp only at hstop
      omega
    have hle : stopAt tokens.toArray (first + 1) ≤ stopAt tokens.toArray (stop - 1) :=
      stop_le_stop (by omega) (by omega)
    have hbehind : stopAt tokens.toArray (first + 1)
        = startAt tokens.toArray (first + 1) + (tokenAt tokens.toArray (first + 1)).text.length :=
      rfl
    rw [hextent, extentOf] at hstop
    dsimp only at hstop
    omega
  have hbegins := hlead.begins hlexeme htext hlength
  rw [hopens.2 hword] at hbegins
  cases hbegins

namespace Sited

variable {source : Source} {tokens : List Token} {root node : Node}
  (h : Sited source tokens root)

include h

/-- What is written from the first token of an operand on leads one. -/
theorem leadsOperand_of_begins {first stop : Nat} {back : List Char}
    (hbegins : Begins (tokenAt tokens.toArray first) = true) (hfirst : first < last tokens.toArray)
    (hstop : stopAt tokens.toArray first ≤ stop ∧ stop ≤ source.length)
    (hback : back = [] ∨ stopAt tokens.toArray first < stop) :
    Token.LeadsOperand ((source.slice ⟨startAt tokens.toArray first, stop⟩).toList ++ back) := by
  have := h.lawful
  have hmem := tokenAt_mem_of_tiles h.tiles (Nat.le_of_lt hfirst)
  have hlexeme := h.tiles.lexeme_eq hmem (not_isEnd_of_lt_last hfirst)
  have htext := h.tiles.text_toList hmem
  have hslice : (source.slice ⟨startAt tokens.toArray first, stop⟩).toList
      = (source.chars.drop (startAt tokens.toArray first)).take
          (stop - startAt tokens.toArray first) :=
    Text.toList_slice _ _ _
  have htoken : stopAt tokens.toArray first
      = startAt tokens.toArray first + (tokenAt tokens.toArray first).text.length := rfl
  have hlength : ((source.slice ⟨startAt tokens.toArray first, stop⟩).toList).length
      = stop - startAt tokens.toArray first := by
    rw [String.length_toList]
    exact Text.length_slice hstop.2
  apply Token.LeadsOperand.of_lexeme (m := stop - startAt tokens.toArray first) hlexeme htext hbegins
  . rw [List.take_append_of_le_length (by omega), hslice, List.take_take, Nat.min_self]
    rfl
  . rw [List.length_append]
    omega
  . omega
  . cases hback with
    | inl hback =>
      rw [hback, List.append_nil]
      exact .inl hlength
    | inr hlt =>
      right
      omega

theorem leadsOperand_of_begins_node (hmem : node ∈ root.preorder)
    (hkind : node.kind ≠ .compilationUnit ∧ node.kind ≠ .otherStmt)
    (hbegins : ∀ {first stop : Nat}, Fits tokens.toArray first stop node.children node.form →
      Begins (tokenAt tokens.toArray first) = true) :
    Token.LeadsOperand (source.slice node.extent).toList := by
  have := h.lawful
  obtain ⟨first, stop, hwhole⟩ := h.whole hmem hkind
  obtain ⟨hlt, hlast, hextent, hfits, _⟩ := whole_iff.1 hwhole
  have hle : stopAt tokens.toArray first ≤ node.extent.stop := by
    rw [hextent]
    exact stop_le_stop (by omega) (by omega)
  have hleads := h.leadsOperand_of_begins (hbegins hfits) (by omega)
    ⟨hle, (h.extent_le hmem).2⟩ (.inl rfl)
  rw [List.append_nil] at hleads
  have hstart : node.extent = ⟨startAt tokens.toArray first, node.extent.stop⟩ := by
    rw [hextent, extentOf]
  rw [hstart]
  exact hleads

/-- The text of an expression that is awaited as it is leads an operand. -/
theorem leadsOperand_of_isSimpleOperand (hmem : node ∈ root.preorder)
    (hsimple : node.isSimpleOperand = true) :
    Token.LeadsOperand (source.textOf node).toList := by
  unfold Node.isSimpleOperand at hsimple
  have hkind : node.kind ≠ .compilationUnit ∧ node.kind ≠ .otherStmt := by
    constructor
    . intro heq
      simp [heq] at hsimple
    . intro heq
      simp [heq] at hsimple
  apply h.leadsOperand_of_begins_node hmem hkind
  intro first stop hfits
  unfold Node.kind at hsimple
  cases hform : node.form
  case identifier =>
    rw [hform] at hfits
    exact hfits.1
  case literal =>
    rw [hform] at hfits
    exact hfits.1
  case objectCreation =>
    rw [hform] at hfits
    exact hfits
  case elementAccess =>
    rw [hform] at hfits
    exact hfits
  case paren =>
    rw [hform] at hfits
    exact hfits.1
  case callExpr =>
    rw [hform] at hfits
    obtain ⟨_, _, _, _, hopens, _⟩ := hfits
    exact hopens.1
  case memberAccess =>
    rw [hform] at hfits
    obtain ⟨_, _, _, _, _, hopens, _⟩ := hfits
    exact hopens.1
  all_goals simp [hform, Form.kind] at hsimple

end Sited

/-! ### Rules that do not find again what they have fixed -/

/--
Whether a file is what rules see of a text with some tokens and a tree, with the built-in symbols.
-/
structure BoundFile.IsOf (file : BoundFile) (tokens : List Token) (root : Node) : Prop where
  tokenized : Token.tokenize file.source = .ok tokens
  sited : Sited file.source tokens root
  binding : file.binding = Binding.ofRoot root (SymbolTable.builtin [])

/--
Whether a matcher does not find again what a fix is for, given how the fixed text is read: none of
its hits there lies where the fix has carried the extent of the hit that it is for.
-/
def Matcher.Settles (matcher : Matcher) (kinds : List NodeKind)
    (IsRead : Extent → List Edit → BoundFile → Node → Prop) : Prop :=
  ∀ {root root' : Node} {tokens tokens' : List Token} {file file' : BoundFile}
    {place other : Place} {hit found : Hit} {fix : Fix},
    file.IsOf tokens root → place.Within root → place.node.kind ∈ kinds →
      matcher file place = .ok (some hit) → hit.fix = .ok (some fix) →
      file'.IsOf tokens' root' → file'.source.chars = Edit.splice file.source.chars fix.edits →
      IsRead (Edit.carried fix.edits hit.span.extent) fix.edits file' root' →
      other ∈ Place.all root' → other.node.kind ∈ kinds → matcher file' other = .ok (some found) →
        found.span.extent ≠ Edit.carried fix.edits hit.span.extent

theorem BoundFile.IsOf.mem_builtin {file : BoundFile} {tokens : List Token} {root : Node}
    (h : file.IsOf tokens root) {name : Option String} {kind : Option SymbolKind}
    {entry : SymbolEntry} (hentry : file.binding.scope.lookup name kind = some entry) :
    entry ∈ Symbol.builtin := by
  obtain ⟨_, _, hlookup⟩ := Scope.lookup_eq_some hentry
  rw [h.binding] at hlookup
  have hmem : entry ∈ Symbol.builtin ++ [] := SymbolTable.mem_of_lookup hlookup
  rwa [List.append_nil] at hmem

/-! ### Dropped results -/

theorem UnobservedResult.settles : matcher.Settles rule.kinds fun _ _ _ _ => True := by
  intro root root' tokens tokens' file file' place other hit found fix hfile hplace _ hhit hfix hfile'
    hchars _ hother _ hfound heq
  obtain ⟨expression, hhead, hkind, hspan, hfixes⟩ := matcher_eq_ok hhit
  obtain ⟨expression', hhead', hkind', hspan', _⟩ := matcher_eq_ok hfound
  have hedits := (hfixes fix hfix).2
  have hmem := Node.mem_preorder_of_mem_children hplace.node (List.mem_of_head? hhead)
  have hmem' := Node.mem_preorder_of_mem_children (Place.within_of_mem_all hother).node
    (List.mem_of_head? hhead')
  obtain ⟨hle, hlength⟩ := hfile.sited.extent_le hmem
  rw [hspan, hspan', hedits, Edit.carried, Edit.carriedStart_singleton (Nat.le_refl _),
    Edit.carriedStop_singleton (Nat.le_refl _) hle] at heq
  have hdrop := @Edit.drop_splice_singleton file.source.chars expression.extent.start
    expression.extent.start "await " (Nat.le_refl _) (Nat.le_trans hle hlength)
  rw [← hedits, ← hchars] at hdrop
  have hwritten : (file.source.textOf expression).length
      = expression.extent.stop - expression.extent.start := Text.length_slice hlength
  have hleads := hfile.sited.leadsOperand_of_isSimpleOperand hmem (by
    simp [Node.isSimpleOperand, hkind])
  have hchars' : file'.source.chars.drop expression'.extent.start = "await ".toList ++
      ((file.source.textOf expression).toList ++
        file.source.chars.drop expression.extent.stop) := by
    rw [heq, hdrop]
    exact congrArg ("await ".toList ++ ·) (Text.slice_append_drop hle).symm
  refine hfile'.sited.not_awaited hfile'.tokenized hmem' (.inl hkind') hleads hchars' ?_
  rw [heq, String.length_toList, hwritten, show "await ".length = 6 from rfl]
  dsimp only
  omega

/-! ### Blocking waits -/

namespace BlockingWait

/--
Whether an entry that is awaited as a delay is replaced by the call that gives one.
-/
def delays (entry : SymbolEntry) : Bool :=
  entry.strategy != some .delay || entry.replacement == some "Task.Delay"

theorem builtin_delays : Symbol.builtin.all delays = true := by
  decide

theorem leadsOperand_delay (file : BoundFile) (duration : String) :
    Token.LeadsOperand (file.qualify Symbol.tasks "Task.Delay" ++ duration).toList := by
  have hword {word : String} (hword : Token.IsWord word)
      (hkind : Token.wordKind word = .identifier) (rest : List Char) :
      Token.LeadsOperand (word.toList ++ '.' :: rest) :=
    .of_word hword hkind (by decide)
  rw [String.toList_append]
  cases file.qualify_eq Symbol.tasks "Task.Delay" with
  | inl heq =>
    rw [heq]
    exact hword (show Token.IsWord "Task" by decide) (by decide) _
  | inr heq =>
    rw [heq]
    exact hword (show Token.IsWord "System" by decide) (by decide) _

variable {file : BoundFile} {root : Node} {tokens : List Token} {place : Place}
  {entry : SymbolEntry} {text : String}

theorem leadsOperand_combined (hsited : Sited file.source tokens root)
    (hmem : place.node ∈ root.preorder)
    (hkind : place.node.kind = .callExpr ∨ place.node.kind = .memberAccess) {callee : Node}
    {called : String} {name : Extent} {isConditional : Bool} {typeArguments : Option (List String)}
    (hcallee : callee ∈ place.node.children)
    (hform : callee.form = .memberAccess called name isConditional typeArguments)
    (back : String) :
    Token.LeadsOperand
      (file.source.slice ⟨place.node.extent.start, name.start⟩ ++ back).toList := by
  have := hsited.lawful
  obtain ⟨first, stop, hwhole, hopens⟩ := hsited.exists_opens hmem hkind
  obtain ⟨hlt, hlast, hextent, _, hlaid⟩ := whole_iff.1 hwhole
  obtain ⟨first', stop', hfirst, hstop, hkept⟩ := hlaid.kept_of_mem hcallee
  have hwritten : Whole tokens.toArray first' stop' callee := by
    apply hkept.resolve_right
    rintro ⟨⟨hother, _⟩, _⟩
    simp [Node.kind, hform, Form.kind] at hother
  obtain ⟨_, _, _, hfits, _⟩ := whole_iff.1 hwritten
  rw [hform] at hfits
  obtain ⟨index, hindex, hbefore, ⟨_, _, rfl⟩, _⟩ := hfits
  -- The dot stands between the first token and the name.
  have hdot : stopAt tokens.toArray first < startAt tokens.toArray index :=
    calc stopAt tokens.toArray first
        ≤ startAt tokens.toArray (first + 1) := stop_le_start (by omega) (by omega)
      _ < stopAt tokens.toArray (first + 1) := Lawful.start_lt_stop _ (by omega)
      _ ≤ startAt tokens.toArray index := stop_le_start (by omega) (by omega)
  rw [String.toList_append, hextent]
  exact hsited.leadsOperand_of_begins hopens.1 (by omega)
    ⟨Nat.le_of_lt hdot, hsited.startAt_le (by omega)⟩ (.inr hdot)

/-- A wait becomes an `await` with an operand, in parentheses or not. -/
theorem Writes.leads (h : Writes file root place entry text)
    (hsited : Sited file.source tokens root) (hmem : place.node ∈ root.preorder)
    (hkind : place.node.kind = .callExpr ∨ place.node.kind = .memberAccess)
    (hdelays : delays entry = true) :
    text.toList.head? = some '(' ∨
      ∃ lead : String, Token.LeadsOperand lead.toList ∧ text = "await " ++ lead := by
  have hwritten {lead : String} (hlead : Token.LeadsOperand lead.toList) :
      (awaitWritten lead place).toList.head? = some '(' ∨
        ∃ other : String, Token.LeadsOperand other.toList ∧
          awaitWritten lead place = "await " ++ other := by
    unfold awaitWritten
    extract_lets text
    split
    . left
      rw [String.toList_append, String.toList_append]
      rfl
    . exact .inr ⟨lead, hlead, rfl⟩
  cases h with
  | operand operand hoperand =>
    apply hwritten
    split
    . next hsimple => exact hsited.leadsOperand_of_isSimpleOperand hoperand hsimple
    . rw [String.toList_append, String.toList_append]
      exact .of_bracket (List.mem_cons_self ..)
  | delay duration hduration hstrategy =>
    have hreplacement : entry.replacement = some "Task.Delay" := by
      simpa [delays, hstrategy] using hdelays
    apply hwritten
    rw [hreplacement, Option.getD_some, String.append_assoc, String.append_assoc]
    exact leadsOperand_delay file _
  | combined callee called name isConditional typeArguments hcallee hform =>
    right
    rw [String.append_assoc, String.append_assoc]
    exact ⟨_, leadsOperand_combined hsited hmem hkind hcallee hform _, rfl⟩

/--
Whether an `await` that is written in parentheses is read in parentheses.
-/
def IsRead (extent : Extent) (edits : List Edit) (_ : BoundFile) (root : Node) : Prop :=
  ∀ edit ∈ edits, edit.replacement.toList.head? = some '(' →
    ∃ node ∈ root.preorder, node.kind = .paren ∧ node.extent = extent

theorem settles : matcher.Settles rule.kinds IsRead := by
  intro root root' tokens tokens' file file' place other hit found fix hfile hplace hkind hhit hfix
    hfile' hchars hread hother hkind' hfound heq
  have hother := (Place.within_of_mem_all hother).node
  simp only [rule, List.mem_cons, List.not_mem_nil, or_false] at hkind hkind'
  obtain ⟨_, text, hawaiting, hedits⟩ := edits_eq hhit hfix
  obtain ⟨entry, hentry, hwrites⟩ := writes_of_awaiting? hplace.node hawaiting
  obtain ⟨_, _, hlookup⟩ := Binding.exists_lookup_of_symbolAt? hentry
  have hdelays := List.all_eq_true.1 builtin_delays entry (hfile.mem_builtin hlookup)
  obtain ⟨hle, hlength⟩ := hfile.sited.extent_le hplace.node
  rw [(matcher_eq_ok hhit).1] at heq hread
  rw [(matcher_eq_ok hfound).1] at heq
  cases hwrites.leads hfile.sited hplace.node hkind hdelays with
  | inl hparenthesis =>
    obtain ⟨paren, hparen, hparenKind, hextent⟩ := hread _ (hedits ▸ List.mem_singleton_self _)
      hparenthesis
    have howns := hfile'.sited.owns_extent hparen (by simp [hparenKind])
    have howns' := hfile'.sited.owns_extent hother (by rcases hkind' with h | h <;> simp [h])
    have hne : paren ≠ other.node := by
      rintro rfl
      rcases hkind' with h | h <;> simp [hparenKind] at h
    exact hfile'.sited.ne_of_owns hparen hother (by simp [hparenKind])
      (by rcases hkind' with h | h <;> simp [h]) hne howns howns' (hextent.trans heq.symm)
  | inr hleads =>
    obtain ⟨lead, hlead, rfl⟩ := hleads
    have hdrop := @Edit.drop_splice_singleton file.source.chars place.node.extent.start
      place.node.extent.stop ("await " ++ lead) hle hlength
    rw [hedits, Edit.carried, Edit.carriedStart_singleton (Nat.le_refl _),
      Edit.carriedStop_singleton hle (Nat.le_refl _), String.length_append] at heq
    rw [← hedits, ← hchars, String.toList_append, List.append_assoc] at hdrop
    rw [← congrArg Extent.start heq] at hdrop
    refine hfile'.sited.not_awaited hfile'.tokenized hother hkind' hlead hdrop ?_
    rw [heq, String.length_toList, show "await ".length = 6 from rfl]
    dsimp only
    omega

end BlockingWait

end ThreadLint
