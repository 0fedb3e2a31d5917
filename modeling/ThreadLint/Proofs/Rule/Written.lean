import ThreadLint.Proofs.Rule.AsyncNaming
import ThreadLint.Proofs.Rule.Mark
import ThreadLint.Proofs.Symbol
import ThreadLint.Settings

/-!
This module contains what the fixes of the rules write: the edits of each fix, given where it is
found.
-/

namespace ThreadLint

open ThreadLint.Parser

/-! ### The symbols that a file knows -/

/--
Whether a file knows no symbols besides the built-in ones and those that settings add.
-/
def BoundFile.KnowsSettings (file : BoundFile) (settings : Settings) : Prop :=
  file.binding.scope.table = SymbolTable.builtin settings.symbolEntries

/-- What holds of the built-in symbols and of those no fix has a use for holds of all that are known. -/
theorem BoundFile.KnowsSettings.holds {file : BoundFile} {settings : Settings}
    (h : file.KnowsSettings settings) {test : SymbolEntry → Bool}
    (hbuiltin : Symbol.builtin.all test = true)
    (hothers : ∀ entry : SymbolEntry, entry.replacement = none → entry.strategy = none →
      test entry = true)
    {name : Option String} {kind : Option SymbolKind} {entry : SymbolEntry}
    (hentry : file.binding.scope.lookup name kind = some entry) : test entry = true := by
  obtain ⟨_, _, hlookup⟩ := Scope.lookup_eq_some hentry
  rw [h] at hlookup
  have hmem : entry ∈ Symbol.builtin ++ settings.symbolEntries := SymbolTable.mem_of_lookup hlookup
  rw [List.mem_append] at hmem
  cases hmem with
  | inl hmem => exact List.all_eq_true.1 hbuiltin entry hmem
  | inr hmem =>
    obtain ⟨extra, _, rfl⟩ := List.mem_map.1 hmem
    unfold SymbolEntry.ofSetting
    split
    . exact hothers _ rfl rfl
    . exact hothers _ rfl rfl

theorem Binding.exists_lookup_of_symbolAt? {binding : Binding} {place : Place} {entry : SymbolEntry}
    (h : binding.symbolAt? place = some entry) :
    ∃ name kind, binding.scope.lookup name kind = some entry := by
  unfold symbolAt? symbol? at h
  split at h
  . unfold Scope.lookupAttribute at h
    dsimp only at h
    split at h
    . exact ⟨_, _, h⟩
    . rw [Option.or_eq_some_iff] at h
      cases h with
      | inl h => exact ⟨_, _, h⟩
      | inr h => exact ⟨_, _, h.2⟩
  . exact ⟨_, _, h⟩
  . split at h
    . cases h
    . exact ⟨_, _, h⟩
  . cases h

theorem BoundFile.qualify_eq (file : BoundFile) (space name : String) :
    file.qualify space name = name ∨ file.qualify space name = space ++ "." ++ name := by
  unfold qualify
  split
  . exact .inl rfl
  . exact .inr rfl

theorem Source.mem_indentationAt {source : Source} {offset : Int} {c : Char}
    (h : c ∈ (source.indentationAt offset).toList) : c = ' ' ∨ c = '\t' := by
  rw [indentationAt, String.toList_ofList] at h
  simpa using List.all_eq_true.1 List.all_takeWhile c h

/-- The indentation is that of the line on which an offset is. -/
example : (Source.ofString "  a\n\tb" none).indentationAt 5 = "\t" := by
  decide +kernel

/-! ### The edits of the fixes -/

variable {file : BoundFile} {place : Place} {hit : Hit} {fix : Fix}

theorem AsyncVoid.edits_eq (h : matcher file place = .ok (some hit))
    (hfix : hit.fix = .ok (some fix)) :
    ∃ head result, place.node.form = .methodDecl head ∧ head.returnType = some ("void", result) ∧
      fix.edits = [⟨result.start, result.stop, file.qualify Symbol.tasks "Task"⟩] := by
  obtain ⟨head, result, hform, hresult, _, hfixes⟩ := matcher_eq_ok h
  exact ⟨head, result, hform, hresult, hfixes fix hfix⟩

theorem CommandHandler.edits_eq (h : matcher file place = .ok (some hit))
    (hfix : hit.fix = .ok (some fix)) :
    ∃ body ∈ place.node.children, body.kind = .block ∧ fix.edits = [assertion file body] := by
  obtain ⟨_, body, _, hbody, hkind, _, _, hfixes⟩ := matcher_eq_ok h
  exact ⟨body, methodBody?_mem hbody, hkind, hfixes fix hfix⟩

theorem ServiceLookup.edits_eq (h : matcher file place = .ok (some hit))
    (hfix : hit.fix = .ok (some fix)) :
    place.node.kind = .localDecl ∧ ∃ part ∈ place.node.children, ∃ name extent,
      part.form = .variableDeclarator name extent ∧
      fix.edits = [⟨place.node.extent.stop, place.node.extent.stop,
        "\n" ++ file.indentationOf place.node ++ file.qualify "Microsoft" "Assumes.Present" ++ "(" ++
          name ++ ");"⟩] := by
  obtain ⟨hkind, _, _, _, part, hpart, name, extent, hform, _, _, hfixes⟩ | ⟨_, _, hnone⟩ :=
    matcher_eq_ok h
  . refine ⟨hkind, part, hpart, name, extent, hform, ?_⟩
    rw [hfixes fix hfix]
    simp only [String.append_assoc]
  . rw [hnone] at hfix
    cases hfix

theorem PackageBase.edits_eq (h : matcher file place = .ok (some hit))
    (hfix : hit.fix = .ok (some fix)) :
    ∃ head base offset, place.node.form = .classDecl head ∧ oldBase? file.binding.scope head = some base ∧
      Text.lastOffset? base.entry.shortName.toList (file.source.slice base.extent).toList
        = some offset ∧
      fix.edits = [⟨base.extent.start + offset,
        base.extent.start + offset + base.entry.shortName.length, base.replacement⟩] := by
  obtain ⟨head, base, hform, hbase, _, hmade⟩ := matcher_eq_ok h
  rw [hmade] at hfix
  unfold PackageBase.fix at hfix
  extract_lets name at hfix
  cases hoffset : Text.lastOffset? name.toList (file.source.slice base.extent).toList with
  | none =>
    rw [hoffset] at hfix
    cases hfix
  | some offset =>
    rw [hoffset] at hfix
    exact ⟨head, base, offset, hform, hbase, hoffset, Fix.edits_of_ofEdits hfix⟩

theorem PackageBase.oldBase?_eq_some {scope : Scope} {head : TypeHead} {base : OldBase}
    (h : oldBase? scope head = some base) :
    base.entry.replacement = some base.replacement ∧
      ∃ written, scope.lookup (some written) (some .type) = some base.entry := by
  unfold oldBase? at h
  obtain ⟨⟨⟨written, extent⟩, found⟩, hmem, h⟩ := List.exists_of_findSome?_eq_some h
  simp only [Option.bind_eq_bind, Option.bind_eq_some_iff] at h
  obtain ⟨entry, rfl, replacement, hreplacement, heq⟩ := h
  cases heq
  constructor
  . unfold replacement? at hreplacement
    simp only [Option.bind_eq_bind, Option.bind_eq_some_iff] at hreplacement
    obtain ⟨_, _, hfilter⟩ := hreplacement
    exact (Option.filter_eq_some_iff.1 hfilter).1
  . obtain ⟨base, _, hlookup⟩ := List.mem_map.1 (List.of_mem_zip hmem).2
    exact ⟨base.1, hlookup⟩

theorem BackgroundLoad.edits_eq (h : matcher file place = .ok (some hit))
    (hfix : hit.fix = .ok (some fix)) :
    ∃ registration ∈ place.node.children, registration.kind = .attributeUse ∧
      fix.edits = [edit registration (setting? registration)] := by
  obtain ⟨registration, hmem, hkind, _, _, hfixes⟩ := matcher_eq_ok h
  exact ⟨registration, hmem, hkind, hfixes fix hfix⟩

theorem BlockingWait.edits_eq (h : matcher file place = .ok (some hit))
    (hfix : hit.fix = .ok (some fix)) :
    place.mayAwait = true ∧ ∃ text,
      awaiting? file place (file.binding.symbolAt? place) = .ok (some text) ∧
      fix.edits = [⟨place.node.extent.start, place.node.extent.stop, text⟩] :=
  (matcher_eq_ok h).2 fix hfix

/-! ### What a wait is made of -/

/-- Nothing is unwrapped where nothing is wrapped. -/
theorem Node.unwrap?_eq {node : Node} (h : unwrap?.isWrapper node.form = false) :
    node.unwrap? = some node := by
  obtain ⟨form, extent, trivia, designation, children⟩ := node
  dsimp only at h
  unfold unwrap?
  rw [if_neg (by simp [h])]

theorem Node.receiver?_mem {root node found : Node} (hmem : node ∈ root.preorder)
    (h : node.receiver? = some found) : found ∈ root.preorder := by
  unfold receiver? at h
  split at h
  . exact mem_preorder_of_mem_children hmem (List.mem_of_head? h)
  . split at h
    . next callee hcallee =>
      split at h
      . have hcallee := mem_preorder_of_mem_children hmem (List.mem_of_head? hcallee)
        exact mem_preorder_of_mem_children hcallee (List.mem_of_head? h)
      . cases h
    . cases h
  . cases h

namespace BlockingWait

theorem awaiterReceiver?_mem {root node found : Node} (hmem : node ∈ root.preorder)
    (h : awaiterReceiver? node = some found) : found ∈ root.preorder := by
  unfold awaiterReceiver? at h
  simp only [Option.bind_eq_bind, Option.bind_eq_some_iff] at h
  obtain ⟨_, _, inner, hinner, _, _, callee, hcallee, h⟩ := h
  have hinner := Node.receiver?_mem hmem hinner
  have hcallee := Node.mem_preorder_of_mem_children hinner (List.mem_of_head? hcallee)
  split at h
  . cases h
    exact Node.mem_preorder_of_mem_children hcallee (List.mem_cons_self ..)
  . cases h

theorem onlyExpression?_mem {root block found : Node} (hmem : block ∈ root.preorder)
    (h : onlyExpression? block = some found) : found ∈ root.preorder := by
  unfold onlyExpression? at h
  split at h
  . next statement hchildren =>
    split at h
    . have hstatement : statement ∈ root.preorder :=
        Node.mem_preorder_of_mem_children hmem (by simp [hchildren])
      exact Node.mem_preorder_of_mem_children hstatement (List.mem_of_head? h)
    . cases h
  . cases h

theorem inlineBody?_mem {root node found : Node} (hmem : node ∈ root.preorder)
    (h : inlineBody? node = some found) : found ∈ root.preorder := by
  unfold inlineBody? at h
  split at h
  . simp only [Option.bind_eq_bind, Option.bind_eq_some_iff] at h
    obtain ⟨_, _, body, hbody, h⟩ := h
    have hbody := Node.mem_preorder_of_mem_children hmem (List.mem_of_head? hbody)
    split at h
    . split at h
      . obtain ⟨result, hresult, h⟩ := Option.bind_eq_some_iff.1 h
        obtain ⟨_, _, h⟩ := Option.bind_eq_some_iff.1 h
        have hresult := onlyExpression?_mem hbody hresult
        exact Node.mem_preorder_of_mem_children hresult (List.mem_of_head? h)
      . rw [Option.bind_some] at h
        obtain ⟨_, _, h⟩ := Option.bind_eq_some_iff.1 h
        exact Node.mem_preorder_of_mem_children hbody (List.mem_of_head? h)
    . obtain ⟨_, _, h⟩ := Option.bind_eq_some_iff.1 h
      cases h
      exact hbody
  . cases h

end BlockingWait

/--
What the text that awaits in place of a wait is made of: an operand that the tree has, how long to
wait, or the wait itself with the name of another method.
-/
inductive BlockingWait.Writes (file : BoundFile) (root : Node) (place : Place)
    (entry : SymbolEntry) : String → Prop where
  | operand (operand : Node) (mem : operand ∈ root.preorder) :
    Writes file root place entry (awaitText file.source operand place)
  | delay (duration : Node) (mem : duration ∈ root.preorder)
    (strategy : entry.strategy = some .delay) :
    Writes file root place entry (awaitWritten (file.qualify Symbol.tasks
      (entry.replacement.getD "") ++ "(" ++ file.textOf duration ++ ")") place)
  | combined (callee : Node) (called : String) (name : Extent) (isConditional : Bool)
    (typeArguments : Option (List String)) (mem : callee ∈ place.node.children)
    (form_eq : callee.form = .memberAccess called name isConditional typeArguments)
    (strategy : entry.strategy = some .whenAll ∨ entry.strategy = some .whenAny) :
    Writes file root place entry ("await " ++
      file.source.slice ⟨place.node.extent.start, name.start⟩ ++
      Text.lastSegment (entry.replacement.getD "") ++
      file.source.slice ⟨name.stop, place.node.extent.stop⟩)

namespace BlockingWait

variable {root : Node} {entry : SymbolEntry} {text : String}

theorem writes_of_combined?
    (hstrategy : entry.strategy = some .whenAll ∨ entry.strategy = some .whenAny)
    (h : combined? file place (entry.replacement.getD "") = .ok (some text)) :
    Writes file root place entry text := by
  unfold combined? at h
  extract_lets node at h
  split at h
  . next called name isConditional typeArguments _ _ _ _ hcallee =>
    have hmem := List.mem_of_head? hcallee
    split at h
    . split at h
      . cases h
      . extract_lets front back written at h
        have hwritten : ∀ done, written done = .ok (some text) →
            Writes file root place entry text := by
          rintro ⟨⟩ hdone
          cases hdone
          exact .combined _ called name isConditional typeArguments hmem rfl hstrategy
        clear_value written
        split at h
        . split at h
          . cases h
          . split at h
            . cases h
            . exact hwritten _ h
        . exact hwritten _ h
    . cases h
  . cases h

theorem mem_of_mem_arguments (hmem : place.node ∈ root.preorder) {argument : Node}
    (h : argument ∈ awaitingBy?.arguments place) : argument ∈ root.preorder := by
  unfold awaitingBy?.arguments at h
  split at h
  . exact Node.mem_preorder_of_mem_children hmem (List.mem_of_mem_drop h)
  . cases h

theorem writes_of_awaiting? (hmem : place.node ∈ root.preorder) {found : Option SymbolEntry}
    (h : awaiting? file place found = .ok (some text)) :
    ∃ entry, found = some entry ∧ Writes file root place entry text := by
  unfold awaiting? at h
  split at h
  . cases h
  . next entry =>
    refine ⟨entry, rfl, ?_⟩
    split at h
    . cases h
    . next strategy hstrategy =>
      unfold awaitingBy? at h
      split at h
      case h_1 =>
        obtain ⟨_, _, h⟩ := Option.bind_eq_some_iff.1 (Except.ok.inj h)
        obtain ⟨receiver, hreceiver, h⟩ := Option.bind_eq_some_iff.1 h
        cases h
        exact .operand receiver (Node.receiver?_mem hmem hreceiver)
      case h_2 =>
        obtain ⟨_, _, h⟩ := Option.bind_eq_some_iff.1 (Except.ok.inj h)
        obtain ⟨task, htask, h⟩ := Option.bind_eq_some_iff.1 h
        cases h
        exact .operand task (Node.mem_preorder_of_mem_children hmem (List.mem_of_head? htask))
      case h_3 =>
        obtain ⟨awaiter, hawaiter, h⟩ := Option.bind_eq_some_iff.1 (Except.ok.inj h)
        cases h
        exact .operand awaiter (awaiterReceiver?_mem hmem hawaiter)
      case h_4 => exact writes_of_combined? (.inl hstrategy) h
      case h_5 => exact writes_of_combined? (.inr hstrategy) h
      case h_6 =>
        split at h
        . next delegate hdelegate =>
          obtain ⟨body, hbody, h⟩ := Option.bind_eq_some_iff.1 (Except.ok.inj h)
          cases h
          have hmem := mem_of_mem_arguments hmem (hdelegate ▸ List.mem_singleton_self delegate)
          exact .operand body (inlineBody?_mem hmem hbody)
        . cases h
      case h_7 =>
        split at h
        . next duration hduration =>
          have hmem := mem_of_mem_arguments hmem (hduration ▸ List.mem_singleton_self duration)
          cases h
          exact .delay duration hmem hstrategy
        . cases h

end BlockingWait

/--
Whether an edit lengthens a name at the front of a token: the name stands there, or it is all of the
token but for the mark that lets a keyword be a name.
-/
structure AsyncNaming.Renames (source : Source) (tokens : Array Token) (name : String)
    (edit : Edit) : Prop where
  onToken : OnToken tokens edit
  replacement_eq : edit.replacement = name ++ ending
  written : source.slice ⟨edit.start.toNat, edit.stop.toNat⟩ = name ∨
    ∃ index, (tokenAt tokens index).isIdentifier = true ∧
      (tokenAt tokens index).identifierName = name ∧
      edit.start = startAt tokens index ∧ edit.stop = stopAt tokens index

/-- The fix for a method is made of one edit for its name and one for each mention. -/
theorem AsyncNaming.exists_head (h : matcher file place = .ok (some hit))
    (hfix : hit.fix = .ok (some fix)) :
    ∃ head, place.node.form = .methodDecl head ∧ hit.span.extent = head.nameExtent ∧
      fix.edits = distinctEdits
        (⟨head.nameExtent.start, head.nameExtent.stop, head.name ++ ending⟩ ::
          mentionEdits file head.name (scopeOf place)) := by
  obtain ⟨head, hform, hspan, _, heq⟩ := matcher_eq_ok h
  rw [heq] at hfix
  unfold AsyncNaming.fix at hfix
  extract_lets renamed scope declaration at hfix
  split at hfix
  . cases hfix
  . exact ⟨head, hform, hspan, Fix.edits_of_ofEdits hfix⟩

theorem AsyncNaming.edits_eq {root : Node} {tokens : List Token}
    (hsited : Sited file.source tokens root) (hplace : place.Within root)
    (h : matcher file place = .ok (some hit)) (hfix : hit.fix = .ok (some fix)) :
    ∃ name, Token.IsWord name ∧
      ∀ edit ∈ fix.edits, Renames file.source tokens.toArray name edit := by
  obtain ⟨head, hform, _, hedits⟩ := exists_head h hfix
  obtain ⟨index, _, hname, _⟩ := hsited.methodDecl hplace.node hform
  have hword := hsited.isWord_of_isName hname
  refine ⟨head.name, hword, ?_⟩
  rw [hedits]
  refine (distinctEdits_apart ?_).1
  intro edit hedit
  rw [List.mem_cons] at hedit
  cases hedit with
  | inl heq =>
    rw [heq]
    refine ⟨onToken_of_isName hsited hname, rfl, .inr ⟨index, ?_⟩⟩
    obtain ⟨hidentifier, hnamed, hextent⟩ := hname
    refine ⟨hidentifier, hnamed.symm, ?_⟩
    rw [hextent]
    exact ⟨rfl, rfl⟩
  | inr hmem =>
    have honToken :=
      onToken_of_mem_mentionEdits hsited rfl hword (scopeOf_mem hplace) edit hmem
    obtain ⟨start, _, hedit⟩ := List.mem_filterMap.1 hmem
    dsimp only at hedit
    split at hedit
    . next hslice =>
      cases hedit
      exact ⟨honToken, rfl, .inl hslice⟩
    . cases hedit

end ThreadLint
