import ThreadLint.Proofs.Symbol
import ThreadLint.Proofs.Symbol.NormalForm
import ThreadLint.Proofs.Tree.Naming
import ThreadLint.Proofs.Tree.Walk

/-!
This module contains that the tags and the symbol of a node, which are looked up apart from each other,
agree. The names by which nodes refer to symbols are made of words and dots, so bringing them into
their normal form changes nothing, however often it is done. The tags are then those of the symbol,
except for calls of methods of the file whose result is awaited.
-/

namespace ThreadLint

/-! ### Names of words -/

namespace Symbol

/--
Whether a name is made of the characters of words and of dots.
-/
structure IsDotted (name : String) : Prop where
  ne_empty : name ≠ ""
  chars : ∀ c ∈ name.toList, Token.continuesWord c = true ∨ c = '.'

variable {name front : String}

theorem IsDotted.of_isWord (h : Token.IsWord name) : IsDotted name := by
  constructor
  case ne_empty =>
    rintro rfl
    exact absurd h.length_pos (by decide)
  case chars => exact fun c hc => .inl (h.continues hc)

theorem IsDotted.member (h : IsDotted front) (hname : Token.IsWord name) :
    IsDotted (front ++ "." ++ name) := by
  constructor
  case ne_empty =>
    intro heq
    have hlength := congrArg String.length heq
    have := hname.length_pos
    rw [String.length_append, String.length_empty] at hlength
    omega
  case chars =>
    intro c hc
    rw [String.toList_append, String.toList_append, List.mem_append, List.mem_append] at hc
    rcases hc with (hc | hc) | hc
    . exact h.chars c hc
    . exact .inr (List.mem_singleton.1 hc)
    . exact .inl (hname.continues hc)

theorem IsDotted.not_mem (h : IsDotted name) {c : Char} (hword : Token.continuesWord c = false)
    (hdot : c ≠ '.') : c ∉ name.toList := by
  intro hmem
  cases h.chars c hmem with
  | inl hcontinues =>
    rw [hword] at hcontinues
    cases hcontinues
  | inr heq => exact hdot heq

theorem IsDotted.isNormal (h : IsDotted name) : IsNormal name := by
  constructor
  case notBlank =>
    intro c hc
    cases h.chars c hc with
    | inl hcontinues => exact Token.isBlank_of_continuesWord hcontinues
    | inr heq =>
      rw [heq]
      decide
  case noColon => exact h.not_mem (by decide) (by decide)
  case noPair =>
    rintro ⟨front, inside, back, heq, _⟩
    apply h.not_mem (c := '<') (by decide) (by decide)
    rw [heq]
    simp
  case noMark =>
    intro hlast
    exact h.not_mem (by decide) (by decide) (List.mem_of_getLast? hlast)

end Symbol

namespace Sited

open ThreadLint.Parser

variable {source : Source} {tokens : List Token} {root : Node} (h : Sited source tokens root)

include h

theorem isWord_identifierName {index : Nat}
    (hbegins : BeginsName (tokenAt tokens.toArray index) = true) :
    Token.IsWord (tokenAt tokens.toArray index).identifierName := by
  by_cases hidentifier : (tokenAt tokens.toArray index).isIdentifier = true
  . exact h.isWord_of_isName ⟨hidentifier, rfl, rfl⟩
  . have hword := isWord_of_beginsName hbegins hidentifier
    rwa [Token.identifierName_of_isWord hword]

/-- The name of an expression is dotted, since no type or pattern has a part in it. -/
theorem isDotted_of_dottedName? {node : Node} (hmem : node ∈ root.preorder)
    (hvalue : IsValue node.form) {name : String} (hname : node.dottedName? = some name) :
    Symbol.IsDotted name := by
  have hhead {head : Node} {rest : List Node} (hchildren : node.children = head :: rest)
      (hvalued : HasValueHead node.children) {name : String} (hname : head.dottedName? = some name) :
      Symbol.IsDotted name := by
    have : head.size < node.size := by
      rw [node.size_eq, hchildren, Node.forestSize]
      omega
    have hchild : head ∈ node.children := by
      rw [hchildren]
      exact List.mem_cons_self
    have hhead : head ∈ node.children.head? := by
      rw [hchildren]
      rfl
    exact isDotted_of_dottedName? (Node.mem_preorder_of_mem_children hmem hchild)
      (hvalued head hhead) hname
  unfold Node.dottedName? at hname
  split at hname
  . next written role _ _ _ _ =>
    obtain ⟨_, _, _, _, _, hmentions⟩ := h.fits hmem rfl (by simp [Form.kind])
    cases role with
    | name =>
      split at hname
      . cases hname
      . cases hname
        rw [hmentions.1]
        exact .of_isWord (h.isWord_identifierName hmentions.2)
    | _ => exact hvalue.elim
  . next written _ _ _ _ _ _ receiver rest =>
    obtain ⟨_, _, _, _, _, _, hisName, _, _, _, hvalued⟩ := h.fits hmem rfl (by simp [Form.kind])
    have hword := h.isWord_of_isName hisName
    split at hname
    . next front hfront =>
      split at hname
      . cases hname
        exact .of_isWord hword
      . cases hname
        exact (hhead rfl hvalued hfront).member hword
    . cases hname
      exact .of_isWord hword
  . obtain ⟨_, _, _, _, _, _, hisName, _⟩ := h.fits hmem rfl (by simp [Form.kind])
    cases hname
    exact .of_isWord (h.isWord_of_isName hisName)
  . next callee rest =>
    obtain ⟨_, _, _, _, _, _, _, _, hvalued⟩ := h.fits hmem rfl (by simp [Form.kind])
    exact hhead rfl hvalued hname
  . cases hname
termination_by node.size

theorem isDotted_of_target? {node : Node} (hmem : node ∈ root.preorder) {isCallee : Bool}
    {target : String} (htarget : Binding.target? node isCallee = some target) :
    Symbol.IsDotted target := by
  unfold Binding.target? at htarget
  split at htarget
  . next hform =>
    obtain ⟨callee, hcallee, hname⟩ := Option.bind_eq_some_iff.1 htarget
    obtain ⟨_, _, _, _, _, _, _, _, hvalued⟩ := h.fits hmem hform (by simp [Form.kind])
    exact h.isDotted_of_dottedName?
      (Node.mem_preorder_of_mem_children hmem (List.mem_of_head? hcallee)) (hvalued callee hcallee) hname
  . next hform =>
    split at htarget
    . cases htarget
    . exact h.isDotted_of_dottedName? hmem (by rw [hform]; trivial) htarget
  . cases htarget

end Sited

/-! ### Methods of the file -/

namespace Node

theorem form_eq_callExpr {node : Node} (h : node.kind = .callExpr) : node.form = .callExpr := by
  unfold kind at h
  cases hform : node.form
  case callExpr => rfl
  all_goals simp [hform, Form.kind] at h

theorem exists_form_eq_memberAccess {node : Node} (h : node.kind = .memberAccess) :
    ∃ name extent isConditional typeArguments,
      node.form = .memberAccess name extent isConditional typeArguments := by
  unfold kind at h
  cases hform : node.form
  case memberAccess => exact ⟨_, _, _, _, rfl⟩
  all_goals simp [hform, Form.kind] at h

end Node

namespace Imports

theorem mem_distinct {names : List String} {name : String} :
    name ∈ distinct names ↔ name ∈ names := by
  have hfold (names found : List String) :
      name ∈ names.foldl (fun found name => if found.contains name then found else name :: found)
        found ↔ name ∈ found ∨ name ∈ names := by
    induction names generalizing found with
    | nil => simp
    | cons first rest ih =>
      rw [List.foldl_cons, ih, List.mem_cons]
      split
      . next hcontains =>
        rw [List.contains_iff_mem] at hcontains
        constructor
        . exact Or.imp_right .inr
        . rintro (hmem | rfl | hmem)
          . exact .inl hmem
          . exact .inl hcontains
          . exact .inr hmem
      . rw [List.mem_cons, or_assoc, or_left_comm]
  rw [distinct, List.mem_reverse, hfold]
  simp

end Imports

/--
Whether a method of a tree with some name is declared to return something to await.
-/
def Node.DeclaresAwaitable (root : Node) (name : String) : Prop :=
  ∃ method ∈ root.preorder, ∃ head result, method.form = .methodDecl head ∧ head.name = name ∧
    head.returnType = some result ∧ Symbol.isAwaitable result.1 = true

/--
Whether a node calls a method of a tree that is declared to return something to await, by its name.
-/
def Node.CallsAwaitable (node root : Node) : Prop :=
  node.kind = .callExpr ∧ ∃ target, Binding.target? node false = some target ∧
    root.DeclaresAwaitable (Symbol.normalize target)

theorem Sited.mem_asyncMethods_iff {source : Source} {tokens : List Token} {root : Node}
    (h : Sited source tokens root) (table : SymbolTable) {name : String} :
    name ∈ (Binding.ofRoot root table).asyncMethods ↔ root.DeclaresAwaitable name := by
  have hmethods : name ∈ (Binding.ofRoot root table).asyncMethods ↔
      ∃ method ∈ root.preorder, name ∈ method.asyncMethods := by
    unfold Binding.ofRoot
    dsimp only
    rw [Imports.mem_distinct, List.mem_flatMap, Node.walk_eq]
  rw [hmethods]
  constructor
  . rintro ⟨method, hmem, hname⟩
    unfold Node.asyncMethods at hname
    split at hname
    . next head hform =>
      split at hname
      . next typeName extent hresult =>
        split at hname
        . next hawaitable =>
          rw [Bool.and_eq_true] at hawaitable
          exact ⟨method, hmem, head, (typeName, extent), hform, (List.mem_singleton.1 hname).symm,
            hresult, hawaitable.2⟩
        . cases hname
      . cases hname
    . cases hname
  . rintro ⟨method, hmem, head, result, hform, rfl, hresult, hawaitable⟩
    refine ⟨method, hmem, ?_⟩
    -- What has a result is no constructor.
    obtain ⟨_, _, _, _, _, _, _, _, hresults⟩ := h.fits hmem hform (by simp [Form.kind])
    unfold Node.asyncMethods
    simp [hform, hresult, hawaitable, (hresults result hresult).2]

/-! ### Names in the scope of a file -/

namespace Scope

variable {scope : Scope} {name : String}

/--
The tags of a name as that of a method of the file.
-/
def ownTags? (scope : Scope) (name : String) (kind : SymbolKind) : Option (List SymbolTag) :=
  if kind = .method then scope.locals.lookup name else none

/-- Unless a name is that of a method of the file, its tags are those of its entry. -/
theorem resolve_eq (h : Symbol.IsDotted name) (kind : SymbolKind) :
    scope.resolve (some name) (some kind) = (scope.ownTags? name kind).getD
      (Traits.ofEntry (scope.lookup (some name) (some kind))).tags := by
  unfold resolve
  dsimp only
  rw [if_neg (by simpa using h.ne_empty), h.isNormal.normalize_eq]
  have hown : (if some kind = none ∨ some kind = some SymbolKind.method
      then scope.locals.lookup name else none) = scope.ownTags? name kind := by
    simp [ownTags?]
  rw [hown]
  cases scope.ownTags? name kind with
  | some tags => rfl
  | none => cases scope.lookup (some name) (some kind) <;> rfl

theorem kind_of_lookup {target : Option String} {kind : SymbolKind} {entry : SymbolEntry}
    (h : scope.lookup target (some kind) = some entry) : entry.kind = kind := by
  obtain ⟨_, _, hlookup⟩ := lookup_eq_some h
  exact beq_iff_eq.1 (SymbolTable.lookup_eq_some hlookup).1

end Scope

namespace Binding

variable {root : Node} {table : SymbolTable} {name : String}

theorem ownTags?_ofRoot (kind : SymbolKind) :
    (ofRoot root table).scope.ownTags? name kind =
      if kind = .method ∧ name ∈ (ofRoot root table).asyncMethods then some [.asyncEntryPoint]
      else none := by
  have hlookup (names : List String) :
      (names.map fun name => (name, [SymbolTag.asyncEntryPoint])).lookup name =
        if name ∈ names then some [.asyncEntryPoint] else none := by
    induction names with
    | nil => rfl
    | cons first rest ih =>
      rw [List.map_cons, List.lookup_cons, ih]
      by_cases heq : name = first
      . simp [heq]
      . simp [heq, beq_eq_false_iff_ne.2 heq]
  unfold Scope.ownTags?
  by_cases hkind : kind = .method
  . simp only [hkind, true_and, if_true]
    exact hlookup _
  . simp [hkind]

/--
Whether the tags of a place are those of its symbol, which is a method if it is called and a property
if it is read.
-/
structure Agrees (binding : Binding) (place : Place) : Prop where
  tags_eq : binding.tagsAt place = (Traits.ofEntry (binding.symbolAt? place)).tags
  isMethod : place.node.kind = .callExpr → ∀ entry ∈ binding.symbolAt? place, entry.kind = .method
  isProperty : place.node.kind = .memberAccess →
    ∀ entry ∈ binding.symbolAt? place, entry.kind = .property

section

variable {source : Source} {tokens : List Token} (h : Sited source tokens root)

include h

theorem resolve_target? (table : SymbolTable) {node : Node} (hmem : node ∈ root.preorder)
    (isCallee : Bool) (kind : SymbolKind) :
    (ofRoot root table).scope.resolve (target? node isCallee) (some kind) =
      if kind = .method ∧ ∃ name ∈ target? node isCallee, name ∈ (ofRoot root table).asyncMethods
      then [.asyncEntryPoint]
      else (Traits.ofEntry ((ofRoot root table).scope.lookup (target? node isCallee) (some kind))).tags := by
  cases htarget : target? node isCallee with
  | none =>
    rw [if_neg (by simp)]
    rfl
  | some name =>
    have hdotted := h.isDotted_of_target? hmem htarget
    rw [Scope.resolve_eq hdotted, ownTags?_ofRoot]
    simp only [Option.mem_def, Option.some.injEq, exists_eq_left']
    split
    . rfl
    . rfl

theorem callsAwaitable_iff (table : SymbolTable) {node : Node} (hmem : node ∈ root.preorder)
    (hkind : node.kind = .callExpr) :
    node.CallsAwaitable root ↔
      ∃ name ∈ target? node false, name ∈ (ofRoot root table).asyncMethods := by
  unfold Node.CallsAwaitable
  constructor
  . rintro ⟨_, target, htarget, hdeclares⟩
    rw [(h.isDotted_of_target? hmem htarget).isNormal.normalize_eq] at hdeclares
    exact ⟨target, htarget, (h.mem_asyncMethods_iff table).2 hdeclares⟩
  . rintro ⟨target, htarget, hasync⟩
    refine ⟨hkind, target, htarget, ?_⟩
    rw [(h.isDotted_of_target? hmem htarget).isNormal.normalize_eq]
    exact (h.mem_asyncMethods_iff table).1 hasync

/-- Unless a call is one of a method of the file that is awaited, its tags are those of its symbol. -/
theorem agrees_of_callExpr (table : SymbolTable) {place : Place}
    (hmem : place.node ∈ root.preorder) (hkind : place.node.kind = .callExpr) :
    (place.node.CallsAwaitable root ∧ (ofRoot root table).tagsAt place = [.asyncEntryPoint]) ∨
      (¬place.node.CallsAwaitable root ∧ (ofRoot root table).Agrees place) := by
  have hform := Node.form_eq_callExpr hkind
  have htarget : target? place.node place.isCallee = target? place.node false := by
    simp only [target?, hform]
  have htags : (ofRoot root table).tagsAt place =
      (ofRoot root table).scope.resolve (target? place.node false) (some .method) := by
    simp only [tagsAt, tags, callTags, hform]
  have hsymbol : (ofRoot root table).symbolAt? place =
      (ofRoot root table).scope.lookup (target? place.node false) (some .method) := by
    simp only [symbolAt?, symbol?, htarget, hform]
  rw [resolve_target? h table hmem] at htags
  by_cases hcalls : place.node.CallsAwaitable root
  . rw [if_pos ⟨rfl, (callsAwaitable_iff h table hmem hkind).1 hcalls⟩] at htags
    exact .inl ⟨hcalls, htags⟩
  . rw [if_neg fun hown => hcalls ((callsAwaitable_iff h table hmem hkind).2 hown.2)] at htags
    refine .inr ⟨hcalls, ?_, ?_, ?_⟩
    . rw [htags, hsymbol]
    . intro _ entry hentry
      rw [hsymbol] at hentry
      exact Scope.kind_of_lookup hentry
    . intro hmember
      rw [hkind] at hmember
      cases hmember

theorem agrees_of_memberAccess (table : SymbolTable) {place : Place}
    (hmem : place.node ∈ root.preorder) (hkind : place.node.kind = .memberAccess)
    (hcallee : place.isCallee = false) : (ofRoot root table).Agrees place := by
  obtain ⟨_, _, _, _, hform⟩ := Node.exists_form_eq_memberAccess hkind
  have htags : (ofRoot root table).tagsAt place =
      (ofRoot root table).scope.resolve (target? place.node false) (some .property) := by
    simp [tagsAt, tags, hform, hcallee]
  have hsymbol : (ofRoot root table).symbolAt? place =
      (ofRoot root table).scope.lookup (target? place.node false) (some .property) := by
    simp [symbolAt?, symbol?, hform, hcallee]
  rw [resolve_target? h table hmem, if_neg (by simp)] at htags
  constructor
  case tags_eq => rw [htags, hsymbol]
  case isMethod =>
    intro hcall
    rw [hkind] at hcall
    cases hcall
  case isProperty =>
    intro _ entry hentry
    rw [hsymbol] at hentry
    exact Scope.kind_of_lookup hentry

end

theorem Agrees.exists_symbol {binding : Binding} {place : Place} (h : binding.Agrees place)
    {tag : SymbolTag} (htag : tag ∈ binding.tagsAt place) :
    ∃ entry, binding.symbolAt? place = some entry ∧ tag ∈ entry.tags := by
  rw [h.tags_eq] at htag
  cases hsymbol : binding.symbolAt? place with
  | none =>
    rw [hsymbol] at htag
    cases htag
  | some entry =>
    rw [hsymbol] at htag
    exact ⟨entry, rfl, htag⟩

/--
In the tree of a text, the tags of a call or of a member that is read are those of its symbol, which is
a method or a property accordingly, unless it is a call by the name of a method of the file that is
declared to return something to await: such a call is always one to await and has no other tag. So what
blocks by its tags has a symbol that blocks.
-/
theorem tags_agree {text : String} {path : Option String} {parsed : Parsed}
    (h : parse text path = .ok parsed) (table : SymbolTable) :
    ∀ place ∈ Place.all parsed.root,
      (place.node.kind = .callExpr ∨ place.node.kind = .memberAccess ∧ place.isCallee = false →
        (place.node.CallsAwaitable parsed.root ∧
            (ofRoot parsed.root table).tagsAt place = [.asyncEntryPoint]) ∨
          (¬place.node.CallsAwaitable parsed.root ∧ (ofRoot parsed.root table).Agrees place)) ∧
      (place.node.kind = .callExpr ∨ place.node.kind = .memberAccess →
        .blockingWait ∈ (ofRoot parsed.root table).tagsAt place →
          ∃ entry, (ofRoot parsed.root table).symbolAt? place = some entry ∧
            .blockingWait ∈ entry.tags) := by
  intro place hplace
  obtain ⟨_, tokens, _, hsited⟩ := parse_sited h
  have hmem := (Place.within_of_mem_all hplace).node
  have hagrees : place.node.kind = .callExpr ∨
      place.node.kind = .memberAccess ∧ place.isCallee = false →
        (place.node.CallsAwaitable parsed.root ∧
            (ofRoot parsed.root table).tagsAt place = [.asyncEntryPoint]) ∨
          (¬place.node.CallsAwaitable parsed.root ∧ (ofRoot parsed.root table).Agrees place) := by
    rintro (hcall | ⟨hmember, hcallee⟩)
    . exact agrees_of_callExpr hsited table hmem hcall
    . refine .inr ⟨?_, agrees_of_memberAccess hsited table hmem hmember hcallee⟩
      rintro ⟨hcall, _⟩
      rw [hmember] at hcall
      cases hcall
  refine ⟨hagrees, ?_⟩
  intro hkind htag
  have hread : place.node.kind = .callExpr ∨
      place.node.kind = .memberAccess ∧ place.isCallee = false := by
    refine hkind.imp_right fun hmember => ⟨hmember, ?_⟩
    -- What is called has no tags of its own.
    obtain ⟨_, _, _, _, hform⟩ := Node.exists_form_eq_memberAccess hmember
    rw [← Bool.not_eq_true]
    intro hcallee
    simp [tagsAt, tags, hform, hcallee] at htag
  cases hagrees hread with
  | inl hown =>
    rw [hown.2] at htag
    simp at htag
  | inr hagrees => exact hagrees.2.exists_symbol htag

/-- A method of the file with the name of a known one that blocks is to be awaited and does not block. -/
theorem tags_agree_own_wait :
    ∃ parsed own read,
      parse "class C \x7b Task Wait(Task<Task> t) \x7b Wait(t); return t.Result; \x7d \x7d" none
        = .ok parsed ∧
      own ∈ Place.all parsed.root ∧ own.node.kind = .callExpr ∧ own.node.CallsAwaitable parsed.root ∧
      ¬(ofRoot parsed.root (.builtin [])).Agrees own ∧
      read ∈ Place.all parsed.root ∧ read.node.kind = .memberAccess ∧ read.isCallee = false ∧
      (ofRoot parsed.root (.builtin [])).Agrees read ∧
      ∃ entry, (ofRoot parsed.root (.builtin [])).symbolAt? read = some entry ∧
        .blockingWait ∈ entry.tags := by
  have hrun :
      (parse "class C \x7b Task Wait(Task<Task> t) \x7b Wait(t); return t.Result; \x7d \x7d"
          none).toOption.map (fun parsed =>
        let binding := ofRoot parsed.root (.builtin [])
        ((Place.all parsed.root).any fun place => place.node.kind == .callExpr &&
          binding.tagsAt place == [.asyncEntryPoint] &&
          (Traits.ofEntry (binding.symbolAt? place)).tags == [.blockingWait]) &&
        (Place.all parsed.root).any fun place => place.node.kind == .memberAccess &&
          !place.isCallee && binding.tagsAt place == [.blockingWait]) = some true := by
    rw [SymbolTable.builtin_eq]
    decide +kernel
  obtain ⟨parsed, hparsed, hplaces⟩ := Option.map_eq_some_iff.1 hrun
  rw [Bool.and_eq_true, List.any_eq_true, List.any_eq_true] at hplaces
  obtain ⟨⟨own, howns, hown⟩, read, hreads, hread⟩ := hplaces
  simp only [Bool.and_eq_true, Bool.not_eq_true', beq_iff_eq] at hown hread
  obtain ⟨⟨hcall, hawaits⟩, hblocks⟩ := hown
  obtain ⟨⟨hmember, hcallee⟩, hwaits⟩ := hread
  have hok := eq_ok_of_toOption hparsed
  have hdiffers : ¬(ofRoot parsed.root (.builtin [])).Agrees own := by
    intro hagrees
    have htags := hagrees.tags_eq
    rw [hawaits, hblocks] at htags
    cases htags
  obtain ⟨hownAgrees, _⟩ := tags_agree hok (.builtin []) own howns
  obtain ⟨hreadAgrees, hreadBlocks⟩ := tags_agree hok (.builtin []) read hreads
  refine ⟨parsed, own, read, hok, howns, hcall, ?_, hdiffers, hreads, hmember, hcallee, ?_, ?_⟩
  . exact ((hownAgrees (.inl hcall)).resolve_right fun hagrees => hdiffers hagrees.2).1
  . refine ((hreadAgrees (.inr ⟨hmember, hcallee⟩)).resolve_left fun hown => ?_).2
    rw [hown.2] at hwaits
    cases hwaits
  . exact hreadBlocks (.inr hmember) (by rw [hwaits]; exact List.mem_singleton_self _)

end Binding

end ThreadLint
