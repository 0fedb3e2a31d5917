import ThreadLint.Proofs.Rebased
import ThreadLint.Proofs.Settled.Await

/-!
This module contains that what a fix replaces is not found again: the type of a handler of events, the
name of a method, the base of a package, and what the registration of a package says.
-/

namespace ThreadLint

open ThreadLint.Parser

/-! ### Handlers of events -/

theorem Sited.result_eq {source : Source} {tokens : List Token} {root node : Node}
    (h : Sited source tokens root) (hmem : node ∈ root.preorder) {head : MethodHead}
    (hform : node.form = .methodDecl head) {result : String × Extent}
    (hresult : result ∈ head.returnType) :
    result.2.start < result.2.stop ∧ result.1 = Text.dropBlanks (source.slice result.2) := by
  have := h.lawful
  obtain ⟨first, stop, hlast, index, _, hindex, _, _, hresults⟩ :=
    h.fits hmem hform (by simp [Form.kind])
  obtain ⟨⟨lo, hi, _, hlt, hhi, hextent, hname⟩, _⟩ := hresults result hresult
  have hsize : Parser.last tokens.toArray < tokens.toArray.size := Parser.last_lt_size
  rw [List.size_toArray] at hsize
  constructor
  . rw [hextent]
    have hfirst : startAt tokens.toArray lo < stopAt tokens.toArray lo :=
      Lawful.start_lt_stop lo (by omega)
    exact Nat.lt_of_lt_of_le hfirst (stop_le_stop (by omega) (by omega))
  . rw [hname, hextent, Parser.spelled_eq_dropBlanks h.tiles hlt (by omega)]
    rfl

theorem AsyncVoid.settles : matcher.Settles rule.kinds fun _ _ _ _ => True := by
  intro root root' tokens tokens' file file' place other hit found fix hfile hplace _ hhit hfix hfile'
    hchars _ hother _ hfound heq
  obtain ⟨head, result, hform, hresult, hspan, hfixes⟩ := matcher_eq_ok hhit
  obtain ⟨head', result', hform', hresult', hspan', _⟩ := matcher_eq_ok hfound
  have hother := Place.within_of_mem_all hother
  obtain ⟨_, hlast⟩ := hfile.sited.nameExtent_le hplace.node (by rw [hform]; rfl)
  obtain ⟨_, _, _, hresults⟩ := hfile.sited.methodDecl hplace.node hform
  have hbounds : result.start ≤ result.stop ∧ result.stop ≤ head.nameExtent.start :=
    hresults _ hresult
  have hedits := hfixes fix hfix
  have hdrop := @Edit.drop_splice_singleton file.source.chars result.start result.stop
    (file.qualify Symbol.tasks "Task") hbounds.1
    (show result.stop ≤ file.source.length by omega)
  rw [← hedits, ← hchars] at hdrop
  have hstart := congrArg Extent.start heq
  rw [hspan, hspan', hedits, Edit.carried] at hstart
  dsimp only at hstart
  rw [Edit.carriedStart_singleton (Nat.le_refl _)] at hstart
  obtain ⟨hlt, hvoid⟩ := hfile'.sited.result_eq hother.node hform' hresult'
  dsimp only at hlt hvoid
  -- What is written where the type begins has a letter that the word `void` has not.
  obtain ⟨c, rest, hqualified, hc⟩ : ∃ c rest, (file.qualify Symbol.tasks "Task").toList = c :: rest ∧
      Text.isBlank c = false ∧ c ∉ "void".toList := by
    cases file.qualify_eq Symbol.tasks "Task" with
    | inl h =>
      rw [h]
      exact ⟨'T', _, rfl, by decide, by decide⟩
    | inr h =>
      rw [h]
      exact ⟨'S', _, rfl, by decide, by decide⟩
  apply hc.2
  rw [hvoid, Text.dropBlanks, String.toList_ofList, List.mem_filter]
  refine ⟨?_, by simp [hc.1]⟩
  obtain ⟨length, hlength⟩ : ∃ length, result'.stop - result'.start = length + 1 :=
    ⟨result'.stop - result'.start - 1, by omega⟩
  have hslice : (file'.source.slice result').toList
      = (file'.source.chars.drop result'.start).take (result'.stop - result'.start) :=
    Text.toList_slice _ _ _
  rw [hslice, hlength, hstart, hdrop, hqualified]
  exact List.mem_cons_self ..

/-! ### Names of methods -/

namespace AsyncNaming

theorem mem_foldl_keepNew {edits kept : List Edit} {edit : Edit} (h : edit ∈ kept) :
    edit ∈ edits.foldl keepNew kept := by
  induction edits generalizing kept with
  | nil => exact h
  | cons other rest ih =>
    rw [List.foldl_cons]
    apply ih
    unfold keepNew
    split
    . exact h
    . exact List.mem_append_left _ h

/-- The first of some edits is not left out. -/
theorem mem_distinctEdits_head {edit : Edit} {edits : List Edit} :
    edit ∈ distinctEdits (edit :: edits) := by
  rw [(distinctEdits_perm _).mem_iff, List.foldl_cons]
  apply mem_foldl_keepNew
  unfold keepNew
  rw [if_neg (by simp), List.nil_append]
  exact List.mem_singleton_self edit

theorem settles : matcher.Settles rule.kinds fun _ _ _ _ => True := by
  intro root root' tokens tokens' file file' place other hit found fix hfile hplace _ hhit hfix hfile'
    hchars _ hother _ hfound heq
  have := hfile.sited.lawful
  obtain ⟨head, hform, hspan, hedits⟩ := exists_head hhit hfix
  obtain ⟨head', hform', hspan', hending, _⟩ := matcher_eq_ok hfound
  have honToken {edit : Edit} (hedit : edit ∈ fix.edits) : OnToken tokens.toArray edit :=
    onToken_of_mem_edits hfile.sited hplace hform hedits hedit
  obtain ⟨front, back, hsplice, hstart, hstop⟩ := Edit.exists_splice_eq
    (fun edit hedit => (honToken hedit).inside hfile.sited.tiles) fix.compatible
    (fun edit hedit => by
      obtain ⟨_, _, _, hlt, _⟩ := honToken hedit
      exact hlt)
    (hedits ▸ mem_distinctEdits_head)
  rw [← hchars] at hsplice
  obtain ⟨index, hindex, ⟨_, hname, hextent⟩, _⟩ :=
    hfile'.sited.methodDecl (Place.within_of_mem_all hother).node hform'
  rw [hspan, hspan', hextent, Edit.carried, hstart, hstop] at heq
  have htoken := tokenAt_mem_of_tiles hfile'.sited.tiles (Nat.le_of_lt hindex)
  -- The token where the name is carried is the new name.
  have htext : (tokenAt tokens'.toArray index).text = head.name ++ ending := by
    have hslice := (hfile'.sited.tiles.text_eq htoken).2
    obtain ⟨hfirst, hlast⟩ := Extent.mk.inj heq
    rw [hfirst, hlast] at hslice
    apply String.toList_injective
    rw [hslice, Text.toList_slice, hsplice, List.drop_left, Nat.add_sub_cancel_left,
      ← String.length_toList, List.take_left]
  have hword : Token.IsWord (tokenAt tokens'.toArray index).text := by
    rw [htext]
    exact isWord_renamed (isWord_name hfile.sited hplace hform)
  rw [hname, Token.identifierName_of_isWord hword, htext] at hending
  have hends : Text.endsWith (head.name ++ ending) ending = true := by
    unfold Text.endsWith
    rw [List.isSuffixOf_iff_suffix, String.toList_append]
    exact List.suffix_append _ _
  rw [hends] at hending
  cases hending

end AsyncNaming

/-! ### Bases of packages -/

namespace PackageBase

open ThreadLint.Symbol

variable {file : BoundFile} {place : Place} {hit : Hit}

/-- A hit is a base that leads to the package that is to be replaced. -/
theorem exists_oldPackage {tokens : List Token} {root : Node} (hfile : file.IsOf tokens root)
    (h : matcher file place = .ok (some hit)) :
    ∃ head base, place.node.form = .classDecl head ∧ base ∈ head.bases ∧ hit.span.extent = base.2 ∧
      file.binding.scope.lookup (some base.1) (some .type) = some oldPackage ∧
      ∀ fix, hit.fix = .ok (some fix) → ∃ start stop,
        fix.edits = [⟨start, stop, newPackage.shortName⟩] := by
  obtain ⟨head, base, hform, hbase, hspan, _⟩ := matcher_eq_ok h
  obtain ⟨hreplacement, hlookup⟩ := lookup_of_oldBase? hbase
  obtain ⟨hold, hnew⟩ := eq_of_replacement? _ (hfile.mem_builtin hlookup) _ hreplacement
  refine ⟨head, _, hform, oldBase?_mem hbase, hspan, hold ▸ hlookup, ?_⟩
  intro fix hfix
  obtain ⟨head', base', _, hform', hbase', _, hedits⟩ := edits_eq h hfix
  cases hform.symm.trans hform'
  cases hbase.symm.trans hbase'
  exact ⟨_, _, hnew ▸ hedits⟩

/--
Whether the name that a fix writes is looked up for each base in an extent.
-/
def IsRead (extent : Extent) (edits : List Edit) (file : BoundFile) (root : Node) : Prop :=
  ∀ type ∈ TypeTable.declarations root, ∀ base ∈ type.2.bases, base.2 = extent →
    ∃ edit ∈ edits, edit.replacement.toList <:+: (file.binding.scope.lookedUp base.1).toList

/-- The name of the package that is replaced does not have that of the replacement in it. -/
theorem not_infix_oldPackage : ¬ newPackage.shortName.toList <:+: oldPackage.name.toList := by
  decide

theorem settles : matcher.Settles rule.kinds IsRead := by
  intro root root' tokens tokens' file file' place other hit found fix hfile _ _ hhit hfix hfile' _
    hread hother _ hfound heq
  obtain ⟨_, _, _, _, _, _, hfixes⟩ := exists_oldPackage hfile hhit
  obtain ⟨start, stop, hedits⟩ := hfixes fix hfix
  obtain ⟨head, base, hform, hbase, hspan, hlookup, _⟩ := exists_oldPackage hfile' hfound
  have htype : (other.node, head) ∈ TypeTable.declarations root' :=
    TypeTable.mem_declarations_iff.2 ⟨(Place.within_of_mem_all hother).node, hform⟩
  obtain ⟨edit, hedit, hinfix⟩ := hread _ htype base hbase (hspan ▸ heq)
  rw [hedits, List.mem_singleton] at hedit
  rw [hedit] at hinfix
  obtain ⟨hne, hlookedUp⟩ := Scope.ne_empty_of_lookup hlookup
  rw [Scope.lookup_type_eq (by rw [hfile'.binding]; rfl) hne hlookedUp] at hlookup
  obtain ⟨whole, hwhole, hnamed⟩ := List.exists_of_findSome?_eq_some hlookup
  rw [SymbolTable.wholeNames_eq, List.mem_map] at hwhole
  obtain ⟨space, _, rfl⟩ := hwhole
  apply not_infix_oldPackage
  rw [(SymbolTable.named?_eq_some hnamed).2.1, String.toList_append]
  exact hinfix.trans (List.suffix_append _ _).isInfix

end PackageBase

/-! ### Registrations of packages -/

namespace BackgroundLoad

variable {file file' : BoundFile} {root root' : Node} {tokens tokens' : List Token} {place : Place}
  {hit : Hit}

/--
Whether the word `true` that a fix writes is read as the literal that is assigned to the property in the
attribute with an extent.
-/
def IsRead (extent : Extent) (edits : List Edit) (_ : BoundFile) (root : Node) : Prop :=
  ∃ registration ∈ root.preorder, registration.kind = .attributeUse ∧ registration.extent = extent ∧
    ∃ argument ∈ setting? registration, ∃ value ∈ argument.children.getLast?, value.kind = .literal ∧
      ∃ edit ∈ edits, ∃ front back : List Char,
        edit.replacement.toList = front ++ ("true".toList ++ back) ∧
          value.extent = ⟨edit.start.toNat + front.length, edit.start.toNat + front.length + 4⟩

/-- A literal that is written as the word `true` has that value. -/
theorem isOn_of_literal (hsited : Sited file.source tokens root) {argument value : Node}
    (hvalue : value ∈ argument.children.getLast?) (hmem : argument ∈ root.preorder)
    (hkind : value.kind = .literal)
    (hslice : (file.source.chars.drop value.extent.start).take 4 = "true".toList)
    (hlength : value.extent.stop = value.extent.start + 4) : isOn argument = true := by
  have := hsited.lawful
  have hmem := Node.mem_preorder_of_mem_children hmem (List.mem_of_getLast? hvalue)
  obtain ⟨first, stop, hwhole⟩ := hsited.whole hmem (by simp [hkind])
  obtain ⟨hlt, hlast, hextent, hfits, _⟩ := whole_iff.1 hwhole
  have htoken := tokenAt_mem_of_tiles hsited.tiles (show first ≤ last tokens.toArray by omega)
  have hstart : value.extent.start = startAt tokens.toArray first := by
    rw [hextent, extentOf]
  have hstop : value.extent.stop = stopAt tokens.toArray (stop - 1) := by
    rw [hextent, extentOf]
  -- The word is a token of its own, as the literal ends behind it.
  have hword : "true".length ≤ (tokenAt tokens.toArray first).text.length := by
    apply hsited.tiles.length_le_of_slice htoken (not_isEnd_of_lt_last (by omega))
      (show Token.IsWord "true" by decide)
    apply String.toList_injective
    rw [Text.toList_slice, Nat.add_sub_cancel_left]
    rw [hstart] at hslice
    exact hslice
  have hbehind : stopAt tokens.toArray first
      = startAt tokens.toArray first + (tokenAt tokens.toArray first).text.length := rfl
  have hfour : "true".length = 4 := rfl
  have hle : stopAt tokens.toArray first ≤ stopAt tokens.toArray (stop - 1) :=
    stop_le_stop (by omega) (by omega)
  have hsingle : first = stop - 1 :=
    stop_inj (show stopAt tokens.toArray first = stopAt tokens.toArray (stop - 1) by omega)
      (by omega) (by omega)
  have htext : (tokenAt tokens.toArray first).text = "true" := by
    apply String.toList_injective
    rw [hsited.tiles.text_toList htoken, show (tokenAt tokens.toArray first).text.length = 4 by omega]
    rw [hstart] at hslice
    exact hslice
  obtain ⟨kind, written, hform⟩ : ∃ kind written, value.form = .literal kind written := by
    unfold Node.kind at hkind
    cases hform : value.form
    case literal kind written => exact ⟨kind, written, rfl⟩
    all_goals simp [hform, Form.kind] at hkind
  rw [hform] at hfits
  have hwritten : written = "true" := (hfits.2 (by omega)).trans htext
  unfold isOn
  rw [hvalue, Option.bind_some, Node.unwrap?_eq (by rw [hform]; rfl)]
  obtain ⟨form, extent, trivia, designation, children⟩ := value
  cases hform
  rw [hwritten]
  rfl

theorem settles : matcher.Settles rule.kinds IsRead := by
  intro root root' tokens tokens' file file' place other hit found fix hfile hplace _ hhit hfix hfile'
    hchars hread hother _ hfound heq
  obtain ⟨registration, hregistration, _, _, _, hfixes⟩ := matcher_eq_ok hhit
  obtain ⟨registration', hregistration', hkind', hspan', hoff, _⟩ := matcher_eq_ok hfound
  have hother := (Place.within_of_mem_all hother).node
  have hmem := Node.mem_preorder_of_mem_children hother hregistration'
  obtain ⟨target, htarget, hkind, hextent, argument, hargument, value, hvalue, hliteral, edit,
    hedit, front, back, hreplacement, hvalueExtent⟩ := hread
  obtain rfl : target = registration' := by
    by_contra hne
    exact hfile'.sited.ne_of_owns htarget hmem (by simp [hkind]) (by simp [hkind']) hne
      (hfile'.sited.owns_extent htarget (by simp [hkind]))
      (hfile'.sited.owns_extent hmem (by simp [hkind'])) (hextent.trans (heq.symm.trans hspan'))
  have hinside := edit_inside hfile.sited
    (Node.mem_preorder_of_mem_children hplace.node hregistration)
  have hedits := hfixes fix hfix
  rw [hedits, List.mem_singleton] at hedit
  have hon : isOn argument = true := by
    apply isOn_of_literal hfile'.sited hvalue
      (Node.mem_preorder_of_mem_children htarget (setting?_mem hargument)) hliteral
    . rw [hvalueExtent, hchars, hedits, ← hedit]
      exact Edit.take_drop_splice (hedit ▸ hinside) hreplacement
    . rw [hvalueExtent]
  rw [hargument, Option.any_some, hon] at hoff
  cases hoff

end BackgroundLoad

end ThreadLint
