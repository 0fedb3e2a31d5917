import ThreadLint.Proofs.Kept.Splice
import ThreadLint.Proofs.Rule.Mark
import ThreadLint.Proofs.Rule.Written

/-!
This module contains that what the fixes of the rules write is divided into tokens by itself, whatever
stands around it.
-/

namespace ThreadLint

open ThreadLint.Parser
open ThreadLint.Token

/-! ### Texts of nodes -/

namespace Sited

variable {source : Source} {tokens : List Token} {root node : Node}
  (h : Sited source tokens root) (htokens : tokenize source = .ok tokens)

include htokens

theorem exists_divides :
    ∃ divided, Divides 0 true source.chars divided none ∧
      (∀ index < last tokens.toArray, (tokenAt tokens.toArray index).withoutTrivia ∈ divided) ∧
      ∀ token ∈ divided, ∃ index < last tokens.toArray,
        token = (tokenAt tokens.toArray index).withoutTrivia := by
  unfold tokenize at htokens
  rw [mapError_eq_ok] at htokens
  obtain ⟨front, final, rfl, _, hdivides⟩ := Divides.of_tokensFrom htokens
  have htoken (index : Nat) (hindex : index < front.length) :
      tokenAt (front ++ [final]).toArray index = front[index] := by
    rw [tokenAt_eq_getElem (by simp; omega), List.getElem_toArray, List.getElem_append_left hindex]
  refine ⟨_, hdivides, ?_, ?_⟩
  . intro index hindex
    rw [last_toArray] at hindex
    rw [htoken index hindex]
    exact List.mem_map_of_mem (List.getElem_mem hindex)
  . intro token hmem
    obtain ⟨other, hother, rfl⟩ := List.mem_map.1 hmem
    obtain ⟨index, hindex, rfl⟩ := List.getElem_of_mem hother
    refine ⟨index, by rwa [last_toArray], ?_⟩
    rw [htoken index hindex]

include h

theorem divides_textOf {first stop : Nat} (hwhole : Whole tokens.toArray first stop node) :
    ∃ inner behind, Divides node.extent.start false (source.textOf node).toList inner (some behind) ∧
      ∀ index, first ≤ index → index < stop →
        (tokenAt tokens.toArray index).withoutTrivia ∈ inner := by
  have := h.lawful
  obtain ⟨hlt, hlast, hextent, _⟩ := whole_iff.1 hwhole
  obtain ⟨divided, hdivides, hmem, _⟩ := exists_divides htokens
  have hle : stopAt tokens.toArray first ≤ stopAt tokens.toArray (stop - 1) :=
    stop_le_stop (by omega) (by omega)
  obtain ⟨inner, behind, hinner, hbetween⟩ :=
    hdivides.slice (hmem first (by omega)) (hmem (stop - 1) (by omega)) hle
  rw [Source.textOf, Source.slice, Text.toList_slice, hextent]
  refine ⟨inner, behind, hinner, ?_⟩
  intro index hfirst hstop
  exact hbetween _ (hmem index (by omega)) (start_le_start hfirst (by omega))
    (stop_le_stop (by omega) (by omega))

theorem standsBehind_textOf (hlocated : Located tokens.toArray node) :
    StandsBehind (source.textOf node).toList := by
  obtain ⟨first, stop, hkept⟩ := hlocated
  intro offset
  cases hkept with
  | inl hwhole =>
    obtain ⟨inner, behind, hinner, _⟩ := h.divides_textOf htokens hwhole
    exact ⟨_, behind, hinner.relocate offset⟩
  | inr hmissing =>
    have hempty : (source.textOf node).toList = [] := by
      rw [Source.textOf, Source.slice, Text.toList_slice, hmissing.1.2.2]
      simp
    rw [hempty]
    exact ⟨[], false, .of_nil offset false⟩

/-- What stands in front of a name behind a point does not end like a word. -/
theorem getLast?_take_startAt {index : Nat} (hpos : 0 < index) (hindex : index < last tokens.toArray)
    (hpunct : (tokenAt tokens.toArray (index - 1)).isPunct [".", "?.", "::"] = true) :
    ∀ c ∈ (source.chars.take (startAt tokens.toArray index)).getLast?,
      continuesWord c = false ∧ c ≠ '@' := by
  have := h.lawful
  obtain ⟨divided, hdivides, hmem, hindices⟩ := exists_divides htokens
  have hprevious : index - 1 < last tokens.toArray := by omega
  have hnext : ∀ third ∈ divided, third.start < startAt tokens.toArray index →
      third.stop ≤ stopAt tokens.toArray (index - 1) := by
    intro third hthird hlt
    obtain ⟨other, hother, rfl⟩ := hindices third hthird
    have hle : other ≤ index - 1 := by
      by_contra hle
      have : startAt tokens.toArray index ≤ startAt tokens.toArray other :=
        start_le_start (by omega) (by omega)
      exact absurd hlt (Nat.not_lt.2 this)
    exact stop_le_stop hle (by omega)
  intro c hc
  have heither := hdivides.getLast?_take (hmem _ hprevious) (hmem _ hindex)
    (stop_le_start (by omega) (by omega)) hnext c hc
  have hmarks : ∀ mark ∈ [".", "?.", "::"], mark.toList ≠ [] ∧
      (mark.toList.getLast? = some '.' ∨ mark.toList.getLast? = some ':') := by decide
  rcases heither with hlast | hspacing | rfl
  . obtain ⟨_, htext⟩ := h.tiles.text_eq (tokenAt_mem_of_tiles h.tiles (Nat.le_of_lt hprevious))
    obtain ⟨hne, hmark⟩ := hmarks _ (Token.isPunct_iff.1 hpunct).2
    rw [← Text.getLast?_take_of_slice htext.symm (start_le_stop _ _) hne] at hmark
    have hlast : (source.chars.take (tokenAt tokens.toArray (index - 1)).stop).getLast? = some c :=
      hlast
    rw [hlast, Option.some_inj, Option.some_inj] at hmark
    apply continuesWord_eq_false
    rw [List.mem_cons, List.mem_cons]
    exact .inr (hmark.imp_right .inl)
  . exact continuesWord_eq_false (.inl hspacing)
  . exact continuesWord_eq_false (.inr (by simp))

/-- A word may be written in place of the name behind a point. -/
theorem standsBehind_renamed {first stop index : Nat} {called word : String} {name : Extent}
    (hwhole : Whole tokens.toArray first stop node) (hfirst : first < index) (hindex : index < stop)
    (hname : IsName tokens.toArray index called name)
    (hpunct : (tokenAt tokens.toArray (index - 1)).isPunct [".", "?.", "::"] = true)
    (hword : IsWord word) :
    StandsBehind (source.slice ⟨node.extent.start, name.start⟩ ++ word ++
      source.slice ⟨name.stop, node.extent.stop⟩).toList := by
  have := h.lawful
  obtain ⟨hlt, hlast, hextent, _⟩ := whole_iff.1 hwhole
  obtain ⟨hidentifier, _, rfl⟩ := hname
  have hstart : node.extent.start < startAt tokens.toArray index := by
    rw [hextent]
    exact start_lt_start hfirst (by omega)
  have hstop : stopAt tokens.toArray index ≤ node.extent.stop := by
    rw [hextent]
    exact stop_le_stop (by omega) (by omega)
  have hle := start_le_stop tokens.toArray index
  have hlength : node.extent.stop ≤ source.chars.length := by
    rw [hextent]
    exact stopAt_le_of_tiles h.tiles (by omega)
  obtain ⟨inner, behind, hinner, hmem⟩ := h.divides_textOf htokens hwhole
  have hfront : (source.textOf node).toList.take (startAt tokens.toArray index - node.extent.start)
      = (Text.slice source.chars node.extent.start (startAt tokens.toArray index)).toList := by
    rw [Source.textOf, Source.slice, Text.toList_slice, Text.toList_slice, List.take_take,
      Nat.min_eq_left (by omega)]
  have hback : (source.textOf node).toList.drop (stopAt tokens.toArray index - node.extent.start)
      = (Text.slice source.chars (stopAt tokens.toArray index) node.extent.stop).toList := by
    rw [Source.textOf, Source.slice, Text.toList_slice, Text.toList_slice, List.drop_take,
      List.drop_drop, Nat.add_sub_cancel' (by omega)]
    congr 1
    omega
  have hne : (Text.slice source.chars node.extent.start (startAt tokens.toArray index)).toList
      ≠ [] := by
    rw [← List.length_pos_iff, String.length_toList, Text.length_slice (by omega)]
    omega
  have hparted : Parted ((source.textOf node).toList.take
      (startAt tokens.toArray index - node.extent.start)) word.toList := by
    apply parted_of_isWord hword
    rw [hfront, ← Text.getLast?_take_of_slice rfl (Nat.le_of_lt hstart) hne]
    exact h.getLast?_take_startAt htokens (by omega) (by omega) hpunct
  rw [Token.isIdentifier, beq_iff_eq] at hidentifier
  obtain ⟨others, hrenamed⟩ := hinner.rename (hmem index (Nat.le_of_lt hfirst) hindex) hidentifier
    hword hparted
  have hrenamed : Divides node.extent.start false ((source.textOf node).toList.take
      (startAt tokens.toArray index - node.extent.start) ++ (word.toList ++
        (source.textOf node).toList.drop (stopAt tokens.toArray index - node.extent.start))) others
      (some behind) := hrenamed
  rw [hfront, hback] at hrenamed
  rw [String.toList_append, String.toList_append, List.append_assoc]
  exact fun offset => ⟨_, behind, hrenamed.relocate offset⟩

end Sited

/-! ### What the rules write -/

/--
The texts that rules write, or put in front of parts of the text or behind them.
-/
def writtenTexts : List String :=
  ["(", ")", "await", "Task", Symbol.tasks ++ "." ++ "Task", "true", BackgroundLoad.assignment,
   ", " ++ BackgroundLoad.assignment, "(" ++ BackgroundLoad.assignment ++ ")",
   "ThreadHelper.ThrowIfNotOnUIThread", Symbol.shell ++ "." ++ "ThreadHelper.ThrowIfNotOnUIThread",
   "();", "Assumes.Present", "Microsoft" ++ "." ++ "Assumes.Present", ");"]

theorem isSelfContained_written :
    ∀ text ∈ writtenTexts, isSelfContained text.toList = true := by
  decide +kernel

theorem Token.StandsBehind.parenthesized {expression : String} (h : StandsBehind expression.toList) :
    StandsAlone ("(" ++ expression ++ ")").toList := by
  rw [String.toList_append, String.toList_append, List.append_assoc]
  have hopen := isSelfContained_written "(" (by simp [writtenTexts])
  have hclose := isSelfContained_written ")" (by simp [writtenTexts])
  apply StandsBehind.behind _ hopen (parted_of_getLast? rfl (by decide))
  exact h.append (.of_isSelfContained hclose) (parted_of_head? rfl (by decide))

theorem standsAlone_await {expression : String} (h : StandsBehind expression.toList) :
    StandsAlone ("await " ++ expression).toList := by
  have hsplit : ("await " ++ expression).toList = "await".toList ++ ' ' :: expression.toList := by
    rw [String.toList_append]
    rfl
  rw [hsplit]
  have hword := isSelfContained_written "await" (by simp [writtenTexts])
  exact h.blank.behind hword (parted_of_head? rfl (by decide))

example : isSelfContained "(await (a))".toList = true := by
  decide +kernel

theorem standsAlone_awaitWritten {expression : String} (h : StandsBehind expression.toList)
    (place : Place) : StandsAlone (awaitWritten expression place).toList := by
  have htext := standsAlone_await h
  unfold awaitWritten
  dsimp only
  split
  . exact htext.standsBehind.parenthesized
  . exact htext

theorem Sited.standsAlone_awaitText {source : Source} {tokens : List Token} {root operand : Node}
    (h : Sited source tokens root) (htokens : tokenize source = .ok tokens)
    (hoperand : Located tokens.toArray operand) (place : Place) :
    StandsAlone (awaitText source operand place).toList := by
  have hinner := h.standsBehind_textOf htokens hoperand
  apply standsAlone_awaitWritten
  split
  . exact hinner
  . exact hinner.parenthesized.standsBehind

theorem BoundFile.isSelfContained_qualify (file : BoundFile) {space name : String}
    (hname : isSelfContained name.toList = true)
    (hspace : isSelfContained (space ++ "." ++ name).toList = true) :
    isSelfContained (file.qualify space name).toList = true := by
  cases file.qualify_eq space name with
  | inl heq => rwa [heq]
  | inr heq => rwa [heq]

theorem Source.isSpacing_indentationAt (source : Source) (offset : Int) :
    (source.indentationAt offset).toList.all isSpacing = true := by
  rw [List.all_eq_true]
  intro c hc
  rcases mem_indentationAt hc with rfl | rfl
  all_goals rfl

/--
Whether what the rules take from an entry of the symbol table stands alone, and the entry has what
its way of awaiting needs.
-/
def SymbolEntry.isWritable (entry : SymbolEntry) : Bool :=
  match entry.replacement with
  | some replacement =>
    isSelfContained replacement.toList &&
      isSelfContained (Symbol.tasks ++ "." ++ replacement).toList &&
      decide (IsWord (Text.lastSegment replacement))
  | none =>
    entry.strategy != some .whenAll && entry.strategy != some .whenAny &&
      entry.strategy != some .delay

theorem BoundFile.KnowsSettings.isWritable {file : BoundFile} {settings : Settings}
    (h : file.KnowsSettings settings) {name : Option String} {kind : Option SymbolKind}
    {entry : SymbolEntry} (hentry : file.binding.scope.lookup name kind = some entry) :
    entry.isWritable = true := by
  apply h.holds (by decide +kernel) _ hentry
  intro other hreplacement hstrategy
  simp [SymbolEntry.isWritable, hreplacement, hstrategy]

theorem SymbolEntry.isWritable_iff {entry : SymbolEntry} {replacement : String}
    (h : entry.replacement = some replacement) :
    entry.isWritable = true ↔ isSelfContained replacement.toList = true ∧
      isSelfContained (Symbol.tasks ++ "." ++ replacement).toList = true ∧
      IsWord (Text.lastSegment replacement) := by
  simp [isWritable, h, and_assoc]

/--
Whether what a fix writes in a text stands alone, and no two of its edits touch each other if none
goes on with the word in front of it.
-/
structure Fix.WritesAlone (text : List Char) (fix : Fix) : Prop where
  alone : ∀ edit ∈ fix.edits, StandsAlone edit.replacement.toList
  apart : (∀ edit ∈ fix.edits, Parted (text.take edit.start.toNat) edit.replacement.toList) →
    fix.edits.Pairwise fun edit other => edit.stop < other.start ∨ other.stop < edit.start

theorem Fix.writesAlone_of_singleton {text : List Char} {fix : Fix} {edit : Edit}
    (h : fix.edits = [edit]) (halone : StandsAlone edit.replacement.toList) :
    fix.WritesAlone text := by
  constructor
  case alone =>
    rw [h]
    simpa using halone
  case apart =>
    rw [h]
    simp

/--
Whether all fixes of a matcher write what stands alone.
-/
def Matcher.WritesAlone (matcher : Matcher) (kinds : List NodeKind) : Prop :=
  ∀ {settings : Settings} {root : Node} {tokens : List Token} {file : BoundFile} {place : Place}
    {hit : Hit} {fix : Fix}, tokenize file.source = .ok tokens → Sited file.source tokens root →
      place.Within root → place.node.kind ∈ kinds → file.KnowsSettings settings →
      matcher file place = .ok (some hit) → hit.fix = .ok (some fix) →
      fix.WritesAlone file.source.chars

theorem AsyncVoid.writesAlone : matcher.WritesAlone rule.kinds := by
  intro settings root tokens file place hit fix _ _ _ _ _ hhit hfix
  obtain ⟨_, _, _, _, hedits⟩ := edits_eq hhit hfix
  apply Fix.writesAlone_of_singleton hedits
  exact .of_isSelfContained (file.isSelfContained_qualify
    (isSelfContained_written _ (by simp [writtenTexts]))
    (isSelfContained_written _ (by simp [writtenTexts])))

theorem UnobservedResult.writesAlone : matcher.WritesAlone rule.kinds := by
  intro settings root tokens file place hit fix _ _ _ _ _ hhit hfix
  obtain ⟨expression, _, _, _, hfixes⟩ := matcher_eq_ok hhit
  apply Fix.writesAlone_of_singleton (hfixes fix hfix).2
  have hsplit : "await ".toList = "await".toList ++ [' '] := rfl
  rw [hsplit]
  apply StandsAlone.append
    (.of_isSelfContained (isSelfContained_written "await" (by simp [writtenTexts])))
  . exact .of_spacing (by simp) (by decide)
  . exact parted_of_head? rfl (by decide)

theorem PackageBase.writesAlone : matcher.WritesAlone rule.kinds := by
  intro settings root tokens file place hit fix _ _ _ _ hknows hhit hfix
  obtain ⟨_, base, _, _, hbase, _, hedits⟩ := edits_eq hhit hfix
  obtain ⟨hreplacement, written, hlookup⟩ := oldBase?_eq_some hbase
  apply Fix.writesAlone_of_singleton hedits
  exact .of_isSelfContained ((SymbolEntry.isWritable_iff hreplacement).1 (hknows.isWritable hlookup)).1

theorem BackgroundLoad.writesAlone : matcher.WritesAlone rule.kinds := by
  intro settings root tokens file place hit fix _ hsited hplace _ _ hhit hfix
  obtain ⟨registration, hmem, hkind, hedits⟩ := edits_eq hhit hfix
  apply Fix.writesAlone_of_singleton hedits
  apply StandsAlone.of_isSelfContained
  unfold edit
  split
  . exact isSelfContained_written _ (by simp [writtenTexts])
  . split
    . apply isSelfContained_written
      dsimp only
      split
      . simp [writtenTexts]
      . simp [writtenTexts]
    . exact isSelfContained_written _ (by simp [writtenTexts])
    . next hclosed hopen =>
      unfold Node.kind at hkind
      cases hform : registration.form
      case attributeUse name stop closer =>
        cases closer with
        | none => exact absurd hform (hopen name stop)
        | some close => exact absurd hform (hclosed name stop close)
      all_goals simp [hform, Form.kind] at hkind

theorem CommandHandler.writesAlone : matcher.WritesAlone rule.kinds := by
  intro settings root tokens file place hit fix _ _ _ _ _ hhit hfix
  obtain ⟨body, _, _, hedits⟩ := edits_eq hhit hfix
  have hcall : StandsAlone
      (file.qualify Symbol.shell "ThreadHelper.ThrowIfNotOnUIThread" ++ "();").toList := by
    rw [String.toList_append]
    apply StandsAlone.append
    . exact .of_isSelfContained (file.isSelfContained_qualify
        (isSelfContained_written _ (by simp [writtenTexts]))
        (isSelfContained_written _ (by simp [writtenTexts])))
    . exact .of_isSelfContained (isSelfContained_written _ (by simp [writtenTexts]))
    . exact parted_of_head? rfl (by decide)
  apply Fix.writesAlone_of_singleton hedits
  unfold assertion
  extract_lets call
  split
  . next first _ =>
    rw [String.toList_append, String.toList_append, List.append_assoc]
    apply hcall.append
    . apply StandsAlone.of_spacing (by simp)
      rw [List.all_append, BoundFile.indentationOf, file.source.isSpacing_indentationAt]
      rfl
    . exact parted_of_head? rfl (by decide)
  . have hspacing : ("\n" ++ file.indentationOf body ++ "    ").toList.all isSpacing = true := by
      rw [String.toList_append, String.toList_append, List.all_append, List.all_append,
        BoundFile.indentationOf, file.source.isSpacing_indentationAt]
      rfl
    dsimp only
    rw [String.toList_append]
    exact (StandsAlone.of_spacing (by simp) hspacing).append hcall (parted_of_spacing hspacing)

theorem ServiceLookup.writesAlone : matcher.WritesAlone rule.kinds := by
  intro settings root tokens file place hit fix _ hsited hplace _ _ hhit hfix
  obtain ⟨_, part, hpart, name, extent, hform, hedits⟩ := edits_eq hhit hfix
  have hmem := Node.mem_preorder_of_mem_children hplace.node hpart
  obtain ⟨_, _, _, hname, _⟩ := hsited.fits hmem hform (by simp [Form.kind])
  have hword := hsited.isWord_of_isName hname
  have hspacing : ("\n" ++ file.indentationOf place.node).toList.all isSpacing = true := by
    rw [String.toList_append, List.all_append, BoundFile.indentationOf,
      file.source.isSpacing_indentationAt]
    rfl
  have hcall : StandsAlone (file.qualify "Microsoft" "Assumes.Present" ++ "(").toList := by
    rw [String.toList_append]
    apply StandsAlone.append
    . exact .of_isSelfContained (file.isSelfContained_qualify
        (isSelfContained_written _ (by simp [writtenTexts]))
        (isSelfContained_written _ (by simp [writtenTexts])))
    . exact .of_isSelfContained (isSelfContained_written _ (by simp [writtenTexts]))
    . exact parted_of_head? rfl (by decide)
  have hargument : StandsAlone (name ++ ");").toList := by
    rw [String.toList_append]
    apply (StandsAlone.of_isWord hword).append
      (.of_isSelfContained (isSelfContained_written _ (by simp [writtenTexts])))
    exact parted_of_head? rfl (by decide)
  have hstatement : StandsAlone
      (file.qualify "Microsoft" "Assumes.Present" ++ "(" ++ (name ++ ");")).toList := by
    rw [String.toList_append]
    apply hcall.append hargument
    apply parted_of_getLast? (c := '(') _ (by decide)
    rw [String.toList_append, List.getLast?_append]
    rfl
  have hsplit : "\n" ++ file.indentationOf place.node ++ file.qualify "Microsoft" "Assumes.Present"
        ++ "(" ++ name ++ ");"
      = "\n" ++ file.indentationOf place.node
        ++ (file.qualify "Microsoft" "Assumes.Present" ++ "(" ++ (name ++ ");")) := by
    simp only [String.append_assoc]
  rw [hsplit] at hedits
  apply Fix.writesAlone_of_singleton hedits
  dsimp only
  rw [String.toList_append]
  exact (StandsAlone.of_spacing (by simp) hspacing).append hstatement (parted_of_spacing hspacing)

namespace BlockingWait

variable {file : BoundFile} {root : Node} {tokens : List Token} {place : Place}
  {entry : SymbolEntry} {text : String}

theorem exists_replacement (h : entry.isWritable = true)
    (hstrategy : entry.strategy = some .whenAll ∨ entry.strategy = some .whenAny ∨
      entry.strategy = some .delay) : ∃ replacement, entry.replacement = some replacement := by
  cases hreplacement : entry.replacement with
  | some replacement => exact ⟨replacement, rfl⟩
  | none =>
    rw [SymbolEntry.isWritable, hreplacement] at h
    rcases hstrategy with hstrategy | hstrategy | hstrategy
    all_goals
      rw [hstrategy] at h
      cases h

/-- A call may be written with another method. -/
theorem standsBehind_combined {callee : Node} {called word : String} {name : Extent}
    {isConditional : Bool} {typeArguments : Option (List String)}
    (hsited : Sited file.source tokens root) (htokens : tokenize file.source = .ok tokens)
    (hmem : place.node ∈ root.preorder)
    (hkind : place.node.kind ≠ .compilationUnit ∧ place.node.kind ≠ .otherStmt)
    (hcallee : callee ∈ place.node.children)
    (hform : callee.form = .memberAccess called name isConditional typeArguments)
    (hword : IsWord word) :
    StandsBehind (file.source.slice ⟨place.node.extent.start, name.start⟩ ++ word ++
      file.source.slice ⟨name.stop, place.node.extent.stop⟩).toList := by
  obtain ⟨first, stop, hwhole⟩ := hsited.whole hmem hkind
  obtain ⟨_, _, _, _, hlaid⟩ := whole_iff.1 hwhole
  obtain ⟨first', stop', hfirst, hstop, hkept⟩ := hlaid.kept_of_mem hcallee
  have hwritten : Whole tokens.toArray first' stop' callee := by
    apply hkept.resolve_right
    rintro ⟨⟨hother, _⟩, _⟩
    simp [Node.kind, hform, Form.kind] at hother
  obtain ⟨_, _, _, hfits, _⟩ := whole_iff.1 hwritten
  rw [hform] at hfits
  obtain ⟨index, hindex, hlt, hname, _, _, hpunct, _⟩ := hfits
  exact hsited.standsBehind_renamed htokens hwhole (by omega) (by omega) hname hpunct hword

theorem Writes.standsAlone (h : Writes file place.node place entry text)
    (hsited : Sited file.source tokens root) (htokens : tokenize file.source = .ok tokens)
    (hmem : place.node ∈ root.preorder)
    (hkind : place.node.kind ≠ .compilationUnit ∧ place.node.kind ≠ .otherStmt)
    (hwritable : entry.isWritable = true) : StandsAlone text.toList := by
  have hlocated {part : Node} (hpart : part ∈ place.node.preorder) :
      Located tokens.toArray part := by
    obtain ⟨first, stop, hwhole⟩ := hsited.whole hmem hkind
    obtain ⟨first', stop', _, _, hkept⟩ := Kept.kept_of_mem_preorder (.inl hwhole) hpart
    exact ⟨first', stop', hkept⟩
  cases h with
  | operand operand hoperand => exact hsited.standsAlone_awaitText htokens (hlocated hoperand) place
  | delay duration hduration hstrategy =>
    obtain ⟨replacement, hreplacement⟩ := exists_replacement hwritable (.inr (.inr hstrategy))
    obtain ⟨hplain, hqualified, _⟩ := (SymbolEntry.isWritable_iff hreplacement).1 hwritable
    have hduration := hsited.standsBehind_textOf htokens (hlocated hduration)
    have hsplit : file.qualify Symbol.tasks replacement ++ "(" ++ file.textOf duration ++ ")"
        = file.qualify Symbol.tasks replacement ++ ("(" ++ file.source.textOf duration ++ ")") := by
      simp only [String.append_assoc, BoundFile.textOf]
    apply standsAlone_awaitWritten
    rw [hreplacement, Option.getD_some, hsplit, String.toList_append]
    apply (StandsAlone.of_isSelfContained
      (file.isSelfContained_qualify hplain hqualified)).standsBehind.append hduration.parenthesized
    apply parted_of_head? (d := '(') _ (by decide)
    rw [String.toList_append, String.toList_append]
    rfl
  | combined callee called name isConditional typeArguments hcallee hform hstrategy =>
    obtain ⟨replacement, hreplacement⟩ := exists_replacement hwritable
      (hstrategy.imp_right .inl)
    obtain ⟨_, _, hword⟩ := (SymbolEntry.isWritable_iff hreplacement).1 hwritable
    have hcall := standsBehind_combined hsited htokens hmem hkind hcallee hform hword
    rw [hreplacement, Option.getD_some, String.append_assoc, String.append_assoc]
    rw [String.append_assoc] at hcall
    exact standsAlone_await hcall

theorem writesAlone : matcher.WritesAlone rule.kinds := by
  intro settings root tokens file place hit fix htokens hsited hplace hkind hknows hhit hfix
  obtain ⟨_, text, hawaiting, hedits⟩ := edits_eq hhit hfix
  obtain ⟨entry, hentry, hwrites⟩ := writes_of_awaiting? (Node.mem_preorder_self _) hawaiting
  obtain ⟨_, _, hlookup⟩ := Binding.exists_lookup_of_symbolAt? hentry
  have hkind : place.node.kind ≠ .compilationUnit ∧ place.node.kind ≠ .otherStmt := by
    constructor
    . intro heq
      simp [heq, rule] at hkind
    . intro heq
      simp [heq, rule] at hkind
  apply Fix.writesAlone_of_singleton hedits
  exact hwrites.standsAlone hsited htokens hplace.node hkind (hknows.isWritable hlookup)

end BlockingWait

namespace AsyncNaming

open ThreadLint.Token

variable {source : Source} {tokens : List Token} {root : Node} {name : String} {edit : Edit}

theorem isWord_renamed (h : IsWord name) : IsWord (name ++ ending) := by
  obtain ⟨c, rest, hchars, hc, hrest⟩ := h
  have hending : ending.toList.all continuesWord = true := by decide
  refine ⟨c, rest ++ ending.toList, ?_, hc, ?_⟩
  . rw [String.toList_append, hchars, List.cons_append]
  . intro d hd
    rw [List.mem_append] at hd
    exact hd.elim (hrest d) (List.all_eq_true.1 hending d)

theorem getLast?_of_isWord {word : String} (h : IsWord word) :
    ∃ c, word.toList.getLast? = some c ∧ continuesWord c = true := by
  obtain ⟨c, rest, hchars, hc, hrest⟩ := h
  rw [hchars, List.getLast?_cons]
  refine ⟨_, rfl, ?_⟩
  cases hlast : rest.getLast? with
  | none => exact continuesWord_of_startsWord hc
  | some d => exact hrest d (List.mem_of_getLast? hlast)

theorem getLast?_of_identifierName {token : Token} (h : IsWord token.identifierName) :
    ∃ c, token.text.toList.getLast? = some c ∧ continuesWord c = true := by
  obtain ⟨c, hlast, hc⟩ := getLast?_of_isWord h
  refine ⟨c, ?_, hc⟩
  unfold identifierName at hlast
  split at hlast
  . next rest heq =>
    rw [String.toList_ofList] at hlast
    rw [heq, List.getLast?_cons, hlast]
    rfl
  . exact hlast

/-- A name that is to be lengthened ends like a word. -/
theorem Renames.getLast?_take_stop (h : Renames source tokens.toArray name edit)
    (hsited : Sited source tokens root) (hword : IsWord name) :
    ∃ c, (source.chars.take edit.stop.toNat).getLast? = some c ∧ continuesWord c = true := by
  have := hsited.lawful
  obtain ⟨_, _, hstart, hlt, _⟩ := h.onToken
  have hle : edit.start.toNat ≤ edit.stop.toNat := by omega
  have hne {part : String} {c : Char} (hlast : part.toList.getLast? = some c) : part.toList ≠ [] := by
    intro hnil
    rw [hnil] at hlast
    cases hlast
  cases h.written with
  | inl hslice =>
    obtain ⟨c, hlast, hc⟩ := getLast?_of_isWord hword
    rw [Text.getLast?_take_of_slice hslice hle (hne hlast)]
    exact ⟨c, hlast, hc⟩
  | inr htoken =>
    obtain ⟨index, hidentifier, hname, _, hstop⟩ := htoken
    rw [← hname] at hword
    obtain ⟨c, hlast, hc⟩ := getLast?_of_identifierName hword
    have hindex := Nat.le_of_lt (lt_last_of_isIdentifier hidentifier)
    obtain ⟨_, htext⟩ := hsited.tiles.text_eq (tokenAt_mem_of_tiles hsited.tiles hindex)
    rw [hstop, Int.toNat_natCast]
    refine ⟨c, ?_, hc⟩
    rw [← hlast]
    exact Text.getLast?_take_of_slice htext.symm (start_le_stop _ _) (hne hlast)

/-- A name that is lengthened does not go on with another one. -/
theorem Renames.stop_ne_start {other : Edit} (h : Renames source tokens.toArray name edit)
    (hother : Renames source tokens.toArray name other) (hsited : Sited source tokens root)
    (hword : IsWord name)
    (hparted : Parted (source.chars.take other.start.toNat) other.replacement.toList) :
    edit.stop ≠ other.start := by
  intro heq
  obtain ⟨c, hlast, hc⟩ := h.getLast?_take_stop hsited hword
  obtain ⟨d, rest, hchars, hd, _⟩ := isWord_renamed hword
  rw [heq] at hlast
  rw [hother.replacement_eq, hchars] at hparted
  have hjoined : isSeam c d = false := joined_of_word hc (continuesWord_of_startsWord hd)
  rw [hparted c hlast d rfl] at hjoined
  cases hjoined

theorem writesAlone : matcher.WritesAlone rule.kinds := by
  intro settings root tokens file place hit fix _ hsited hplace _ _ hhit hfix
  obtain ⟨name, hword, hrenames⟩ := edits_eq hsited hplace hhit hfix
  constructor
  case alone =>
    intro edit hedit
    rw [(hrenames edit hedit).replacement_eq]
    exact .of_isWord (isWord_renamed hword)
  case apart =>
    intro hparted
    apply fix.compatible.imp_of_mem
    intro edit other hedit hother hcompatible
    have hrename := hrenames edit hedit
    have hrenameOther := hrenames other hother
    have hne := hrename.stop_ne_start hrenameOther hsited hword (hparted other hother)
    have hneOther := hrenameOther.stop_ne_start hrename hsited hword (hparted edit hedit)
    obtain ⟨_, _, _, hlt, _⟩ := hrename.onToken
    obtain ⟨_, _, _, hltOther, _⟩ := hrenameOther.onToken
    unfold Edit.conflictsWith at hcompatible
    simp only [Bool.or_eq_false_iff, Bool.and_eq_false_iff, decide_eq_false_iff_not] at hcompatible
    omega

end AsyncNaming

theorem RuleDefinition.catalogue_writesAlone : ∀ definition ∈ catalogue, definition.offer = .offered →
    ∀ matcher ∈ definition.matcher, matcher.WritesAlone definition.kinds := by
  simp only [catalogue, List.forall_mem_cons]
  refine ⟨?_, ?_, ?_, ?_, ?_, ?_, ?_, ?_, ?_, ?_, by simp⟩
  . rintro _ _ ⟨⟩
    exact BlockingWait.writesAlone
  . rintro _ _ ⟨⟩
    exact CommandHandler.writesAlone
  . rintro _ _ ⟨⟩
    exact UnobservedResult.writesAlone
  . rintro _ _ ⟨⟩
    exact AsyncVoid.writesAlone
  . rintro _ _ ⟨⟩
    exact ServiceLookup.writesAlone
  . rintro _ _ ⟨⟩
    exact PackageBase.writesAlone
  . rintro _ _ ⟨⟩
    exact BackgroundLoad.writesAlone
  . rintro ⟨⟩
  . rintro _ _ ⟨⟩
    exact AsyncNaming.writesAlone
  . rintro ⟨⟩

end ThreadLint
