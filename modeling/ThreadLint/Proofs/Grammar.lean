import ThreadLint.Grammar
import ThreadLint.Proofs.Grammar.Declaration
import ThreadLint.Proofs.Source

/-!
This module contains that every syntax tree is well placed: the grammar of a depth that the tokens
of a text cannot exceed does what is expected of a grammar, and the members of a text lie between
its first token and its last one.
-/

namespace ThreadLint

open ThreadLint.Parser

variable {tokens : Array Token}

theorem Grammar.sound_of_last_lt [Lawful tokens] {lo : Nat} (depth : Nat) (hlo : last tokens < lo) :
    (ofDepth depth).Sound tokens lo := by
  constructor
  case depth => exact ⟨depth, rfl⟩
  case contents =>
    intro cursor hcursor hopener
    have := lt_last_of_isPunct hopener
    omega
  all_goals
    intros
    omega

theorem Grammar.layer_sound [Lawful tokens] {lo : Nat} {g : Grammar}
    (hg : g.Sound tokens (lo + 1)) :
    (layer g).Sound tokens lo where
  depth := by
    obtain ⟨depth, rfl⟩ := hg.depth
    exact ⟨depth + 1, rfl⟩
  expression _ _ hcursor := expression_ensures (hg.mono (by omega)) hcursor
  operand _ _ hcursor := operand_ensures (hg.mono (by omega)) hcursor
  operation _ _ _ hcursor := operation_ensures (hg.mono (by omega)) hcursor
  pattern _ _ _ hcursor := pattern_ensures (hg.mono (by omega)) hcursor
  contents _ _ hopener := contents_ensures (hg.mono (by omega)) hopener
  statement _ _ hcursor := statement_ensures (hg.mono (by omega)) hcursor
  embedded _ _ hcursor := embedded_ensures (hg.mono (by omega)) hcursor
  members _ _ _ hcursor := members_ensures (hg.mono (by omega)) hcursor

/-- A level of constructs takes a token at least, so that the bottom is behind the last token. -/
theorem Grammar.ofDepth_sound [Lawful tokens] {depth lo : Nat} (hdepth : last tokens < lo + depth) :
    (ofDepth depth).Sound tokens lo := by
  induction depth generalizing lo with
  | zero => exact sound_of_last_lt _ hdepth
  | succ depth ih =>
    apply layer_sound
    apply ih
    omega

/-! ### Recoveries -/

namespace Parsed

theorem recovery_eq_ok (source : Source) (opener : Token) :
    ∃ span, recovery source opener = .ok ⟨opener, span⟩ ∧ span.extent = opener.extent := by
  have h : opener.start ≤ opener.stop := Nat.le_add_right _ _
  refine ⟨⟨opener.start, opener.stop, source.position opener.start, source.position opener.stop, h⟩,
    ?_, rfl⟩
  unfold recovery Source.spanOf Token.extent
  rw [source.span_eq_ok h]
  rfl

/-! ### The syntax tree of a text -/

theorem members_ensures [Lawful tokens] :
    Ensures tokens (Parser.members (Grammar.ofDepth tokens.size) none) 0 fun nodes next =>
      Laid tokens 0 next nodes ∧ isBefore "\x7d" (tokenAt tokens next) = false := by
  have : last tokens < tokens.size := last_lt_size
  apply Parser.members_ensures _ (Nat.zero_le _)
  apply Grammar.ofDepth_sound
  omega

theorem members_laid [Lawful tokens] {nodes : List Node} (h : members tokens = .ok nodes) :
    Laid tokens 0 (last tokens) nodes := by
  unfold members at h
  rw [map_eq_ok] at h
  obtain ⟨⟨_, next⟩, hmembers, rfl⟩ := h
  obtain ⟨_, hnext, _, hlaid, _⟩ := members_ensures.of_eq_ok (Nat.zero_le _) hmembers
  exact hlaid.mono (by omega)

/-- The members of a file stop for no other reason than that they do not fit. -/
theorem eq_mismatch_of_members [Lawful tokens] {stop : Stop} (h : members tokens = .error stop) :
    stop = .mismatch := by
  unfold members at h
  cases hmembers : Parser.members (Grammar.ofDepth tokens.size) none tokens 0 with
  | ok result =>
    rw [hmembers] at h
    cases h
  | error stop' =>
    rw [hmembers] at h
    cases h
    exact members_ensures.eq_mismatch (Nat.zero_le _) hmembers

theorem ofSource_eq_ok {source : Source} {parsed : Parsed} (h : ofSource source = .ok parsed) :
    ∃ tokens unclosed nodes, Token.tokenize source = .ok tokens ∧
      Token.unclosed source tokens = .ok unclosed ∧
      unclosed.mapM (recovery source) = .ok parsed.recoveries ∧
      members tokens.toArray = .ok nodes ∧ parsed.source = source ∧
      parsed.root = ⟨.compilationUnit, ⟨0, source.length⟩, "", none, nodes⟩ := by
  obtain ⟨tokens, htokens, h⟩ := bind_eq_ok.1 h
  obtain ⟨unclosed, hunclosed, h⟩ := bind_eq_ok.1 h
  obtain ⟨recoveries, hrecoveries, h⟩ := bind_eq_ok.1 h
  obtain ⟨nodes, hnodes, h⟩ := bind_eq_ok.1 h
  rw [mapError_eq_ok] at htokens hunclosed hnodes
  cases h
  exact ⟨tokens, unclosed, nodes, htokens, hunclosed, hrecoveries, hnodes, rfl, rfl⟩

end Parsed

theorem parse_eq_ok {text : String} {path : Option String} {parsed : Parsed}
    (h : parse text path = .ok parsed) : Parsed.ofSource (Source.ofString text path) = .ok parsed := by
  unfold parse at h
  split at h
  . simp at h
  . exact h

end ThreadLint
