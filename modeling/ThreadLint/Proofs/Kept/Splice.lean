import ThreadLint.Proofs.Kept.Alone
import ThreadLint.Proofs.Settled.Carry

/-!
This module contains which tokens of a text are kept by edits: all that are outside of them, if each
edit is divided into tokens by itself and has seams at both ends.
-/

namespace ThreadLint

open ThreadLint.Token

/--
Whether a token has no character that an edit replaces, and the edit inserts nothing into it.
-/
def Token.IsOutside (token : Token) (edit : Edit) : Prop :=
  token.stop ≤ edit.start ∨ edit.stop ≤ token.start

instance (token : Token) (edit : Edit) : Decidable (token.IsOutside edit) :=
  inferInstanceAs (Decidable (_ ∨ _))

namespace Edit

/--
By how much some edits move what begins at an offset.
-/
def shift (edits : List Edit) (offset : Nat) : Int :=
  growthOf edits fun edit => decide (edit.stop ≤ offset)

/--
Whether all tokens of a text outside some edits are tokens of the edited text, where the edits move
them.
-/
def KeepTokens (edits : List Edit) (tokens others : List Token) : Prop :=
  ∀ token ∈ tokens, (∀ edit ∈ edits, token.IsOutside edit) →
    ∃ other ∈ others, other.kind = token.kind ∧ other.text = token.text ∧
      other.start = token.start + shift edits token.start

instance (edits : List Edit) (tokens others : List Token) :
    Decidable (KeepTokens edits tokens others) :=
  inferInstanceAs (Decidable (∀ _ ∈ _, _ → _))

/--
Whether some tokens are those of a text outside some edits, where the edits move them, and tokens
that the replacements are divided into by themselves.
-/
def MakeTokens (edits : List Edit) (tokens others : List Token) : Prop :=
  ∀ other ∈ others,
    (∃ token ∈ tokens, (∀ edit ∈ edits, token.IsOutside edit) ∧ other.kind = token.kind ∧
      other.text = token.text ∧ other.start = token.start + shift edits token.start) ∨
    ∃ edit ∈ edits, ∃ origin after inner behind, ∃ token ∈ inner,
      Divides origin after edit.replacement.toList inner behind ∧ other.kind = token.kind ∧
        other.text = token.text

/--
Whether a token of some, other than the end of the text, begins or ends at an offset.
-/
def IsEdge (tokens : List Token) (offset : Int) : Prop :=
  ∃ token ∈ tokens, token.isEnd = false ∧ (offset = token.start ∨ offset = token.stop)

instance (tokens : List Token) (offset : Int) : Decidable (IsEdge tokens offset) :=
  inferInstanceAs (Decidable (∃ _ ∈ _, _))

/--
Whether an edit begins and ends where tokens of a text do, with a seam at each end, and no
preprocessor line begins behind it.
-/
structure FitsIn (text : List Char) (tokens : List Token) (edit : Edit) : Prop where
  start_isEdge : IsEdge tokens edit.start
  stop_isEdge : IsEdge tokens edit.stop
  front : Parted (text.take edit.start.toNat) edit.replacement.toList
  back : Parted edit.replacement.toList (text.drop edit.stop.toNat)
  plain : beginsWithDirective (text.drop edit.stop.toNat) = false

variable {text : List Char} {edit : Edit} {edits : List Edit} {tokens : List Token}

/-! ### One edit behind others -/

theorem shift_eq_of_lt {offset : Nat} (h : (offset : Int) < edit.stop) :
    shift (edit :: edits) offset = shift edits offset := by
  unfold shift
  rw [growthOf_cons, if_neg (by simpa using h), Int.zero_add]

theorem shift_eq_of_le {offset : Nat} (h : ∀ edit ∈ edits, edit.stop ≤ offset) :
    shift edits offset = growthOf edits fun _ => true := by
  unfold shift growthOf
  congr 2
  apply List.filter_congr
  intro edit hedit
  simpa using h edit hedit

/-- What stands right in front of an edit is not changed by those that end before it. -/
theorem getLast?_foldl (hinside : ∀ edit ∈ edits, edit.Inside text.length)
    (horder : edits.Pairwise fun edit other => other.IsBefore edit)
    (hapart : ∀ edit ∈ edits, edit.stop < text.length) :
    (edits.foldl (fun text edit => edit.apply text) text).getLast? = text.getLast? := by
  cases hlast : text.getLast? with
  | none =>
    rw [List.getLast?_eq_none_iff] at hlast
    subst hlast
    cases edits with
    | nil => rfl
    | cons edit rest =>
      have := (hinside edit (List.mem_cons_self ..)).start_nonneg
      have := (hinside edit (List.mem_cons_self ..)).start_le_stop
      have := hapart edit (List.mem_cons_self ..)
      simp at this
      omega
  | some c =>
    obtain ⟨front, rfl⟩ := List.getLast?_eq_some_iff.1 hlast
    have hfront : ∀ edit ∈ edits, edit.Inside front.length := by
      intro edit hedit
      obtain ⟨hstart, hle, _⟩ := hinside edit hedit
      have := hapart edit hedit
      rw [List.length_append, List.length_singleton] at this
      exact ⟨hstart, hle, by omega⟩
    rw [(foldl_apply_append hfront horder).1, List.getLast?_append]
    rfl

/-- A text falls apart at both ends of an edit that fits in. -/
theorem FitsIn.split {behind : Option Bool} (hfits : edit.FitsIn text tokens)
    (hinside : edit.Inside text.length) (h : Divides 0 true text tokens behind) :
    ∃ front inner back ahead after, tokens = front ++ (inner ++ back) ∧
      Divides 0 true (text.take edit.start.toNat) front (some ahead) ∧
      (∀ token ∈ inner, edit.start ≤ token.start ∧ ¬ token.IsOutside edit) ∧
      Divides edit.stop.toNat after (text.drop edit.stop.toNat) back behind := by
  obtain ⟨hstart, hle, hstop⟩ := hinside
  obtain ⟨⟨first, hfirst, _, hfirstEq⟩, ⟨last, hlast, _, hlastEq⟩, _, _, _⟩ := hfits
  have hbegin : edit.start.toNat = 0 ∨
      ∃ token ∈ tokens, edit.start.toNat = token.start ∨ edit.start.toNat = token.stop :=
    .inr ⟨first, hfirst, by omega⟩
  obtain ⟨front, others, ahead, rfl, _, _, hfront, hothers⟩ := h.split hbegin
  clear hbegin
  rw [Nat.sub_zero] at hfront hothers
  have hend : edit.stop.toNat = edit.start.toNat ∨
      ∃ token ∈ others, edit.stop.toNat = token.start ∨ edit.stop.toNat = token.stop := by
    rw [List.mem_append] at hlast
    cases hlast with
    | inl hmem =>
      have hbounds := hfront.bounds last hmem
      rw [List.length_take] at hbounds
      omega
    | inr hmem => exact .inr ⟨last, hmem, by omega⟩
  obtain ⟨inner, back, after, rfl, _, _, hinner, hback⟩ := hothers.split hend
  clear hend
  rw [List.drop_drop, Nat.add_sub_cancel' (by omega)] at hback
  refine ⟨front, inner, back, ahead, after, rfl, hfront, ?_, hback⟩
  intro token htoken
  have hbounds := hinner.bounds token htoken
  rw [List.length_take] at hbounds
  unfold IsOutside
  omega

theorem beginsWithDirective_of_take {cs : List Char} {count : Nat}
    (h : beginsWithDirective (cs.take count) = true) : beginsWithDirective cs = true := by
  induction cs generalizing count with
  | nil => simpa using h
  | cons c rest ih =>
    cases count with
    | zero => cases h
    | succ count =>
      rw [List.take_succ_cons] at h
      by_cases hindent : isIndentation c = true
      . rw [beginsWithDirective_cons hindent] at h ⊢
        exact ih h
      . rw [beginsWithDirective_iff hindent] at h ⊢
        exact h

/-- What fits in a text fits in the front of it. -/
theorem FitsIn.take {count : Nat} {others : List Token} (hfits : edit.FitsIn text (tokens ++ others))
    (hle : edit.start ≤ edit.stop) (hcount : edit.stop < count)
    (hothers : ∀ token ∈ others, count ≤ token.start ∧ token.start ≤ token.stop) :
    edit.FitsIn (text.take count) tokens := by
  have hedge {offset : Int} (hoffset : offset < count) (h : IsEdge (tokens ++ others) offset) :
      IsEdge tokens offset := by
    obtain ⟨token, htoken, hend, heq⟩ := h
    rw [List.mem_append] at htoken
    cases htoken with
    | inl htoken => exact ⟨token, htoken, hend, heq⟩
    | inr htoken =>
      have := hothers token htoken
      omega
  constructor
  case start_isEdge => exact hedge (by omega) hfits.start_isEdge
  case stop_isEdge => exact hedge hcount hfits.stop_isEdge
  case front =>
    rw [List.take_take, Nat.min_eq_left (by omega)]
    exact hfits.front
  case back =>
    intro c hc d hd
    apply hfits.back c hc
    rw [List.drop_take, List.head?_take] at hd
    split at hd
    . cases hd
    . exact hd
  case plain =>
    rw [List.drop_take, Bool.eq_false_iff]
    intro h
    have hplain := hfits.plain
    rw [beginsWithDirective_of_take h] at hplain
    cases hplain

/-- What stands alone may stand between two texts if there is a seam at both of its ends. -/
theorem divides_between {origin : Nat} {ahead after : Bool} {behind : Option Bool}
    {head middle tail : List Char} {front back : List Token}
    (hhead : Divides 0 true head front (some ahead)) (hmiddle : StandsAlone middle)
    (htail : Divides origin after tail back behind) (hplain : beginsWithDirective tail = false)
    (hfront : Parted head middle) (hback : Parted middle tail) :
    ∃ inner behind', behind'.isSome = behind.isSome ∧ Divides 0 true (head ++ (middle ++ tail))
      (front ++ (inner ++ back.map (relocated origin (head.length + middle.length)))) behind' ∧
      ∃ start reached, Divides start ahead middle inner reached := by
  obtain ⟨hne, hdivides⟩ := hmiddle
  obtain ⟨inner, reached, hinner⟩ := hdivides (0 + head.length) ahead
  obtain ⟨behind', hrefreshed, hsome⟩ := htail.refresh hplain reached
  have hmoved := hrefreshed.relocate (0 + head.length + middle.length)
  refine ⟨inner, behind', hsome, ?_, _, reached, hinner⟩
  have hwhole := hhead.append (hinner.append hmoved hback) (by
    intro c hc d hd
    rw [List.head?_append_of_ne_nil _ hne] at hd
    exact hfront c hc d hd)
  rwa [Nat.zero_add] at hwhole

/-- Edits that stand alone and fit in keep the tokens of a text, and add no others but their own. -/
theorem exists_divides_foldl {behind : Option Bool} (h : Divides 0 true text tokens behind)
    (hinside : ∀ edit ∈ edits, edit.Inside text.length)
    (horder : edits.Pairwise fun edit other => other.IsBefore edit)
    (hapart : edits.Pairwise fun edit other => other.stop < edit.start)
    (hfits : ∀ edit ∈ edits, edit.FitsIn text tokens)
    (halone : ∀ edit ∈ edits, StandsAlone edit.replacement.toList) :
    ∃ others behind', Divides 0 true (edits.foldl (fun text edit => edit.apply text) text) others
        behind' ∧ behind'.isSome = behind.isSome ∧ KeepTokens edits tokens others ∧
        MakeTokens edits tokens others := by
  induction edits generalizing text tokens behind with
  | nil =>
    have hshift (offset : Nat) : shift [] offset = 0 := by simp [shift, growthOf]
    refine ⟨tokens, behind, h, rfl, ?_, ?_⟩
    . intro token htoken _
      exact ⟨token, htoken, rfl, rfl, by rw [hshift, Int.add_zero]⟩
    . intro token htoken
      exact .inl ⟨token, htoken, by simp, rfl, rfl, by rw [hshift, Int.add_zero]⟩
  | cons edit rest ih =>
    rw [foldl_cons_eq hinside horder]
    rw [List.forall_mem_cons] at hinside hfits halone
    rw [List.pairwise_cons] at horder hapart
    have hlength := length_take_start hinside.1
    have hrest : ∀ other ∈ rest, other.Inside (text.take edit.start.toNat).length :=
      fun other hother => inside_take hinside.1 (hinside.2 other hother) (horder.1 other hother)
    have hends : ∀ other ∈ rest, other.stop < (text.take edit.start.toNat).length := by
      intro other hother
      rw [hlength]
      have := hapart.1 other hother
      omega
    obtain ⟨front, inner, back, ahead, after, rfl, hfront, hinner, hback⟩ :=
      hfits.1.split hinside.1 h
    have hbehind : ∀ token ∈ inner ++ back, edit.start.toNat ≤ token.start ∧
        token.start ≤ token.stop := by
      have := hinside.1.start_le_stop
      intro token htoken
      refine ⟨?_, Nat.le_add_right _ _⟩
      rw [List.mem_append] at htoken
      cases htoken with
      | inl htoken =>
        have := (hinner token htoken).1
        omega
      | inr htoken =>
        have := (hback.bounds token htoken).1
        omega
    have hfitsRest : ∀ other ∈ rest, other.FitsIn (text.take edit.start.toNat) front := by
      intro other hother
      have := hapart.1 other hother
      exact (hfits.2 other hother).take (hinside.2 other hother).start_le_stop (by omega) hbehind
    obtain ⟨others, reached, hothers, hsome, hkept, hmade⟩ :=
      ih hfront hrest horder.2 hapart.2 hfitsRest halone.2
    obtain ⟨reached, rfl⟩ := Option.isSome_iff_exists.1 hsome
    have hlast := getLast?_foldl hrest horder.2 hends
    obtain ⟨middle, behind', hsome', hwhole, start, _, hmiddle⟩ :=
      divides_between hothers halone.1 hback hfits.1.plain (by
        intro c hc
        rw [hlast] at hc
        exact hfits.1.front c hc) hfits.1.back
    have hgrown := (@foldl_apply_append rest _ [] hrest horder.2).2
    -- the tokens behind the edit are moved by all edits
    have hmoved : ∀ token ∈ back, (∀ other ∈ edit :: rest, other.stop ≤ token.start) ∧
        ((relocated edit.stop.toNat ((rest.foldl (fun text edit => edit.apply text)
          (text.take edit.start.toNat)).length + edit.replacement.toList.length) token).start : Int)
          = token.start + shift (edit :: rest) token.start := by
      intro token hmem
      have hbounds := hback.bounds token hmem
      have hstops : ∀ other ∈ edit :: rest, other.stop ≤ token.start := by
        rw [List.forall_mem_cons]
        refine ⟨by omega, ?_⟩
        intro other hother
        have := hapart.1 other hother
        have := hinside.1.start_le_stop
        omega
      have := hinside.1.start_nonneg
      have := hinside.1.start_le_stop
      rw [shift_eq_of_le hstops, growthOf_cons, if_pos rfl, growth, ← String.length_toList]
      rw [relocated]
      refine ⟨hstops, ?_⟩
      dsimp only
      omega
    have hbefore : ∀ token ∈ front, token.stop ≤ edit.start ∧
        shift (edit :: rest) token.start = shift rest token.start := by
      intro token hmem
      have hbounds := hfront.bounds token hmem
      have := hinside.1.start_le_stop
      have := hinside.1.start_nonneg
      exact ⟨by omega, shift_eq_of_lt (by omega)⟩
    refine ⟨_, behind', hwhole, hsome', ?_, ?_⟩
    . intro token htoken houtside
      rw [List.mem_append, List.mem_append] at htoken
      rw [List.forall_mem_cons] at houtside
      rcases htoken with hmem | hmem | hmem
      . obtain ⟨other, hother, hkind, htext, hstart⟩ := hkept token hmem houtside.2
        rw [(hbefore token hmem).2]
        exact ⟨other, List.mem_append_left _ hother, hkind, htext, hstart⟩
      . exact absurd houtside.1 (hinner token hmem).2
      . exact ⟨relocated _ _ token, List.mem_append_right _ (List.mem_append_right _
          (List.mem_map_of_mem hmem)), rfl, rfl, (hmoved token hmem).2⟩
    . intro other hother
      rw [List.mem_append, List.mem_append, List.mem_map] at hother
      rcases hother with hmem | hmem | ⟨token, hmem, rfl⟩
      . obtain ⟨token, htoken, houtside, hkind, htext, hstart⟩ | ⟨made, hedit, hdivides⟩ :=
          hmade other hmem
        . left
          obtain ⟨hstop, hshift⟩ := hbefore token htoken
          refine ⟨token, List.mem_append_left _ htoken, ?_, hkind, htext, by rw [hshift, hstart]⟩
          exact List.forall_mem_cons.2 ⟨.inl hstop, houtside⟩
        . exact .inr ⟨made, List.mem_cons_of_mem _ hedit, hdivides⟩
      . exact .inr ⟨edit, List.mem_cons_self, start, reached, middle, _, other, hmem, hmiddle, rfl,
          rfl⟩
      . left
        obtain ⟨hstops, hstart⟩ := hmoved token hmem
        exact ⟨token, List.mem_append_right _ (List.mem_append_right _ hmem),
          fun edit hedit => .inr (hstops edit hedit), rfl, rfl, hstart⟩

/-! ### The tokens of an edited text -/

theorem IsEdge.withoutTrivia {last : Token} {offset : Int} (h : IsEdge (tokens ++ [last]) offset)
    (hlast : last.isEnd = true) : IsEdge (tokens.map Token.withoutTrivia) offset := by
  obtain ⟨token, htoken, hend, heq⟩ := h
  rw [List.mem_append, List.mem_singleton] at htoken
  cases htoken with
  | inl htoken => exact ⟨_, List.mem_map_of_mem htoken, hend, heq⟩
  | inr htoken =>
    rw [htoken, hlast] at hend
    cases hend

/--
Edits that stand alone, fit in a text and do not touch each other keep its tokens, and add no others
but their own.
-/
theorem exists_tokens (htokens : tokensFrom 0 true text = .ok tokens)
    (hinside : ∀ edit ∈ edits, edit.Inside text.length)
    (hcompatible : edits.Pairwise fun edit other => edit.conflictsWith other = false)
    (hapart : edits.Pairwise fun edit other => edit.stop < other.start ∨ other.stop < edit.start)
    (hfits : ∀ edit ∈ edits, edit.FitsIn text tokens)
    (halone : ∀ edit ∈ edits, StandsAlone edit.replacement.toList) :
    ∃ others, tokensFrom 0 true (splice text edits) = .ok others ∧
      KeepTokens edits tokens others ∧ MakeTokens edits tokens others := by
  have hperm := inOrder_perm edits
  have horder := pairwise_inOrder hinside hcompatible
  have hinside : ∀ edit ∈ inOrder edits, edit.Inside text.length :=
    fun edit hedit => hinside edit (hperm.mem_iff.1 hedit)
  have hapart : (inOrder edits).Pairwise fun edit other => other.stop < edit.start := by
    have hboth := horder.and (hapart.perm hperm.symm fun h => h.symm)
    apply hboth.imp_of_mem
    rintro edit other hedit hother ⟨hbefore, hapart⟩
    have := (hinside edit hedit).start_le_stop
    unfold IsBefore at hbefore
    omega
  obtain ⟨front, last, rfl, hlast, hdivides⟩ := Divides.of_tokensFrom htokens
  obtain ⟨hkind, htext, hstart⟩ : last.kind = .eof ∧ last.text = "" ∧ last.start = text.length := by
    simpa [withoutTrivia] using hlast
  have hend : last.isEnd = true := isEnd_iff.2 hkind
  have hfits : ∀ edit ∈ inOrder edits, edit.FitsIn text (front.map withoutTrivia) := by
    intro edit hedit
    obtain ⟨hstart, hstop, hfront, hback, hplain⟩ := hfits edit (hperm.mem_iff.1 hedit)
    exact ⟨hstart.withoutTrivia hend, hstop.withoutTrivia hend, hfront, hback, hplain⟩
  obtain ⟨others, _, hothers, _, hkept, hmade⟩ := exists_divides_foldl hdivides hinside horder hapart
    hfits (fun edit hedit => halone edit (hperm.mem_iff.1 hedit))
  obtain ⟨found, hfound, hmap⟩ := hothers.tokensFrom_eq
  have hshift (offset : Nat) : shift (inOrder edits) offset = shift edits offset :=
    growthOf_perm hperm _
  have hexists {token : Token} (h : token ∈ found.map withoutTrivia) :
      ∃ other ∈ found, other.kind = token.kind ∧ other.text = token.text ∧
        other.start = token.start := by
    obtain ⟨other, hother, rfl⟩ := List.mem_map.1 h
    exact ⟨other, hother, rfl, rfl, rfl⟩
  have hends : (∀ edit ∈ edits, last.IsOutside edit) ∧ ((0 + (List.foldl
      (fun text edit => edit.apply text) text (inOrder edits)).length : Nat) : Int)
        = last.start + shift edits last.start := by
    have hlength := (@foldl_apply_append (inOrder edits) text [] hinside horder).2
    have hstops : ∀ edit ∈ inOrder edits, edit.stop ≤ last.start := by
      intro edit hedit
      rw [hstart]
      exact (hinside edit hedit).stop_le
    rw [← hshift, shift_eq_of_le hstops, hstart, Nat.zero_add]
    exact ⟨fun edit hedit => .inr (hstops edit (hperm.mem_iff.2 hedit)), hlength⟩
  refine ⟨found, hfound, ?_, ?_⟩
  . rw [hmap] at hexists
    intro token htoken houtside
    rw [List.mem_append, List.mem_singleton] at htoken
    cases htoken with
    | inl htoken =>
      obtain ⟨moved, hmoved, hkind, htext, hstart⟩ :=
        hkept token.withoutTrivia (List.mem_map_of_mem htoken)
          (fun edit hedit => houtside edit (hperm.mem_iff.1 hedit))
      obtain ⟨other, hother, hkind', htext', hstart'⟩ := hexists (List.mem_append_left _ hmoved)
      refine ⟨other, hother, hkind'.trans hkind, htext'.trans htext, ?_⟩
      rw [hstart', hstart, hshift]
      rfl
    | inr htoken =>
      obtain ⟨other, hother, hkind', htext', hstart'⟩ :=
        hexists (List.mem_append_right _ (List.mem_singleton_self _))
      rw [htoken]
      refine ⟨other, hother, hkind'.trans hkind.symm, htext'.trans htext.symm, ?_⟩
      rw [hstart']
      exact hends.2
  . intro other hother
    have hmem : other.withoutTrivia ∈ found.map withoutTrivia := List.mem_map_of_mem hother
    rw [hmap, List.mem_append, List.mem_singleton] at hmem
    cases hmem with
    | inl hmem =>
      obtain ⟨token, htoken, houtside, hkind, htext, hstart⟩ | ⟨edit, hedit, hdivides⟩ :=
        hmade _ hmem
      . obtain ⟨first, hfirst, rfl⟩ := List.mem_map.1 htoken
        rw [hshift] at hstart
        exact .inl ⟨first, List.mem_append_left _ hfirst,
          fun edit hedit => houtside edit (hperm.mem_iff.2 hedit), hkind, htext, hstart⟩
      . exact .inr ⟨edit, hperm.mem_iff.1 hedit, hdivides⟩
    | inr hmem =>
      obtain ⟨hkind', htext', hstart'⟩ : other.kind = .eof ∧ other.text = "" ∧ other.start = _ := by
        simpa only [withoutTrivia, Token.mk.injEq, and_true] using hmem
      refine .inl ⟨last, List.mem_append_right _ (List.mem_singleton_self _), hends.1,
        hkind'.trans hkind.symm, htext'.trans htext.symm, ?_⟩
      rw [hstart']
      exact hends.2

end Edit

end ThreadLint
