import ThreadLint.Proofs.Symbol.Lookup

/-!
This module contains what becomes of a word inside a name when the name is brought into its normal
form: the word is kept where it stands or dropped with what is around it, and any other word in its
place fares the same.
-/

namespace ThreadLint.Symbol

/-! ### Words in names -/

/--
Whether a character means nothing in a name.
-/
def isPlain (c : Char) : Bool :=
  !Text.isBlank c && !isAngle c && c != ':' && c != '.' && c != '?'

/--
Whether a word says nothing about the structure of the names that it stands in.
-/
structure IsSimple (word : List Char) : Prop where
  ne_nil : word ≠ []
  isPlain : ∀ c ∈ word, isPlain c = true
  notGlobal : ∀ c ∈ word.head?, c ∉ "global::".toList

theorem isSimple_iff {word : List Char} : word ≠ [] ∧ word.all isPlain = true ∧
    word.head?.all (fun c => decide (c ∉ "global::".toList)) = true ↔ IsSimple word := by
  constructor
  . rintro ⟨hne, hplain, hglobal⟩
    refine ⟨hne, List.all_eq_true.1 hplain, fun c hc => ?_⟩
    rw [Option.mem_def.1 hc, Option.all_some] at hglobal
    exact of_decide_eq_true hglobal
  . rintro ⟨hne, hplain, hglobal⟩
    refine ⟨hne, List.all_eq_true.2 hplain, ?_⟩
    cases hhead : word.head? with
    | none => rfl
    | some c => exact decide_eq_true (hglobal c hhead)

instance (word : List Char) : Decidable (IsSimple word) :=
  decidable_of_iff _ isSimple_iff

theorem isPlain_iff {c : Char} : isPlain c = true ↔
    Text.isBlank c = false ∧ isAngle c = false ∧ c ≠ ':' ∧ c ≠ '.' ∧ c ≠ '?' := by
  simp [isPlain, and_assoc]

/--
What is done to each word at a place in a name: it is kept, or dropped with what is around it.
-/
inductive Treats (f : List Char → List Char) (front back : List Char) : Prop where
  | keeps (front' back' : List Char)
    (h : ∀ word, IsSimple word → f (front ++ (word ++ back)) = front' ++ (word ++ back'))
  | drops (rest : List Char) (h : ∀ word, IsSimple word → f (front ++ (word ++ back)) = rest)

theorem Treats.comp {f g : List Char → List Char} {front back : List Char} (hf : Treats f front back)
    (hg : ∀ front back, Treats g front back) : Treats (fun cs => g (f cs)) front back := by
  cases hf with
  | drops rest hf => exact .drops (g rest) fun word hword => by rw [hf word hword]
  | keeps front' back' hf =>
    cases hg front' back' with
    | keeps front'' back'' hg =>
      exact .keeps front'' back'' fun word hword => by rw [hf word hword, hg word hword]
    | drops rest hg => exact .drops rest fun word hword => by rw [hf word hword, hg word hword]

/-! ### Steps towards the normal form -/

theorem filter_word {word : List Char} (h : ∀ c ∈ word, isPlain c = true) :
    word.filter (fun c => !Text.isBlank c) = word := by
  rw [List.filter_eq_self]
  intro c hc
  rw [(isPlain_iff.1 (h c hc)).1, Bool.not_false]

theorem treats_filter (front back : List Char) :
    Treats (List.filter fun c => !Text.isBlank c) front back := by
  refine .keeps (front.filter fun c => !Text.isBlank c) (back.filter fun c => !Text.isBlank c)
    fun word hword => ?_
  rw [List.filter_append, List.filter_append, filter_word hword.isPlain]

/-- White space around a word is dropped without the word. -/
theorem toList_dropBlanks {text : String} {front word back : List Char}
    (hword : ∀ c ∈ word, isPlain c = true) (h : text.toList = front ++ (word ++ back)) :
    (Text.dropBlanks text).toList = front.filter (fun c => !Text.isBlank c) ++
      (word ++ back.filter fun c => !Text.isBlank c) := by
  rw [Text.dropBlanks, String.toList_ofList, h, List.filter_append, List.filter_append,
    filter_word hword]

theorem treats_dropGlobal (front back : List Char) : Treats dropGlobal front back := by
  unfold dropGlobal
  by_cases h : "global::".toList <+: front
  . obtain ⟨rest, rfl⟩ := h
    refine .keeps rest back fun word _ => ?_
    rw [List.append_assoc, if_pos (List.isPrefixOf_iff_prefix.2 (List.prefix_append _ _)),
      List.drop_left]
  . refine .keeps front back fun word hword => if_neg ?_
    rw [List.isPrefixOf_iff_prefix]
    intro hglobal
    obtain ⟨c, rest, rfl⟩ := List.exists_cons_of_ne_nil hword.ne_nil
    -- The prefix ends in front of the word, or has its first character.
    obtain hlt | hle := Nat.lt_or_ge front.length "global::".toList.length
    . have hget := hglobal.getElem hlt
      rw [List.getElem_append_right (Nat.le_refl _)] at hget
      simp only [Nat.sub_self, List.cons_append, List.getElem_cons_zero] at hget
      exact hword.notGlobal c rfl (hget ▸ List.getElem_mem hlt)
    . exact h (List.prefix_of_prefix_length_le hglobal (List.prefix_append _ _) hle)

theorem dotted_cons {c : Char} (h : c ≠ ':') (rest : List Char) :
    dotted (c :: rest) = c :: dotted rest := by
  rw [dotted]
  exact fun _ heq => absurd heq h

theorem dotted_word {word : List Char} (h : ∀ c ∈ word, isPlain c = true) (back : List Char) :
    dotted (word ++ back) = word ++ dotted back := by
  induction word with
  | nil => rfl
  | cons c rest ih =>
    rw [List.forall_mem_cons] at h
    rw [List.cons_append, dotted_cons (isPlain_iff.1 h.1).2.2.1, ih h.2, List.cons_append]

theorem treats_dotted (front back : List Char) : Treats dotted front back := by
  refine .keeps (dotted front) (dotted back) fun word hword => ?_
  fun_induction dotted front with
  | case1 rest ih => rw [List.cons_append, List.cons_append, dotted, ih, List.cons_append]
  | case2 c rest hpair ih =>
    cases rest with
    | nil =>
      obtain ⟨d, word, rfl⟩ := List.exists_cons_of_ne_nil hword.ne_nil
      have hd := (isPlain_iff.1 (hword.isPlain d List.mem_cons_self)).2.2.1
      rw [List.nil_append] at ih
      rw [List.cons_append, List.nil_append, dotted, ih]
      . rfl
      . intro _ _ heq
        rw [List.cons_append, List.cons.injEq] at heq
        exact absurd heq.1 hd
    | cons d rest =>
      rw [List.cons_append, dotted, ih, List.cons_append]
      intro more hc heq
      rw [List.cons_append, List.cons.injEq] at heq
      exact hpair rest hc (by rw [heq.1])
  | case3 => exact dotted_word hword.isPlain back

/-! ### Angle brackets -/

theorem dropInnermost_cons {c : Char} (h : c ≠ '<') (rest : List Char) :
    dropInnermost (c :: rest) = c :: dropInnermost rest := by
  rw [dropInnermost, if_neg (by simpa using h)]

/-- What an innermost pair of angle brackets holds is dropped with them. -/
theorem dropInnermost_pair {inside : List Char} (h : ∀ c ∈ inside, isAngle c = false)
    (rest : List Char) :
    dropInnermost ('<' :: (inside ++ '>' :: rest)) = dropInnermost rest := by
  have htake : (inside ++ '>' :: rest).takeWhile (fun c => !isAngle c) = inside := by
    rw [List.takeWhile_append_of_pos (by simpa using h)]
    simp [isAngle]
  rw [dropInnermost, if_pos (beq_self_eq_true _)]
  dsimp only
  rw [htake, if_pos (by simp), List.append_cons, List.drop_left' (by simp)]

/-- A bracket is kept if no other one closes it. -/
theorem dropInnermost_open {cs : List Char}
    (h : (cs.dropWhile fun c => !isAngle c).head? ≠ some '>') :
    dropInnermost ('<' :: cs) = '<' :: dropInnermost cs := by
  rw [dropInnermost, if_pos (beq_self_eq_true _)]
  dsimp only
  rw [if_neg]
  rw [beq_iff_eq]
  intro hclose
  have hsplit : cs.takeWhile (fun c => !isAngle c) ++ cs.dropWhile (fun c => !isAngle c) = cs :=
    List.takeWhile_append_dropWhile
  apply h
  rw [List.head?_eq_getElem?, ← hclose]
  nth_rewrite 2 [← hsplit]
  rw [List.getElem?_append_right (Nat.le_refl _), Nat.sub_self]

theorem dropInnermost_word {word : List Char} (h : ∀ c ∈ word, isPlain c = true)
    (back : List Char) : dropInnermost (word ++ back) = word ++ dropInnermost back := by
  induction word with
  | nil => rfl
  | cons c rest ih =>
    rw [List.forall_mem_cons] at h
    have hc : c ≠ '<' := by
      rintro rfl
      exact absurd h.1 (by decide)
    rw [List.cons_append, dropInnermost_cons hc, ih h.2, List.cons_append]

theorem exists_pair {cs : List Char}
    (h : (cs.dropWhile fun c => !isAngle c).head? = some '>') :
    ∃ inside rest, (∀ c ∈ inside, isAngle c = false) ∧ cs = inside ++ '>' :: rest := by
  obtain ⟨rest, hrest⟩ := List.head?_eq_some_iff.1 h
  refine ⟨cs.takeWhile fun c => !isAngle c, rest, ?_, ?_⟩
  . intro c hc
    simpa using List.all_eq_true.1 List.all_takeWhile c hc
  . rw [← hrest, List.takeWhile_append_dropWhile]

theorem length_dropInnermost_le (cs : List Char) : (dropInnermost cs).length ≤ cs.length := by
  fun_induction dropInnermost cs with
  | case1 => exact Nat.le_refl _
  | case2 c rest hc inside hclose ih =>
    rw [List.length_drop] at ih
    rw [List.length_cons]
    omega
  | case3 c rest hc inside hopen ih =>
    rw [List.length_cons, List.length_cons]
    omega
  | case4 c rest hc ih =>
    rw [List.length_cons, List.length_cons]
    omega

/-- A word inside of an innermost pair is dropped with the pair. -/
theorem dropInnermost_treats (front back : List Char) :
    (∃ front' back', ∀ word, IsSimple word →
      dropInnermost (front ++ (word ++ back)) = front' ++ (word ++ back')) ∨
    ∃ rest, rest.length ≤ front.length + back.length ∧ ∀ word, IsSimple word →
      dropInnermost (front ++ (word ++ back)) = rest := by
  match front with
  | [] => exact .inl ⟨[], dropInnermost back, fun word hword => dropInnermost_word hword.isPlain back⟩
  | c :: front =>
    -- All but a pair that begins here is treated like what is behind the first character.
    have hcons (h : ∀ word, IsSimple word → dropInnermost (c :: (front ++ (word ++ back)))
        = c :: dropInnermost (front ++ (word ++ back))) :
        (∃ front' back', ∀ word, IsSimple word →
          dropInnermost (c :: front ++ (word ++ back)) = front' ++ (word ++ back')) ∨
        ∃ rest, rest.length ≤ (c :: front).length + back.length ∧ ∀ word, IsSimple word →
          dropInnermost (c :: front ++ (word ++ back)) = rest := by
      obtain ⟨front', back', hkeeps⟩ | ⟨rest, hle, hdrops⟩ := dropInnermost_treats front back
      . refine .inl ⟨c :: front', back', fun word hword => ?_⟩
        rw [List.cons_append, h word hword, hkeeps word hword, List.cons_append]
      . refine .inr ⟨c :: rest, ?_, fun word hword => ?_⟩
        . rw [List.length_cons, List.length_cons]
          omega
        . rw [List.cons_append, h word hword, hdrops word hword]
    by_cases hc : c = '<'
    . subst hc
      cases hfront : (front.dropWhile fun c => !isAngle c).head? with
      | some d =>
        by_cases hd : d = '>'
        . subst hd
          obtain ⟨inside, behind, hinside, rfl⟩ := exists_pair hfront
          obtain ⟨front', back', hkeeps⟩ | ⟨rest, hle, hdrops⟩ := dropInnermost_treats behind back
          . refine .inl ⟨front', back', fun word hword => ?_⟩
            rw [List.cons_append, List.append_assoc, List.cons_append, dropInnermost_pair hinside,
              hkeeps word hword]
          . refine .inr ⟨rest, ?_, fun word hword => ?_⟩
            . simp only [List.length_cons, List.length_append]
              omega
            . rw [List.cons_append, List.append_assoc, List.cons_append, dropInnermost_pair hinside,
                hdrops word hword]
        . apply hcons
          intro word _
          apply dropInnermost_open
          obtain ⟨more, hmore⟩ := List.head?_eq_some_iff.1 hfront
          rw [List.dropWhile_append, hmore]
          simpa using hd
      | none =>
        have hplain : ∀ c ∈ front, isAngle c = false := by
          have hall : front.takeWhile (fun c => !isAngle c) ++ front.dropWhile (fun c => !isAngle c)
              = front := List.takeWhile_append_dropWhile
          rw [List.head?_eq_none_iff.1 hfront, List.append_nil] at hall
          intro c hc
          rw [← hall] at hc
          simpa using List.all_eq_true.1 List.all_takeWhile c hc
        by_cases hback : (back.dropWhile fun c => !isAngle c).head? = some '>'
        . obtain ⟨inside, behind, hinside, rfl⟩ := exists_pair hback
          refine .inr ⟨dropInnermost behind, ?_, fun word hword => ?_⟩
          . have := length_dropInnermost_le behind
            simp only [List.length_cons, List.length_append]
            omega
          . have hall : ∀ c ∈ front ++ (word ++ inside), isAngle c = false := by
              intro c hc
              rw [List.mem_append, List.mem_append] at hc
              obtain hc | hc | hc := hc
              . exact hplain c hc
              . exact (isPlain_iff.1 (hword.isPlain c hc)).2.1
              . exact hinside c hc
            rw [← dropInnermost_pair hall behind]
            simp only [List.cons_append, List.append_assoc]
        . apply hcons
          intro word hword
          apply dropInnermost_open
          rwa [List.dropWhile_append_of_pos (by simpa using hplain),
            List.dropWhile_append_of_pos]
          intro c hc
          rw [(isPlain_iff.1 (hword.isPlain c hc)).2.1, Bool.not_false]
    . exact hcons fun word _ => dropInnermost_cons hc _
termination_by front.length

theorem treats_dropAngles (front back : List Char) : Treats dropAngles front back := by
  have hstop {word : List Char} (hword : IsSimple word) : 0 < word.length :=
    List.length_pos_of_ne_nil hword.ne_nil
  obtain ⟨front', back', hkeeps⟩ | ⟨rest, hle, hdrops⟩ := dropInnermost_treats front back
  . by_cases hlt : front'.length + back'.length < front.length + back.length
    . have hnext (word : List Char) (hword : IsSimple word) :
          dropAngles (front ++ (word ++ back)) = dropAngles (front' ++ (word ++ back')) := by
        rw [dropAngles, hkeeps word hword, if_pos]
        simp only [List.length_append]
        omega
      cases treats_dropAngles front' back' with
      | keeps front'' back'' h =>
        exact .keeps front'' back'' fun word hword => by rw [hnext word hword, h word hword]
      | drops rest h => exact .drops rest fun word hword => by rw [hnext word hword, h word hword]
    . refine .keeps front back fun word hword => ?_
      rw [dropAngles, hkeeps word hword, if_neg]
      simp only [List.length_append]
      omega
  . refine .drops (dropAngles rest) fun word hword => ?_
    have := hstop hword
    rw [dropAngles, hdrops word hword, if_pos]
    simp only [List.length_append]
    omega
termination_by front.length + back.length

/--
The characters of a text without question marks at their end.
-/
def dropMarks (cs : List Char) : List Char :=
  (cs.reverse.dropWhile (· == '?')).reverse

theorem dropWhile_word {word : List Char} (h : ∀ c ∈ word, isPlain c = true) (hne : word ≠ [])
    (front : List Char) :
    (front ++ word).reverse.dropWhile (· == '?') = (front ++ word).reverse := by
  rw [List.reverse_append]
  cases hreverse : word.reverse with
  | nil => exact absurd (List.reverse_eq_nil_iff.1 hreverse) hne
  | cons c rest =>
    have hmem : c ∈ word := List.mem_reverse.1 (hreverse ▸ List.mem_cons_self)
    have hc := (isPlain_iff.1 (h c hmem)).2.2.2.2
    rw [List.cons_append, List.dropWhile_cons_of_neg (by simpa using hc)]

theorem treats_dropMarks (front back : List Char) : Treats dropMarks front back := by
  refine .keeps front (dropMarks back) fun word hword => ?_
  unfold dropMarks
  rw [← List.append_assoc, List.reverse_append, List.dropWhile_append]
  split
  . next hempty =>
    -- All marks behind the word are dropped, and the word does not end in one.
    rw [List.isEmpty_iff] at hempty
    rw [hempty, dropWhile_word hword.isPlain hword.ne_nil, List.reverse_reverse, List.reverse_nil,
      List.append_nil]
  . rw [List.reverse_append, List.reverse_reverse, List.append_assoc]

theorem toList_normalize (name : String) :
    (normalize name).toList = dropMarks (dropAngles (dotted (dropGlobal
      (name.toList.filter fun c => !Text.isBlank c)))) := by
  simp [normalize, Text.trimEnd, Text.dropBlanks, dropMarks]

/-- In the normal form of a name a word is kept or dropped as any other word would be in its place. -/
theorem normalize_treats (front back : List Char) :
    (∃ front' back', ∀ word name, IsSimple word → name.toList = front ++ (word ++ back) →
      (normalize name).toList = front' ++ (word ++ back')) ∨
    ∃ rest, ∀ word name, IsSimple word → name.toList = front ++ (word ++ back) →
      normalize name = rest := by
  have htreats : Treats (fun cs => dropMarks (dropAngles (dotted (dropGlobal
      (cs.filter fun c => !Text.isBlank c))))) front back :=
    ((((treats_filter front back).comp treats_dropGlobal).comp treats_dotted).comp
      treats_dropAngles).comp treats_dropMarks
  cases htreats with
  | keeps front' back' h =>
    refine .inl ⟨front', back', fun word name hword hname => ?_⟩
    rw [toList_normalize, hname, h word hword]
  | drops rest h =>
    refine .inr ⟨String.ofList rest, fun word name hword hname => String.toList_injective ?_⟩
    rw [toList_normalize, hname, h word hword, String.toList_ofList]

example : normalize "global::Job<int> . Wait" = "Job.Wait" := by
  decide +kernel

/-- A name without anything but plain characters is its own normal form. -/
theorem normalize_of_isPlain {name : String} (h : ∀ c ∈ name.toList, isPlain c = true) :
    normalize name = name := by
  have hglobal : dropGlobal name.toList = name.toList := by
    unfold dropGlobal
    rw [if_neg]
    intro hopens
    have hmem := (List.isPrefixOf_iff_prefix.1 hopens).subset (by decide : ':' ∈ "global::".toList)
    exact (isPlain_iff.1 (h _ hmem)).2.2.1 rfl
  have hdotted : dotted name.toList = name.toList := by
    have := dotted_word h []
    rwa [List.append_nil, dotted, List.append_nil] at this
  have hangles : dropAngles name.toList = name.toList := by
    have := dropInnermost_word h []
    rw [List.append_nil, dropInnermost, List.append_nil] at this
    rw [dropAngles, this, if_neg (Nat.lt_irrefl _)]
  have hmarks : dropMarks name.toList = name.toList := by
    unfold dropMarks
    by_cases hne : name.toList = []
    . rw [hne, List.reverse_nil, List.dropWhile_nil, List.reverse_nil]
    . have := dropWhile_word h hne []
      rw [List.nil_append] at this
      rw [this, List.reverse_reverse]
  apply String.toList_injective
  rw [toList_normalize, filter_word h, hglobal, hdotted, hangles, hmarks]

end ThreadLint.Symbol
