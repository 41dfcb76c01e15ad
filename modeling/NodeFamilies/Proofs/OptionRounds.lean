import NodeFamilies.Proofs.OptionLayers

/-!
# Layers of options, round by round

A layer of `Option` is what the pattern `^Option\s*<\s*(.*?)\s*>$` matches, and the layers come off
in rounds, until the pattern does not match any more. A pattern is matched by trying: the runs of a
part are tried one after the other, and the first that lets the rest match counts. Which run that is
can be said without any trying.
-/

namespace NodeFamilies

open Text (isBlank trim trimStart trimEnd allBlank)

/-! ## Patterns -/

namespace Pattern

/-- A part of a pattern: a word, or a run of characters of one kind. A greedy run is as long as it
can be, a lazy one as short as it can be, and only what the lazy ones take is kept. -/
inductive Atom where
  | word (w : List Char)
  | greedy (p : Char → Bool)
  | lazy (p : Char → Bool)

/-- The ways to cut a run off the front, the shortest run first. -/
def cuts (p : Char → Bool) : List Char → List (List Char × List Char)
  | [] => [([], [])]
  | c :: s =>
    ([], c :: s) :: if p c then (cuts p s).map fun cut => (c :: cut.1, cut.2) else []

/-- What is kept of a text that the pattern matches as a whole, in the first way that is found. -/
def capture? : List Atom → List Char → Option (List Char)
  | [], s => if s = [] then some [] else none
  | .word w :: atoms, s => (Payload.afterWord? w s).bind (capture? atoms)
  | .greedy p :: atoms, s => (cuts p s).reverse.findSome? fun cut => capture? atoms cut.2
  | .lazy p :: atoms, s =>
    (cuts p s).findSome? fun cut => (capture? atoms cut.2).map (cut.1 ++ ·)

variable {p : Char → Bool} {s : List Char} {atoms : List Atom}

theorem of_mem_cuts {cut : List Char × List Char} (h : cut ∈ cuts p s) :
    (∀ c ∈ cut.1, p c = true) ∧ s = cut.1 ++ cut.2 := by
  induction s generalizing cut with
  | nil =>
    obtain rfl := List.mem_singleton.mp h
    simp
  | cons c s ih =>
    rw [cuts, List.mem_cons] at h
    rcases h with rfl | h
    · simp
    · split at h
      · rename_i hc
        obtain ⟨cut', hmem, rfl⟩ := List.mem_map.mp h
        obtain ⟨hrun, hs⟩ := ih hmem
        exact ⟨List.forall_mem_cons.mpr ⟨hc, hrun⟩, congrArg (c :: ·) hs⟩
      · cases h

theorem getLast?_cuts (p : Char → Bool) (s : List Char) :
    (cuts p s).getLast? = some (s.takeWhile p, s.dropWhile p) := by
  induction s with
  | nil => rfl
  | cons c s ih =>
    rw [cuts, List.getLast?_cons]
    split
    · rename_i hc
      simp [List.getLast?_map, ih, hc]
    · rename_i hc
      simp [hc]

theorem capture?_greedy (h : ∀ w t, (∀ c ∈ w, p c = true) → capture? atoms t = none →
    capture? atoms (w ++ t) = none) (s : List Char) :
    capture? (.greedy p :: atoms) s = capture? atoms (s.dropWhile p) := by
  -- A greedy run takes all it can if giving some of it back never helps.
  obtain ⟨shorter, hcuts⟩ := List.getLast?_eq_some_iff.mp (getLast?_cuts p s)
  rw [capture?, hcuts, List.reverse_concat, List.findSome?_cons]
  cases hrest : capture? atoms (s.dropWhile p) with
  | some kept => rfl
  | none =>
    rw [List.findSome?_eq_none_iff]
    intro cut hcut
    have hmem : cut ∈ cuts p s := by simpa [hcuts] using Or.inl (List.mem_reverse.mp hcut)
    obtain ⟨hrun, hs⟩ := of_mem_cuts hmem
    have hdrop : s.dropWhile p = cut.2.dropWhile p := by
      rw [hs, List.dropWhile_append_of_pos hrun]
    rw [hdrop] at hrest
    rw [← List.takeWhile_append_dropWhile (p := p) (l := cut.2)]
    exact h _ _ (fun c hc => List.mem_takeWhile_imp hc) hrest

theorem capture?_greedy_word {c : Char} (hc : p c = false) (w s : List Char) :
    capture? (.greedy p :: .word (c :: w) :: atoms) s =
      capture? (.word (c :: w) :: atoms) (s.dropWhile p) := by
  apply capture?_greedy
  intro run t hrun ht
  cases run with
  | nil => exact ht
  | cons d run =>
    have hd : d ≠ c := by
      rintro rfl
      rw [List.forall_mem_cons, hc] at hrun
      cases hrun.1
    simp [capture?, Payload.afterWord?, hd]

theorem capture?_lazy_cons (p : Char → Bool) (atoms : List Atom) (c : Char) (s : List Char) :
    capture? (.lazy p :: atoms) (c :: s) = (capture? atoms (c :: s)).or
      (if p c then (capture? (.lazy p :: atoms) s).map (c :: ·) else none) := by
  rw [capture?, cuts, List.findSome?_cons]
  cases capture? atoms (c :: s) with
  | some kept => simp
  | none =>
    by_cases hc : p c = true
    · simp [hc, capture?, List.findSome?_map, List.map_findSome?, Function.comp_def]
    · simp [hc]

theorem suffix_of_capture? (atoms : List Atom) {w kept : List Char}
    (h : capture? (atoms ++ [.word w]) s = some kept) : w <:+ s := by
  induction atoms generalizing s kept with
  | nil =>
    obtain ⟨rest, hrest, hend⟩ := Option.bind_eq_some_iff.mp h
    obtain rfl := Payload.afterWord?_eq_some_iff.mp hrest
    obtain rfl : rest = [] := by
      by_contra hne
      simp [capture?, hne] at hend
    simp
  | cons atom atoms ih =>
    cases atom with
    | word w' =>
      obtain ⟨rest, hrest, hatoms⟩ := Option.bind_eq_some_iff.mp h
      obtain rfl := Payload.afterWord?_eq_some_iff.mp hrest
      exact (ih hatoms).trans (List.suffix_append _ _)
    | greedy p =>
      obtain ⟨cut, hcut, hatoms⟩ := List.exists_of_findSome?_eq_some h
      rw [(of_mem_cuts (List.mem_reverse.mp hcut)).2]
      exact (ih hatoms).trans (List.suffix_append _ _)
    | lazy p =>
      obtain ⟨cut, hcut, hatoms⟩ := List.exists_of_findSome?_eq_some h
      obtain ⟨kept', hkept', -⟩ := Option.map_eq_some_iff.mp hatoms
      rw [(of_mem_cuts hcut).2]
      exact (ih hkept').trans (List.suffix_append _ _)

end Pattern

/-! ## Blanks at the end -/

namespace Text

theorem trimEnd_eq_nil_iff (s : List Char) : trimEnd s = [] ↔ allBlank s = true := by
  simp [trimEnd, allBlank]

theorem trimEnd_cons (c : Char) (s : List Char) :
    trimEnd (c :: s) = if allBlank (c :: s) then [] else c :: trimEnd s := by
  split
  · rename_i h
    exact (trimEnd_eq_nil_iff _).mpr h
  · rename_i h
    by_cases hs : allBlank s = true
    · have hc : isBlank c = false := by
        rw [Bool.eq_false_iff]
        exact fun hc => h (by simpa [allBlank, hc] using hs)
      have hend : trimEnd ([c] ++ s) = trimEnd [c] := trimEnd_append hs [c]
      rw [(trimEnd_eq_nil_iff s).mpr hs]
      simpa [trimEnd, hc] using hend
    · have hdrop : (s.reverse.dropWhile isBlank).isEmpty = false := by
        rw [← trimEnd_eq_nil_iff, trimEnd, List.reverse_eq_nil_iff] at hs
        simpa using hs
      rw [trimEnd, List.reverse_cons, List.dropWhile_append, hdrop]
      simp [trimEnd]

theorem trimEnd_suffix (w s : List Char) : trimEnd s <:+ trimEnd (w ++ s) := by
  induction w with
  | nil => exact List.suffix_rfl
  | cons c w ih =>
    rw [List.cons_append, trimEnd_cons]
    split
    · rename_i h
      rw [(trimEnd_eq_nil_iff s).mpr (by simp_all [allBlank])]
    · exact ih.trans (List.suffix_cons _ _)

end Text

/-! ## The pattern of a layer -/

namespace Payload

open Pattern (Atom capture? capture?_greedy capture?_greedy_word capture?_lazy_cons)

/-- `Option`, an angle bracket, what is kept, an angle bracket, with blanks between them. The kept
text has no line feed. -/
def optionPattern : List Atom :=
  [.word optionWord, .greedy Text.isBlank, .word ['<'], .greedy Text.isBlank, .lazy (· ≠ '\n'),
    .greedy Text.isBlank, .word ['>']]

variable {s t : List Char}

theorem trimStart_append_angle (s : List Char) :
    trimStart (s ++ ['>']) = trimStart s ++ ['>'] := by
  rw [trimStart, List.dropWhile_append]
  split
  · rename_i h
    rw [trimStart, List.isEmpty_iff.mp h]
    decide
  · rfl

theorem capture?_close (body : List Char) :
    capture? [.greedy Text.isBlank, .word ['>']] (body ++ ['>']) =
      if allBlank body then some [] else none := by
  have hblank : trimStart body = [] ↔ allBlank body = true := by simp [trimStart, allBlank]
  rw [capture?_greedy_word (by decide), ← trimStart, trimStart_append_angle]
  simp only [← hblank]
  cases trimStart body with
  | nil => decide
  | cons c rest =>
    by_cases hc : c = '>' <;> simp [capture?, afterWord?, hc]

theorem capture?_body (body : List Char) :
    capture? [.lazy (· ≠ '\n'), .greedy Text.isBlank, .word ['>']] (body ++ ['>']) =
      if '\n' ∈ trimEnd body then none else some (trimEnd body) := by
  -- The lazy run ends where only blanks stand before the last bracket.
  induction body with
  | nil => decide
  | cons c body ih =>
    rw [List.cons_append, capture?_lazy_cons, ih, ← List.cons_append, capture?_close,
      Text.trimEnd_cons]
    by_cases h : allBlank (c :: body) = true
    · simp [h]
    · by_cases hc : c = '\n'
      · subst hc
        simp [h]
      · by_cases hmem : '\n' ∈ trimEnd body <;> simp [h, hc, hmem, Ne.symm hc]

theorem capture?_inside (body : List Char) :
    capture? [.greedy Text.isBlank, .lazy (· ≠ '\n'), .greedy Text.isBlank, .word ['>']]
      (body ++ ['>']) = if '\n' ∈ trim body then none else some (trim body) := by
  rw [capture?_greedy, ← trimStart, trimStart_append_angle, capture?_body, trim]
  -- Blanks that are given back would be kept, and every line feed behind them as well.
  intro w t hw ht
  by_contra hsome
  obtain ⟨kept, hkept⟩ := Option.ne_none_iff_exists'.mp hsome
  obtain ⟨before, hbefore⟩ :=
    Pattern.suffix_of_capture? [.lazy (· ≠ '\n'), .greedy Text.isBlank] hkept
  rcases List.eq_nil_or_concat' t with rfl | ⟨body', c, rfl⟩
  · have hangle : '>' ∈ w := by simp [← (List.append_nil w ▸ hbefore)]
    exact absurd (hw '>' hangle) (by decide)
  · rw [← List.append_assoc, List.append_singleton_inj] at hbefore
    obtain ⟨-, rfl⟩ := hbefore
    have hmem : '\n' ∈ trimEnd body' := by
      by_contra hmem
      rw [capture?_body, if_neg hmem] at ht
      cases ht
    rw [← List.append_assoc, capture?_body,
      if_pos ((Text.trimEnd_suffix w body').subset hmem)] at hkept
    cases hkept

theorem capture?_layer {w : List Char} (hw : allBlank w) (body : List Char) :
    capture? optionPattern (optionWord ++ (w ++ '<' :: (body ++ ['>']))) =
      if '\n' ∈ trim body then none else some (trim body) := by
  have hopen : (w ++ '<' :: (body ++ ['>'])).dropWhile Text.isBlank =
      ['<'] ++ (body ++ ['>']) := Text.trimStart_append hw _
  rw [optionPattern, capture?, afterWord?_eq_some_iff.mpr rfl, Option.bind_some,
    capture?_greedy_word (by decide), hopen, capture?, afterWord?_eq_some_iff.mpr rfl,
    Option.bind_some, capture?_inside]

theorem exists_layer_of_capture? (h : capture? optionPattern s = some t) :
    ∃ w body, allBlank w ∧ s = optionWord ++ (w ++ '<' :: (body ++ ['>'])) := by
  rw [optionPattern, capture?] at h
  obtain ⟨rest, hrest, h⟩ := Option.bind_eq_some_iff.mp h
  rw [capture?_greedy_word (by decide), capture?] at h
  obtain ⟨inner, hinner, h⟩ := Option.bind_eq_some_iff.mp h
  obtain ⟨body, rfl⟩ := Pattern.suffix_of_capture?
    [.greedy Text.isBlank, .lazy (· ≠ '\n'), .greedy Text.isBlank] h
  have hopen : betweenAngles? (trimStart rest) = some body := by
    rw [betweenAngles?_eq_some_iff]
    exact afterWord?_eq_some_iff.mp hinner
  obtain ⟨w, hw, rfl⟩ := betweenAngles?_trimStart_eq_some_iff.mp hopen
  exact ⟨w, body, hw, afterWord?_eq_some_iff.mp hrest⟩

/-- What the pattern finds is what stands between the brackets. -/
theorem capture?_optionPattern (s : List Char) : capture? optionPattern s = peelOption? s := by
  by_cases h : ∃ w body, allBlank w ∧ s = optionWord ++ (w ++ '<' :: (body ++ ['>']))
  · obtain ⟨w, body, hw, rfl⟩ := h
    rw [capture?_layer hw, peelOption?_layer hw]
  · have hcapture : capture? optionPattern s = none :=
      Option.eq_none_iff_forall_ne_some.mpr fun t ht => h (exists_layer_of_capture? ht)
    have hpeel : peelOption? s = none := by
      refine Option.eq_none_iff_forall_ne_some.mpr fun t ht => h ?_
      obtain ⟨w, body, hw, hs, -⟩ := exists_layer_of_peelOption? ht
      exact ⟨w, body, hw, hs⟩
    rw [hcapture, hpeel]

theorem capture?_optionPattern_eq_some_iff :
    capture? optionPattern s = some t ↔
      ∃ w body, allBlank w ∧ s = optionWord ++ (w ++ '<' :: (body ++ ['>'])) ∧
        '\n' ∉ trim body ∧ t = trim body := by
  constructor
  · intro h
    obtain ⟨w, body, hw, rfl⟩ := exists_layer_of_capture? h
    rw [capture?_layer hw, Option.ite_none_left_eq_some, Option.some.injEq] at h
    exact ⟨w, body, hw, rfl, h.1, h.2.symm⟩
  · rintro ⟨w, body, hw, rfl, hline, rfl⟩
    rw [capture?_layer hw, if_neg hline]

theorem length_of_capture? (h : capture? optionPattern s = some t) : t.length + 8 ≤ s.length := by
  obtain ⟨w, body, -, rfl, -, rfl⟩ := capture?_optionPattern_eq_some_iff.mp h
  have := Text.length_trim_le body
  simp only [optionWord, List.length_append, List.length_cons, List.length_nil]
  omega

/-! ## All rounds -/

/-- After `n` rounds `r` is left of `s`, and the pattern does not match it. -/
inductive Rounds : Nat → List Char → List Char → Prop where
  | done {s : List Char} : capture? optionPattern s = none → Rounds 0 s s
  | round {n : Nat} {s t r : List Char} : capture? optionPattern s = some t → Rounds n t r →
      Rounds (n + 1) s r

/-- The text `r` in `n` layers of `Option`, with nothing but blanks between them. -/
inductive Layered (r : List Char) : Nat → List Char → Prop where
  | bare : Layered r 0 r
  | layer {n : Nat} {w w' t w'' : List Char} : allBlank w → allBlank w' → allBlank w'' →
      Layered r n t → Layered r (n + 1) (optionWord ++ (w ++ '<' :: (w' ++ (t ++ (w'' ++ ['>'])))))

/-- A text without blanks at its ends that is no layer which could come off. -/
structure Normal (r : List Char) : Prop where
  head : ∀ c, r.head? = some c → Text.isBlank c = false
  last : ∀ c, r.getLast? = some c → Text.isBlank c = false
  noLayer : ∀ w body, allBlank w → r = optionWord ++ (w ++ '<' :: (body ++ ['>'])) →
    '\n' ∈ trim body

variable {n : Nat} {r : List Char}

theorem exists_rounds (s : List Char) : ∃ n, Rounds n s (peelAll s) := by
  induction hlength : s.length using Nat.strong_induction_on generalizing s with
  | _ length ih =>
    have hpeel := capture?_optionPattern s
    cases hround : capture? optionPattern s with
    | none =>
      rw [hround] at hpeel
      rw [peelAll_of_none hpeel.symm]
      exact ⟨0, .done hround⟩
    | some t =>
      rw [hround] at hpeel
      have hlt := length_of_capture? hround
      obtain ⟨n, hn⟩ := ih t.length (by omega) t rfl
      rw [peelAll_of_some hpeel.symm]
      exact ⟨n + 1, .round hround hn⟩

theorem Rounds.layered (h : Rounds n s r) : Layered r n s := by
  induction h with
  | done => exact .bare
  | round hround _ ih =>
    obtain ⟨w, body, hw, rfl, -, rfl⟩ := capture?_optionPattern_eq_some_iff.mp hround
    obtain ⟨w', w'', hw', hw'', hbody⟩ := Text.exists_blanks_trim body
    have hlayer := Layered.layer hw hw' hw'' ih
    have hassoc : w' ++ (trim body ++ (w'' ++ ['>'])) = body ++ ['>'] := by
      conv_rhs => rw [hbody]
      simp
    rwa [hassoc] at hlayer

theorem Rounds.capture?_eq_none (h : Rounds n s r) : capture? optionPattern r = none := by
  induction h with
  | done hnone => exact hnone
  | round _ _ ih => exact ih

theorem Rounds.trim_eq (h : Rounds n s r) (hs : trim s = s) : trim r = r := by
  induction h with
  | done => exact hs
  | round hround _ ih =>
    obtain ⟨w, body, -, -, -, rfl⟩ := capture?_optionPattern_eq_some_iff.mp hround
    exact ih (Text.trim_trim body)

theorem Layered.isInfix (h : Layered r n s) : r <:+: s := by
  induction h with
  | bare => exact List.infix_rfl
  | @layer n w w' t w'' _ _ _ _ ih =>
    exact ih.trans ⟨optionWord ++ (w ++ '<' :: w'), w'' ++ ['>'], by simp⟩

theorem normal_of_trim_eq (htrim : trim r = r) (hnone : capture? optionPattern r = none) :
    Normal r where
  head c hc := Text.isBlank_of_head?_trim (htrim.symm ▸ hc)
  last c hc := Text.isBlank_of_getLast?_trim (htrim.symm ▸ hc)
  noLayer w body hw hr := by
    by_contra hline
    rw [capture?_optionPattern_eq_some_iff.mpr ⟨w, body, hw, hr, hline, rfl⟩] at hnone
    cases hnone

theorem isInfix_trim (s : List Char) : trim s <:+: s := by
  obtain ⟨w, w', -, -, hs⟩ := Text.exists_blanks_trim s
  exact ⟨w, w', by simpa using hs.symm⟩

/-- The rounds end, and nothing but layers and blanks has come off. What is left cannot be stripped
any further. A round takes off what stands outside the outermost pair of brackets, and the blanks
next to them. -/
theorem stripOptions_normal (s : String) :
    (∃ n, Rounds n (trim s.toList) (stripOptions s).toList ∧
        Layered (stripOptions s).toList n (trim s.toList)) ∧
      (stripOptions s).toList <:+: s.toList ∧ Normal (stripOptions s).toList ∧
      stripOptions (stripOptions s) = stripOptions s ∧
      (∀ u, peelOption? u = capture? optionPattern u) ∧
      ∀ u t, (capture? optionPattern u = some t → t.length + 8 ≤ u.length) ∧
        (capture? optionPattern u = some t ↔
          ∃ w body, allBlank w ∧ u = optionWord ++ (w ++ '<' :: (body ++ ['>'])) ∧
            '\n' ∉ trim body ∧ t = trim body) := by
  have hstrip : (stripOptions s).toList = peelAll (trim s.toList) := String.toList_ofList
  obtain ⟨n, hrounds⟩ := exists_rounds (trim s.toList)
  rw [← hstrip] at hrounds
  have htrim := hrounds.trim_eq (Text.trim_trim s.toList)
  have hnone := hrounds.capture?_eq_none
  refine ⟨⟨n, hrounds, hrounds.layered⟩, hrounds.layered.isInfix.trans (isInfix_trim s.toList),
    normal_of_trim_eq htrim hnone, ?_, fun u => (capture?_optionPattern u).symm, ?_⟩
  · rw [capture?_optionPattern] at hnone
    rw [stripOptions, htrim, peelAll_of_none hnone, String.ofList_toList]
  · exact fun u t => ⟨length_of_capture?, capture?_optionPattern_eq_some_iff⟩

/-- Other brackets inside a layer do not matter, and they stay. -/
example : stripOptions " Option<\tOption <Map<A, Option<B>> > >" = "Map<A, Option<B>>" := by decide

end Payload

end NodeFamilies
