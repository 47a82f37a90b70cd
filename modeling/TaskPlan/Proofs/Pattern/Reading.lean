import TaskPlan.Proofs.Pattern.Closing

/-!
# Expressions before a closing bracket

Each part of the reader of expressions runs in parallel on a text and on the text before a
closing bracket. Two of them look at what stands behind a character and go back to it: a brace
behind a word edge may name the edge, and a hyphen in a bracket expression may stand for itself.
-/

namespace TaskPlan

namespace Regex

variable {after : List Char} {begun : Bool} {size : Nat}

/-! ### Characters and classes by name -/

theorem parallel_readHexDigits (count total : Nat) :
    Parallel after false size 1 (min count 1) never (readHexDigits count total) (readHexDigits count total) := by
  induction count generalizing size total with
  | zero => exact .pure total
  | succ count ih =>
    rw [Nat.min_eq_right (Nat.succ_pos count)]
    refine .need_bind (fun c => ?_) le_rfl
    cases Text.hexValue? c with
    | none => exact .failure
    | some digit => exact parallel_advanceSkip.bind (fun _ => ih _) (by omega) (by omega)

theorem parallel_readHexBraced (f F : Nat) (digits : List Nat) :
    Parallel after false (min f F) 1 1 never (readHexBraced f digits) (readHexBraced F digits) := by
  refine .fuel _ (fun _ => rfl) (fun f F size _ ih digits => ?_) f F digits
  refine .need_bind (fun c => .ite (fun _ => ?_) fun _ => ?_) le_rfl
  · refine parallel_advanceSkip.bind (d := 0) (fun _ => ?_) (by decide) (by decide)
    exact .ite (fun _ => .failure) fun _ => .pure _
  · cases Text.hexValue? c with
    | none => exact .failure
    | some digit => exact parallel_advanceSkip.bind (fun _ => ih _) (by decide) (by decide)

theorem parallel_charNumbered (n : Nat) : Parallel after false size 1 0 never (charNumbered n) (charNumbered n) := by
  unfold charNumbered
  cases charOf? n with
  | none => exact .failure
  | some c => exact .pure c

theorem parallel_readHex {count : Nat} (positive : 0 < count) :
    Parallel after true size 1 1 never (readHex count) (readHex count) := by
  refine parallel_advanceSkip.bind (d := 1) (fun _ => ?_) (by decide) (by decide)
  refine .need_bind (fun c => .ite (fun _ => ?_) fun _ => ?_) le_rfl
  · refine parallel_advanceSkip.bind (d := 0) (fun _ => ?_) (by decide) (by decide)
    exact .fueled (parallel_readHexBraced · · []) parallel_charNumbered (by decide) (by decide)
  · have digits : Parallel after false size 1 (min count 1) never (readHexDigits count 0) (readHexDigits count 0) :=
      parallel_readHexDigits count 0
    rw [Nat.min_eq_right positive] at digits
    exact (digits.weaken (Nat.sub_le size 1) le_rfl le_rfl).bind parallel_charNumbered (by decide) (by decide)

theorem parallel_readName (f F : Nat) (name : List Char) :
    Parallel after false (min f F) 1 1 never (readName f name) (readName F name) := by
  refine .fuel _ (fun _ => rfl) (fun f F size _ ih name => ?_) f F name
  refine .need_bind (fun c => .ite (fun _ => ?_) fun _ => ?_) le_rfl
  · exact parallel_advanceOne.bind (fun _ => .pure _) (by decide) (by decide)
  · exact parallel_advanceSkip.bind (fun _ => ih _) (by decide) (by decide)

theorem parallel_readPropertyName : Parallel after begun size 1 1 never readPropertyName readPropertyName := by
  refine .need_bind (fun c => .ite (fun _ => ?_) fun _ => .ite (fun _ => .failure) fun _ => ?_) le_rfl
  · refine parallel_advanceSkip.bind (d := 0) (fun _ => ?_) (by decide) (by decide)
    exact .fueled (parallel_readName · · []) (fun _ => .pure _) (by decide) (by decide)
  · exact parallel_advanceSkip.bind (fun _ => .pure _) (by decide) (by decide)

theorem parallel_readProperty : Parallel after begun size 1 1 never readProperty readProperty := by
  refine .of_state fun r R size' _ beside _ _ _ => ?_
  simp only [beside.flags]
  refine .ite (fun _ => .failure) fun _ => .need_bind (fun c => ?_) le_rfl
  refine parallel_advanceSkip.bind (d := 0) (fun _ => ?_) (by decide) (by decide)
  refine parallel_readPropertyName.bind (d := 0) (fun found => ?_) (by decide) (by decide)
  obtain ⟨found, flipped⟩ := found
  cases found with
  | none => exact .failure
  | some set => exact .pure _

theorem parallel_readWord (f F : Nat) (word : List Char) :
    Parallel after false (min f F) 1 1 never (readWord f word) (readWord F word) := by
  refine .fuel _ (fun _ => rfl) (fun f F size _ ih word => ?_) f F word
  refine .need_bind (fun c => .ite (fun _ => ?_) fun _ => .ite (fun _ => ?_) fun _ => .failure) le_rfl
  · exact parallel_advanceSkip.bind (fun _ => ih _) (by decide) (by decide)
  · exact parallel_advanceOne.bind (fun _ => .pure _) (by decide) (by decide)

/-! ### Escapes -/

theorem parallel_readEdgeName (after : List Char) (edge : Look → Reader → Prop) (size : Nat) :
    Parallel after false size 1 1 edge readEdgeName readEdgeName := by
  refine .fueled (parallel_readWord · · []) (d := 0) (fun word => ?_) (by decide) (by decide)
  split <;> first | exact .pure _ | exact .failure

/-- What is left of the text behind its first character. -/
def Reader.behind (r : Reader) : Reader :=
  { r with rest := if r.flags.spaced then skipSpaced false r.rest.tail else r.rest.tail }

theorem advanceSkip_run (r : Reader) : advanceSkip.run r = some ((), r.behind) := by
  obtain ⟨rest, flags, names⟩ := r
  cases spaced : flags.spaced <;> simp [advanceSkip, advanceOne, skip_run, Reader.behind, spaced]

theorem readWordEdge_run (r : Reader) : readWordEdge.run r =
    if r.rest.head? = some '\x7b' then
      r.behind.rest.head?.bind fun c =>
        if c.isAlpha || c == '-' then readEdgeName.run r.behind else some (.wordEdge, r)
    else some (.wordEdge, r) := by
  have unfolded : readWordEdge = peek >>= fun c => if c = some '\x7b' then
      get >>= fun before => advanceSkip >>= fun _ => need >>= fun c =>
        if c.isAlpha || c == '-' then readEdgeName else set before >>= fun _ => pure .wordEdge
      else pure .wordEdge := by
    rw [readWordEdge]
    congr 1
    funext c
    split <;> simp_all
  have peeked : peek.run r = some (r.rest.head?, r) := rfl
  rw [unfolded, StateT.run_bind, peeked]
  by_cases brace : r.rest.head? = some '\x7b'
  · simp only [Option.bind_eq_bind, Option.bind_some, if_pos brace, StateT.run_bind, StateT.run_get, advanceSkip_run,
      need_run, Option.pure_def]
    cases r.behind.rest.head? with
    | none => rfl
    | some c =>
      simp only [Option.map_some, Option.bind_some]
      split <;> rfl
  · simp [brace]

theorem behind_suffix (r : Reader) : r.behind.rest <:+ r.rest := by
  unfold Reader.behind
  dsimp only
  split
  · exact (skipSpaced_suffix false _).trans (List.tail_suffix _)
  · exact List.tail_suffix _

theorem behind_closed {r : Reader} (after : List Char) (here : r.rest ≠ []) :
    (r.closed after).behind = r.behind.closed after ∨
      r.behind.rest = [] ∧ Beyond after 1 (r.closed after).behind.rest := by
  have tail : (r.closed after).rest.tail = r.rest.tail ++ ')' :: after := List.tail_append_of_ne_nil here
  have flags : (r.closed after).flags = r.flags := rfl
  unfold Reader.behind
  rw [tail, flags]
  split
  · obtain same | ⟨alone, beyond, -⟩ := skipSpaced_closing after false r.rest.tail
    · rw [same]
      exact .inl rfl
    · exact .inr ⟨alone, beyond⟩
  · exact .inl rfl

/-- The reader stands before `mark`, behind which nothing is left of the text. -/
structure Reader.Edge (after : List Char) (mark : Char) (reached : Nat) (r : Reader) : Prop where
  here : r.rest.head? = some mark
  beyond : Beyond after reached (r.closed after).behind.rest

theorem Reader.Edge.closed_head {r : Reader} {mark : Char} {reached : Nat} (edge : r.Edge after mark reached) :
    (r.closed after).rest.head? = some mark := by
  simp [Reader.closed, List.head?_append, edge.here]

theorem Reader.Edge.skip {r : Reader} {mark : Char} {reached : Nat} (edge : r.Edge after mark reached)
    (visible : Text.isBlank mark = false) (noComment : mark ≠ '#') :
    skip.run (r.closed after) = some ((), r.closed after) := by
  obtain ⟨rest, text⟩ := List.head?_eq_some_iff.mp edge.closed_head
  rw [skip_run, text]
  simp [skipSpaced, visible, noComment, ← text]

theorem takes_readWordEdge : Takes begun (fun _ => 0) readWordEdge := by
  intro r look r' _ done
  rw [readWordEdge_run] at done
  split at done
  · rename_i brace
    obtain ⟨c, -, done⟩ := Option.bind_eq_some_iff.mp done
    split at done
    · obtain ⟨taken, -⟩ := (parallel_readEdgeName [] never 0).takes r.behind look r' r.behind.at_false done
      have behind : Taken 0 r.rest r.behind.rest := ⟨behind_suffix r, (behind_suffix r).length_le⟩
      exact ⟨(behind.trans taken).weaken (Nat.zero_le _), fun ended => by simp [ended] at brace⟩
    · obtain ⟨⟩ := done
      exact ⟨.refl _, fun _ => rfl⟩
  · obtain ⟨⟩ := done
    exact ⟨.refl _, fun _ => rfl⟩

def AtBrace (after : List Char) (look : Look) (r : Reader) : Prop := look = .wordEdge ∧ r.Edge after '\x7b' 0

/-- Before a closing bracket the brace at the end of a text is taken for that of a repetition. -/
theorem parallel_readWordEdge : Parallel after begun size 1 0 (AtBrace after) readWordEdge readWordEdge := by
  refine ⟨takes_readWordEdge, takes_readWordEdge, fun r _ _ => ?_⟩
  rw [readWordEdge_run, readWordEdge_run]
  by_cases brace : r.rest.head? = some '\x7b'
  · have here : r.rest ≠ [] := fun ended => by simp [ended] at brace
    have brace' : (r.closed after).rest.head? = some '\x7b' := by simp [Reader.closed, List.head?_append, brace]
    have atBrace (beyond : Beyond after 0 (r.closed after).behind.rest) :
        Follows after 1 (AtBrace after) r.rest none (some (Look.wordEdge, r.closed after)) :=
      .edge ⟨rfl, brace, beyond⟩
    rw [if_pos brace, if_pos brace']
    obtain same | ⟨alone, beyond⟩ := behind_closed after here
    · rw [same]
      cases text : r.behind.rest with
      | nil =>
        have letter : (')'.isAlpha || ')' == '-') = false := by decide
        have left : (r.behind.closed after).rest = ')' :: after := by simp [Reader.closed, text]
        have edge := atBrace (by rw [same, left]; exact .refl _)
        simpa [left, letter] using edge
      | cons c rest =>
        have text' : (r.behind.closed after).rest.head? = some c := by simp [Reader.closed, text]
        rw [text', List.head?_cons, Option.bind_some, Option.bind_some]
        split
        · have named := (parallel_readEdgeName after (AtBrace after) _).follows r.behind r.behind.at_false (Nat.lt_succ_self _)
          exact named.widen (behind_suffix r)
        · exact .same (some (Look.wordEdge, r))
    · rw [alone, List.head?_nil, Option.bind_none]
      cases (r.closed after).behind.rest.head? with
      | none => exact .same none
      | some c =>
        rw [Option.bind_some]
        split
        · refine .apart (fun _ _ done => by cases done) fun look R done => ?_
          obtain ⟨taken, -⟩ := (parallel_readEdgeName [] never 0).takes _ look R (Reader.at_false _) done
          exact beyond.then_taken taken (Nat.le_add_right 1 _)
        · exact atBrace (beyond.weaken (Nat.zero_le 1))
  · have brace' : (r.closed after).rest.head? ≠ some '\x7b' := by
      cases text : r.rest with
      | nil => simp [Reader.closed, text]
      | cons c rest => simpa [Reader.closed, text] using brace
    rw [if_neg brace, if_neg brace']
    exact .same (some (Look.wordEdge, r))

def EscapeAtBrace (after : List Char) (primitive : Primitive) (r : Reader) : Prop :=
  primitive = .look .wordEdge ∧ r.Edge after '\x7b' 0

theorem parallel_readEscape : Parallel after true size 1 1 (EscapeAtBrace after) readEscape readEscape := by
  refine parallel_advanceOne.bind (d := 1) (fun _ => .need_bind (fun c => ?_) le_rfl) (by decide) (by decide)
  refine .ite (fun _ => .failure) fun _ => .ite (fun _ => ?_) fun _ => .ite (fun _ => ?_) fun _ =>
    .ite (fun _ => ?_) fun _ => .ite (fun _ => ?_) fun _ => .ite (fun _ => ?_) fun _ => ?_
  · exact (parallel_readHex (by decide)).bind (fun _ => .pure _) (by decide) (by decide)
  · exact (parallel_readHex (by decide)).bind (fun _ => .pure _) (by decide) (by decide)
  · exact (parallel_readHex (by decide)).bind (fun _ => .pure _) (by decide) (by decide)
  · exact parallel_readProperty.bind (fun _ => .pure _) (by decide) (by decide)
  · refine parallel_advanceOne.bind (d := 0) (fun _ => ?_) (by decide) (by decide)
    refine .of_state fun r R _ _ beside _ _ _ => ?_
    rw [beside.flags]
    cases perlClass r.flags.unicode c with
    | none => exact .failure
    | some set => exact .pure _
  · refine parallel_advanceOne.bind (d := 0) (fun _ => .ite (fun _ => .pure _) fun _ => ?_) (by decide) (by decide)
    have edge : Parallel after false (size - 1 - 1) 1 0 (EscapeAtBrace after)
        (do return Primitive.look (← readWordEdge)) (do return .look (← readWordEdge)) := by
      refine parallel_readWordEdge.bind_edge (fun _ => .pure _) ?_ (by decide) (by decide)
      rintro _ r ⟨rfl, atBrace⟩ _ _ ⟨⟩
      exact .inl ⟨rfl, rfl, atBrace⟩
    split <;> first | exact edge | exact .pure _ | exact .failure

theorem parallel_readMember : Parallel after begun size 1 1 (EscapeAtBrace after) readMember readMember := by
  refine .need_bind (fun c => .ite (fun _ => parallel_readEscape) fun _ => ?_) le_rfl
  exact parallel_advanceOne.bind (fun _ => .pure _) (by decide) (by decide)

/-! ### Bracket expressions -/

/-- A run of characters ends in the text, or goes through the closing bracket. -/
theorem takeWhile_closing {p : Char → Bool} (after : List Char) (inside : p ')' = true) (rest : List Char) :
    rest.dropWhile p = [] ∧ ')' ∈ (rest ++ ')' :: after).takeWhile p ∨
      (rest ++ ')' :: after).takeWhile p = rest.takeWhile p ∧
        (rest ++ ')' :: after).dropWhile p = rest.dropWhile p ++ ')' :: after ∧ rest.dropWhile p ≠ [] := by
  induction rest with
  | nil => exact .inl (by simp [inside])
  | cons c rest ih =>
    by_cases holds : p c = true
    · simp only [List.cons_append, List.dropWhile_cons_of_pos holds, List.takeWhile_cons_of_pos holds]
      exact ih.imp (And.imp_right (List.mem_cons_of_mem c)) (And.imp_left (congrArg _))
    · exact .inr (by simp [holds])

theorem ascii?_unbracketed {name : List Char} (bracketed : ')' ∈ name) : CharSet.ascii? (String.ofList name) = none := by
  have other {text : String} (unbracketed : ')' ∉ text.toList) : String.ofList name ≠ text := by
    rintro rfl
    exact unbracketed (by simpa using bracketed)
  unfold CharSet.ascii?
  split <;> first | rfl | exact absurd ‹_› (other (by decide))

/-- Whether there is such a class is told by the text alone. -/
theorem asciiClass?_closing (after text : List Char) :
    asciiClass? (text ++ ')' :: after) =
      (asciiClass? text).map fun (set, negated, rest) => (set, negated, rest ++ ')' :: after) := by
  have named (inner : List Char) (negated : Bool) :
      (do
        let rest ← Text.dropHead? [':', ']'] ((inner ++ ')' :: after).dropWhile (· != ':'))
        let set ← CharSet.ascii? (String.ofList ((inner ++ ')' :: after).takeWhile (· != ':')))
        return (set, negated, rest)) =
      (do
        let rest ← Text.dropHead? [':', ']'] (inner.dropWhile (· != ':'))
        let set ← CharSet.ascii? (String.ofList (inner.takeWhile (· != ':')))
        return (set, negated, rest)).map fun (set, negated, rest) => (set, negated, rest ++ ')' :: after) := by
    obtain ⟨alone, bracketed⟩ | ⟨same, left, -⟩ := takeWhile_closing (p := (· != ':')) after (by decide) inner
    · rw [alone, ascii?_unbracketed bracketed]
      cases Text.dropHead? [':', ']'] ((inner ++ ')' :: after).dropWhile (· != ':')) <;> rfl
    · rw [same, left, dropHead?_closing after (by simp)]
      cases Text.dropHead? [':', ']'] (inner.dropWhile (· != ':')) with
      | none => rfl
      | some rest => cases CharSet.ascii? (String.ofList (inner.takeWhile (· != ':'))) <;> rfl
  unfold asciiClass?
  rw [dropHead?_closing after (by simp)]
  cases Text.dropHead? ['[', ':'] text with
  | none => rfl
  | some inner =>
    simp only [Option.map_some, Option.bind_eq_bind, Option.bind_some]
    rw [dropHead?_closing after (by simp)]
    cases Text.dropHead? ['^'] inner with
    | none => exact named inner false
    | some rest => exact named rest true

theorem asciiClass?_taken {text : List Char} {set : CharSet} {negated : Bool} {rest : List Char}
    (found : asciiClass? text = some (set, negated, rest)) : Taken 1 text rest := by
  obtain ⟨inner, head, found⟩ := Option.bind_eq_some_iff.mp found
  have whole := Text.dropHead?_eq_some.mp head
  have left {inner' : List Char} (behind : inner' <:+ inner)
      (close : Text.dropHead? [':', ']'] (inner'.dropWhile (· != ':')) = some rest) : rest <:+ inner := by
    have run : [':', ']'] ++ rest <:+ inner' := Text.dropHead?_eq_some.mp close ▸ List.dropWhile_suffix _
    exact (List.suffix_append _ rest).trans (run.trans behind)
  have suffix : rest <:+ inner := by
    split at found
    rename_i names
    obtain ⟨rest', close, found⟩ := Option.bind_eq_some_iff.mp found
    obtain ⟨_, -, ⟨⟩⟩ := Option.bind_eq_some_iff.mp found
    split at names
    · obtain ⟨⟩ := names
      rename_i sign
      exact left ⟨['^'], (Text.dropHead?_eq_some.mp sign).symm⟩ close
    · obtain ⟨⟩ := names
      exact left (List.suffix_refl _) close
  have := suffix.length_le
  exact ⟨suffix.trans ⟨_, whole.symm⟩, by simp [whole]; omega⟩

theorem readAsciiClass_run (r : Reader) : readAsciiClass.run r = some (match asciiClass? r.rest with
    | none => (none, r)
    | some (set, negated, rest) =>
      (some (if negated then (foldWith r.flags set).negate else foldWith r.flags set), { r with rest := rest })) := by
  simp only [readAsciiClass, StateT.run_bind, StateT.run_get, pure_bind]
  cases asciiClass? r.rest <;> rfl

theorem takes_readAsciiClass : Takes begun (fun found => if found.isSome then 1 else 0) readAsciiClass := by
  intro r found r' _ done
  rw [readAsciiClass_run, Option.some.injEq] at done
  split at done
  · obtain ⟨⟩ := done
    exact ⟨.refl _, fun _ => rfl⟩
  · obtain ⟨⟩ := done
    rename_i there
    exact ⟨asciiClass?_taken there, fun _ => rfl⟩

theorem follows_readAsciiClass (r : Reader) :
    Follows after 1 never r.rest (readAsciiClass.run r) (readAsciiClass.run (r.closed after)) := by
  refine .of_eq ?_
  rw [readAsciiClass_run, readAsciiClass_run]
  simp only [Reader.closed, asciiClass?_closing]
  cases asciiClass? r.rest <;> rfl

theorem standsAlone_run (r : Reader) : standsAlone.run r = r.rest.head?.bind fun c =>
    if c != '-' || r.behind.rest.head? == some ']' || r.behind.rest.head? == some '-' then some (true, r)
    else r.behind.rest.head?.map fun _ => (false, r.behind) := by
  have peeked : peekNext.run r = some (r.behind.rest.head?, r) := rfl
  rw [standsAlone, StateT.run_bind, need_run]
  cases r.rest.head? with
  | none => rfl
  | some c =>
    simp only [Option.map_some, Option.bind_eq_bind, Option.bind_some, StateT.run_bind, peeked]
    split
    · rfl
    · simp only [StateT.run_bind, advanceSkip_run, need_run, Option.bind_eq_bind, Option.bind_some]
      cases r.behind.rest.head? <;> rfl

/-- Before a closing bracket a hyphen at the end of a text may be taken for one by itself. -/
theorem parallel_standsAlone :
    Parallel after begun size 0 0 (fun alone r => alone = true ∧ r.Edge after '-' 1) standsAlone standsAlone := by
  have takes : Takes begun (fun _ => 0) standsAlone := by
    intro r alone r' _ done
    rw [standsAlone_run] at done
    obtain ⟨c, here, done⟩ := Option.bind_eq_some_iff.mp done
    have begins : r.rest ≠ [] := fun ended => by simp [ended] at here
    split at done
    · obtain ⟨⟩ := done
      exact ⟨.refl _, fun ended => absurd ended begins⟩
    · obtain ⟨_, -, ⟨⟩⟩ := Option.map_eq_some_iff.mp done
      exact ⟨⟨behind_suffix r, (behind_suffix r).length_le⟩, fun ended => absurd ended begins⟩
  refine ⟨takes, takes, fun r _ _ => ?_⟩
  rw [standsAlone_run, standsAlone_run]
  cases text : r.rest with
  | nil =>
    have left : (r.closed after).rest = ')' :: after := by simp [Reader.closed, text]
    refine .apart (fun _ _ done => by cases done) fun alone R done => ?_
    obtain ⟨⟩ : some (true, r.closed after) = some (alone, R) := by simpa [left] using done
    rw [left]
    exact .refl _
  | cons c rest =>
    have here : (r.closed after).rest.head? = some c := by simp [Reader.closed, text]
    rw [here, List.head?_cons, Option.bind_some, Option.bind_some]
    by_cases hyphen : c = '-'
    · subst hyphen
      obtain same | ⟨alone, beyond⟩ := behind_closed after (r := r) (by simp [text])
      · rw [same]
        cases behind : r.behind.rest with
        | nil =>
          have left : (r.behind.closed after).rest = ')' :: after := by simp [Reader.closed, behind]
          simp only [left, bne_self_eq_false, List.head?_nil, List.head?_cons, Bool.false_or, Option.map_none]
          refine .apart (fun _ _ done => by cases done) fun alone R done => ?_
          obtain ⟨⟩ : some (false, r.behind.closed after) = some (alone, R) := by simpa using done
          rw [left]
          exact .refl _
        | cons d rest' =>
          have next : (r.behind.closed after).rest.head? = some d := by simp [Reader.closed, behind]
          rw [next, List.head?_cons]
          split
          · exact .same (some (true, r))
          · exact .same (some (false, r.behind))
      · have none (c : Char) : ((Option.none : Option Char) == some c) = false := rfl
        simp only [alone, none, bne_self_eq_false, List.head?_nil, Bool.false_or, Option.map_none, Bool.false_eq_true,
          if_false]
        split
        · exact .edge ⟨rfl, by simp [text], beyond⟩
        · refine .apart (fun _ _ done => by cases done) fun alone R done => ?_
          obtain ⟨_, -, ⟨⟩⟩ := Option.map_eq_some_iff.mp done
          exact beyond.weaken (Nat.zero_le 1)
    · have other : (c != '-') = true := by simpa using hyphen
      rw [other]
      exact .same (some (true, r))

theorem parallel_readRangeFrom (flags : Flags) (first : Primitive) :
    Parallel after begun size 0 0 (fun _ r => r.Edge after '-' 1) (readRangeFrom flags first) (readRangeFrom flags first) := by
  refine parallel_standsAlone.bind_edge (d := 0) (fun alone => .ite (fun _ => ?_) fun _ => ?_) ?_ (by decide) (by decide)
  · cases first with
    | char c byte => exact .ite (fun _ => .pure _) fun _ => .failure
    | set set => exact .pure set
    | look condition => exact .failure
  · refine (parallel_readMember.weaken le_rfl (Nat.zero_le 1) (Nat.zero_le 1)).bind_edge (d := 0) (fun last => ?_) ?_
      (by decide) (by decide)
    · cases first <;> cases last <;> first | exact .ite (fun _ => .pure _) fun _ => .failure | exact .failure
    · rintro _ _ ⟨rfl, -⟩ _ _ done
      cases first <;> cases done
  · rintro _ r ⟨rfl, edge⟩ set R done
    simp only [if_true] at done
    cases first with
    | char c byte =>
      dsimp only at done
      split at done
      · obtain ⟨⟩ := done
        exact .inl ⟨rfl, edge⟩
      · cases done
    | set set =>
      obtain ⟨⟩ := done
      exact .inl ⟨rfl, edge⟩
    | look condition => cases done

theorem parallel_readRange : Parallel after begun size 0 1 (fun _ r => r.Edge after '-' 1) readRange readRange := by
  refine .of_state fun r R size' _ beside _ _ _ => ?_
  simp only [beside.flags]
  refine parallel_readMember.bind_edge (d := 0) (fun first => ?_) ?_ (by decide) (by decide)
  · exact parallel_skip.bind (fun _ => parallel_readRangeFrom _ first) (by decide) (by decide)
  · rintro _ r' ⟨rfl, edge⟩ set R' done
    rw [StateT.run_bind, edge.skip (by decide) (by decide)] at done
    simp [readRangeFrom, StateT.run_bind, standsAlone_run, edge.closed_head] at done

theorem readRange_hyphen {r : Reader} (hyphen : r.rest.head? = some '-') :
    readRange.run r = (readRangeFrom r.flags (.char '-' false)).run r.behind := by
  obtain ⟨text, ⟨ignoreCase, multiLine, dotAll, unicode, spaced, returns⟩, names⟩ := r
  obtain ⟨rest, rfl⟩ := List.head?_eq_some_iff.mp hyphen
  cases spaced <;> rfl

theorem parallel_readHyphens (f F : Nat) (m : Members) :
    Parallel after false (min f F) 0 0 never (readHyphens f m) (readHyphens F m) := by
  refine .fuel _ (fun _ => rfl) (fun f F size _ ih m => ?_) f F m
  refine .need_bind (fun c => .ite (fun _ => ?_) fun _ => .pure _) le_rfl
  refine parallel_advanceSkip.bind (d := 0) (fun _ => .need_bind (fun _ => ?_) le_rfl) (by decide) (by decide)
  exact (ih _).weaken le_rfl le_rfl le_rfl

theorem parallel_openClass : Parallel after begun size 0 1 never openClass openClass := by
  have fails (r : Reader) (ended : r.rest = []) : openClass.run r = none := by
    rw [openClass, StateT.run_bind, advanceSkip_run, Option.bind_eq_bind, Option.bind_some]
    exact need_fails (List.suffix_nil.mp (ended ▸ behind_suffix r)) _
  refine .of_begun (parallel_advanceSkip.bind (d := 0) (fun _ => .need_bind (fun c => ?_) le_rfl) (by decide)
    (by decide)) fails fails (by decide)
  refine Parallel.when parallel_advanceSkip (.need_bind (fun _ => ?_) le_rfl) (by decide)
  refine .fueled (parallel_readHyphens · · .none) (d := 0) (fun m => ?_) (by decide) (by decide)
  refine .need_bind (fun c => .ite (fun _ => ?_) fun _ => .pure _) le_rfl
  exact parallel_advanceSkip.bind (d := 0) (fun _ => .need_bind (fun _ => .pure _) le_rfl) (by decide) (by decide)

theorem Reader.Beside.next_iff {r R : Reader} (beside : r.Beside after R) (here : r.rest ≠ []) {c : Char}
    (other : c ≠ ')') : R.rest.tail.head? = some c ↔ r.rest.tail.head? = some c := by
  obtain rfl | rfl := beside
  · rfl
  · obtain ⟨d, rest, text⟩ := List.exists_cons_of_ne_nil here
    cases rest <;> simp [Reader.closed, text, other.symm]

theorem readClassBody_fails {fuel : Nat} {pending : Option Pending} {m : Members} {r : Reader} (ended : r.rest = []) :
    (readClassBody fuel pending m).run r = none := by
  cases fuel with
  | zero => rfl
  | succ fuel =>
    have skipped : skip.run r = some ((), r) := by
      obtain ⟨rest, flags, names⟩ := r
      subst ended
      cases spaced : flags.spaced <;> simp [skip_run, skipSpaced, spaced]
    rw [readClassBody, StateT.run_bind, skipped, Option.bind_eq_bind, Option.bind_some]
    exact need_fails ended _

theorem Reader.Edge.next_ne {r : Reader} {mark : Char} (edge : r.Edge after mark 1)
    (visible : Text.isBlank mark = false) (noComment : mark ≠ '#') :
    (r.closed after).rest.tail.head? ≠ some mark := by
  intro next
  obtain ⟨rest, tail⟩ := List.head?_eq_some_iff.mp next
  have behind : (r.closed after).behind.rest = mark :: rest := by
    simp [Reader.behind, tail, skipSpaced, visible, noComment]
  have short := edge.beyond.length
  rw [behind] at short
  obtain ⟨_, here⟩ := List.head?_eq_some_iff.mp edge.here
  have whole := congrArg List.length tail
  simp only [Reader.closed, here, List.cons_append, List.tail_cons, List.length_append, List.length_cons] at short whole
  omega

/-- A hyphen that has been taken for one by itself is one, and then the reader goes on behind
the text. -/
theorem readClassBody_of_hyphen {fuel : Nat} {pending : Option Pending} {m : Members} {r R : Reader}
    {result : CharSet × Nat} (takes : ∀ m, Takes false (fun _ => 1) (readClassBody fuel pending m))
    (edge : r.Edge after '-' 1) (read : (readClassBody (fuel + 1) pending m).run (r.closed after) = some (result, R)) :
    Beyond after 1 R.rest := by
  have single : (readClassBody (fuel + 1) pending m).run (r.closed after) =
      (readRange.run (r.closed after)).bind fun (set, r') => (readClassBody fuel pending (m.add set 0)).run r' := by
    have next : ¬(r.closed after).rest[1]? = some '-' := by simpa using edge.next_ne (by decide) (by decide)
    rw [readClassBody, StateT.run_bind, edge.skip (by decide) (by decide)]
    simp [StateT.run_bind, need_run, edge.closed_head, next]
  rw [single, readRange_hyphen edge.closed_head] at read
  obtain ⟨⟨set, r'⟩, range, rest⟩ := Option.bind_eq_some_iff.mp read
  have ranges : Parallel [] false 0 0 0 _ _ _ := parallel_readRangeFrom (r.closed after).flags (.char '-' false)
  obtain ⟨taken, -⟩ := ranges.takes _ set r' (Reader.at_false _) range
  obtain ⟨taken', -⟩ := takes _ r' result R r'.at_false rest
  exact edge.beyond.then_taken (taken.trans taken') (Nat.le_add_right 1 _)

theorem parallel_readClassBody (f F : Nat) (pending : Option Pending) (m : Members) :
    Parallel after false (min f F) 1 1 never (readClassBody f pending m) (readClassBody F pending m) := by
  refine Parallel.fuel (fun f (i : Option Pending × Members) => readClassBody f i.1 i.2)
    (fun _ => rfl) (fun f F size takes ih i => ?_) f F (pending, m)
  obtain ⟨pending, m⟩ := i
  refine parallel_skip.bind (d := 1) (fun _ => .need_bind (fun c => ?_) le_rfl) (by decide) (by decide)
  refine .of_state fun r R size' here beside smaller _ _ => ?_
  simp only [beside.flags]
  have again (size'' : Nat) (less : size'' ≤ size - 1) (pending : Option Pending) (m : Members) :
      Parallel after false size'' 1 1 never (readClassBody f pending m) (readClassBody F pending m) :=
    (ih (pending, m)).weaken less le_rfl le_rfl
  refine .ite (fun _ => ?_) fun _ => .ite (fun _ => ?_) fun _ => ?_
  · refine .bind_of (fun _ => 1) takes_readAsciiClass takes_readAsciiClass (fun r _ _ => follows_readAsciiClass r)
      (fun found => ?_) fromEdge_never (fun _ => by decide) (fun _ => by omega)
    cases found with
    | some set => exact again _ (Nat.sub_le_sub_right smaller 1) _ _
    | none =>
      refine parallel_openClass.bind (d := 1) (fun opened => ?_) (by decide) (by decide)
      refine (again _ (Nat.sub_le_sub_right smaller 1) none opened.2).bind (d := 0) (fun _ => ?_) (by decide) (by decide)
      refine .ite (fun _ => .failure_bind) fun _ => ?_
      exact (again _ (by omega) pending _).weaken le_rfl le_rfl (Nat.zero_le 1)
  · exact parallel_advanceOne.bind (fun _ => .pure _) (by decide) (by decide)
  · refine .of_state fun r' R' size'' here' beside' smaller' _ _ => ?_
    have operator (pending : Option Pending) : Parallel after true size'' 1 1 never
        (do advanceOne; advanceOne; readClassBody f pending .none)
        (do advanceOne; advanceOne; readClassBody F pending .none) := by
      refine parallel_advanceOne.bind (d := 1) (fun _ => ?_) (by decide) (by decide)
      refine .of_begun (parallel_advanceOne.bind (d := 1) (fun _ => again _ (by omega) pending .none)
        (by decide) (by decide)) ?_ ?_ le_rfl
      · intro r ended
        exact readClassBody_fails (r := { r with rest := r.rest.tail }) (by simp [ended])
      · intro r ended
        exact readClassBody_fails (r := { r with rest := r.rest.tail }) (by simp [ended])
    have next (d : Char) (other : d ≠ ')') := beside'.next_iff (here' rfl) other
    simp only [next '&' (by decide), next '-' (by decide), next '~' (by decide)]
    refine .ite (fun _ => operator _) fun _ => .ite (fun _ => operator _) fun _ => .ite (fun _ => operator _) fun _ => ?_
    refine parallel_readRange.bind_edge (d := 1) (fun set => again _ (by omega) _ _) ?_ (by decide) (by decide)
    intro set r edge result R read
    cases F with
    | zero => cases read
    | succ F => exact .inr (readClassBody_of_hyphen (fun m => takes F (Nat.le_succ F) (pending, m)) edge read)

theorem parallel_readClass : Parallel after begun size 1 1 never readClass readClass := by
  refine .of_state fun r R _ _ beside _ _ _ => ?_
  simp only [beside.flags]
  refine parallel_openClass.bind (d := 1) (fun opened => ?_) (by decide) (by decide)
  refine .fueled (parallel_readClassBody · · none opened.2) (d := 0) (fun _ => ?_) (by decide) (by decide)
  exact .ite (fun _ => .failure_bind) fun _ => .pure _

/-! ### Repetitions -/

theorem dropWhile_closing {p : Char → Bool} (after : List Char) (stops : p ')' = false) (rest : List Char) :
    (rest ++ ')' :: after).dropWhile p = rest.dropWhile p ++ ')' :: after := by
  have none : (')' :: after).dropWhile p = ')' :: after := by simp [stops]
  rw [List.dropWhile_append]
  split
  · rename_i ended
    rw [none, List.isEmpty_iff.mp ended, List.nil_append]
  · rfl

theorem takeWhile_closing_of_stops {p : Char → Bool} (after : List Char) (stops : p ')' = false) (rest : List Char) :
    (rest ++ ')' :: after).takeWhile p = rest.takeWhile p := by
  have none : (')' :: after).takeWhile p = [] := by simp [stops]
  rw [List.takeWhile_append]
  split
  · rename_i whole
    rw [none, List.append_nil, (List.takeWhile_prefix p).eq_of_length whole]
  · rfl

/-- A step over characters none of which is a closing bracket. -/
theorem parallel_dropWhile {p : Char → Bool} (stops : p ')' = false) :
    Parallel after begun size 1 0 never (modify fun r => { r with rest := r.rest.dropWhile p })
      (modify fun r => { r with rest := r.rest.dropWhile p }) := by
  have takes : Takes begun (fun _ => 0) (modify fun r => { r with rest := r.rest.dropWhile p } : Read Unit) := by
    rintro r _ _ - ⟨⟩
    have suffix : r.rest.dropWhile p <:+ r.rest := List.dropWhile_suffix p
    exact ⟨⟨suffix, suffix.length_le⟩, fun _ => rfl⟩
  refine ⟨takes, takes, fun r _ _ => ?_⟩
  have both : (modify fun r => { r with rest := r.rest.dropWhile p } : Read Unit).run (r.closed after) =
      some ((), Reader.closed { r with rest := r.rest.dropWhile p } after) := by
    change some ((), { r with rest := (r.rest ++ ')' :: after).dropWhile p }) = _
    rw [dropWhile_closing after stops]
    rfl
  rw [both]
  exact .same (some ((), { r with rest := r.rest.dropWhile p }))

theorem parallel_readCount : Parallel after begun size 1 0 never readCount readCount := by
  have blank : Text.isBlank ')' = false := by decide
  refine (parallel_dropWhile blank).bind (d := 0) (fun _ => ?_) (by decide) (by decide)
  refine .of_state fun r R _ _ beside _ _ _ => ?_
  have digits : R.rest.takeWhile Char.isDigit = r.rest.takeWhile Char.isDigit := by
    obtain rfl | rfl := beside
    · rfl
    · exact takeWhile_closing_of_stops after (by decide) r.rest
  simp only [digits]
  refine (parallel_dropWhile (by decide)).bind (d := 0) (fun _ => ?_) (by decide) (by decide)
  refine parallel_skip.bind (d := 0) (fun _ => ?_) (by decide) (by decide)
  refine (parallel_dropWhile blank).bind (d := 0) (fun _ => ?_) (by decide) (by decide)
  refine parallel_skip.bind (d := 0) (fun _ => ?_) (by decide) (by decide)
  exact .ite (fun _ => .pure none) fun _ => .ite (fun _ => .pure _) fun _ => .failure

theorem parallel_readBoundsInside :
    Parallel after begun size 0 0 never readBoundsInside readBoundsInside := by
  refine .need_bind (fun _ => ?_) le_rfl
  refine parallel_readCount.bind (d := 0) (fun least => .need_bind (fun c => ?_) le_rfl) (by decide) (by decide)
  cases least with
  | none => exact .failure
  | some least =>
    refine .ite (fun _ => ?_) fun _ => .pure _
    refine parallel_advanceSkip.bind (d := 0) (fun _ => .need_bind (fun c => ?_) le_rfl) (by decide) (by decide)
    refine .ite (fun _ => .pure _) fun _ => ?_
    refine parallel_readCount.bind (d := 0) (fun most => ?_) (by decide) (by decide)
    cases most with
    | none => exact .failure
    | some most => exact .ite (fun _ => .pure _) fun _ => .failure

theorem parallel_readBounds : Parallel after true size 0 1 never readBounds readBounds :=
  parallel_advanceSkip.bind (fun _ => parallel_readBoundsInside) (by decide) (by decide)

/-- A brace with nothing of the text behind it opens no repetition, unless the bounds are behind
the closing bracket. -/
theorem readBounds_of_brace {r R : Reader} {bounds : Nat × Option Nat} (edge : r.Edge after '\x7b' 0)
    (read : readBounds.run (r.closed after) = some (bounds, R)) : Beyond after 1 R.rest := by
  rw [readBounds, StateT.run_bind, advanceSkip_run, Option.bind_eq_bind, Option.bind_some] at read
  obtain bracket | beyond := edge.beyond.eq_or_beyond
  · have none (flags : Flags) (names : List (List Char)) : readBoundsInside.run ⟨')' :: after, flags, names⟩ = none := by
      obtain ⟨ignoreCase, multiLine, dotAll, unicode, spaced, returns⟩ := flags
      cases spaced <;> rfl
    have behind : (r.closed after).behind = ⟨')' :: after, r.flags, r.names⟩ := by
      rw [← bracket]
      rfl
    rw [behind, none] at read
    cases read
  · have inside : Parallel [] false 0 0 0 never readBoundsInside readBoundsInside := parallel_readBoundsInside
    obtain ⟨taken, -⟩ := inside.takes _ bounds R (Reader.at_false _) read
    exact beyond.then_taken taken le_rfl

theorem parallel_repeatLast (parts : List Part) (least : Nat) (most : Option Nat) :
    Parallel after begun size 1 0 never (repeatLast parts least most) (repeatLast parts least most) := by
  cases parts with
  | nil => exact .failure
  | cons part rest => exact .ite (fun _ => .failure) fun _ => .pure _

/-! ### Groups -/

theorem parallel_readFlags (f F : Nat) (seen : List Char) (flags : Flags) :
    Parallel after false (min f F) 0 0 never (readFlags f seen flags) (readFlags F seen flags) := by
  refine Parallel.fuel (fun f (i : List Char × Flags) => readFlags f i.1 i.2)
    (fun _ => rfl) (fun f F size _ ih i => ?_) f F (seen, flags)
  obtain ⟨seen, flags⟩ := i
  refine .need_bind (fun c => .ite (fun _ => .ite (fun _ => .failure) fun _ => .pure _) fun _ =>
    .ite (fun _ => .failure) fun _ => ?_) le_rfl
  refine parallel_advanceOne.bind (d := 0) (fun _ => .ite (fun _ => ih (_, _)) fun _ => ?_) (by decide) (by decide)
  cases setFlag flags c (!seen.contains '-') with
  | none => exact .failure
  | some flags => exact ih (_, flags)

theorem readGroupName_run (r : Reader) : readGroupName.run r =
    match r.rest.dropWhile (· != '>') with
    | [] => none
    | _ :: rest =>
      let name := r.rest.takeWhile (· != '>')
      if isGroupName r.names name then some ((), { r with rest := rest, names := name :: r.names }) else none := by
  simp only [readGroupName, StateT.run_bind, StateT.run_get, pure_bind]
  cases r.rest.dropWhile (· != '>') with
  | nil => rfl
  | cons _ rest =>
    dsimp only
    split <;> rfl

theorem isGroupName_bracketed {names : List (List Char)} {name : List Char} (bracketed : ')' ∈ name) :
    isGroupName names name = false := by
  have none (first : Bool) : isNameChar first ')' = false := by cases first <;> decide +kernel
  cases name with
  | nil => rfl
  | cons c more =>
    obtain rfl | later := List.mem_cons.mp bracketed
    · simp [isGroupName, none]
    · have some : more.all (isNameChar false) = false := List.all_eq_false.mpr ⟨')', later, by simp [none]⟩
      simp [isGroupName, some]

theorem parallel_readGroupName : Parallel after begun size 1 1 never readGroupName readGroupName := by
  have takes : Takes begun (fun _ => 1) readGroupName := by
    intro r _ r' _ done
    rw [readGroupName_run] at done
    split at done
    · cases done
    · rename_i c rest left
      dsimp only at done
      split at done
      · obtain ⟨⟩ := done
        have suffix : c :: rest <:+ r.rest := left ▸ List.dropWhile_suffix _
        have length := suffix.length_le
        exact ⟨⟨(List.suffix_cons c rest).trans suffix, length⟩, fun ended => by simp [ended] at length⟩
      · cases done
  refine ⟨takes, takes, fun r _ _ => ?_⟩
  rw [readGroupName_run, readGroupName_run]
  simp only [Reader.closed]
  obtain ⟨alone, bracketed⟩ | ⟨same, left, more⟩ := takeWhile_closing (p := (· != '>')) after (by decide) r.rest
  · rw [alone]
    dsimp only
    split
    · exact .same none
    · simp only [isGroupName_bracketed bracketed, Bool.false_eq_true, if_false]
      exact .same none
  · simp only [same, left]
    cases behind : r.rest.dropWhile (· != '>') with
    | nil => exact absurd behind more
    | cons c rest =>
      simp only [List.cons_append]
      split
      · exact .same (some ((), { r with rest := rest, names := _ }))
      · exact .same none

theorem parallel_openGroup : Parallel after true size 1 1 never openGroup openGroup := by
  refine parallel_advanceSkip.bind (d := 0) (fun _ => ?_) (by decide) (by decide)
  refine (parallel_leave? (by simp)).bind (d := 0) (fun _ => ?_) (by decide) (by decide)
  refine (parallel_leave? (by simp)).bind (d := 0) (fun _ => ?_) (by decide) (by decide)
  refine (parallel_leave? (by simp)).bind (d := 0) (fun _ => ?_) (by decide) (by decide)
  refine (parallel_leave? (by simp)).bind (d := 0) (fun _ => .ite (fun _ => .failure) fun _ => ?_)
    (by decide) (by decide)
  have named {size : Nat} : Parallel after false size 1 0 never (do readGroupName; return GroupStart.group)
      (do readGroupName; return GroupStart.group) :=
    parallel_readGroupName.bind (fun _ => .pure _) (by decide) (by decide)
  refine (parallel_leave? (by simp)).bind (d := 0) (fun _ => .ite (fun _ => named) fun _ => ?_) (by decide) (by decide)
  refine (parallel_leave? (by simp)).bind (d := 0) (fun _ => .ite (fun _ => named) fun _ => ?_) (by decide) (by decide)
  refine (parallel_leave? (by simp)).bind (d := 0) (fun _ => .ite (fun _ => ?_) fun _ => .pure _) (by decide) (by decide)
  refine .of_state fun r R size' _ beside _ below below' => ?_
  refine .of_state fun r' R' size'' _ beside' smaller _ _ => ?_
  rw [beside'.flags]
  refine ((parallel_readFlags _ _ [] _).weaken (le_min (smaller.trans below) (smaller.trans below')) le_rfl le_rfl).bind
    (d := 1) (fun read => .need_bind (fun c => ?_) le_rfl) (by decide) (by decide)
  refine .leaveWith_bind read.2 (d := 0) (.ite (fun _ => .pure _) fun _ => ?_) (by decide) (by decide)
  exact .ite (fun _ => .failure) fun _ => .pure _

/-! ### Whole expressions -/

theorem parallel_readPrimitive :
    Parallel after begun size 1 1 (fun _ r => r.Edge after '\x7b' 0) readPrimitive readPrimitive := by
  refine .need_bind (fun c => .of_state fun r R _ _ beside _ _ _ => ?_) le_rfl
  simp only [beside.flags]
  refine .ite (fun _ => ?_) fun _ => ?_
  · refine parallel_readEscape.bind_edge (d := 0) (fun primitive => ?_) ?_ (by decide) (by decide)
    · cases primitive with
      | char c byte => exact .ite (fun _ => .failure) fun _ => .pure _
      | set set => exact .pure _
      | look condition => exact .pure _
    · rintro _ r' ⟨rfl, edge⟩ _ _ ⟨⟩
      exact .inl ⟨rfl, edge⟩
  · refine parallel_advanceOne.bind (d := 0) (fun _ => .ite (fun _ => ?_) fun _ => ?_) (by decide) (by decide)
    · cases dotSet r.flags with
      | none => exact .failure
      | some set => exact .pure _
    · exact .ite (fun _ => .pure _) fun _ => .ite (fun _ => .pure _) fun _ => .pure _

/-- A repetition of the last part, behind its bounds, and what follows. -/
def repeatWithin (read : List Part → Read Part) (parts : List Part) (bounds : Nat × Option Nat) : Read Part := do
  let parts ← repeatLast parts bounds.1 bounds.2
  expect ['\x7d']
  skip
  let _ ← leave? ['?']
  read parts

theorem parallel_repeatWithin {read read' : List Part → Read Part} {parts : List Part}
    (each : ∀ parts, Parallel after false (size - 1) 1 0 never (read parts) (read' parts)) (bounds : Nat × Option Nat) :
    Parallel after begun size 1 1 never (repeatWithin read parts bounds) (repeatWithin read' parts bounds) := by
  refine (parallel_repeatLast _ _ _).bind (d := 1) (fun parts => ?_) (by decide) (by decide)
  refine (parallel_expect (by simp)).bind (d := 0) (fun _ => ?_) (by decide) (by decide)
  refine parallel_skip.bind (d := 0) (fun _ => ?_) (by decide) (by decide)
  exact (parallel_leave? (by simp)).bind (fun _ => each parts) (by decide) (by decide)

theorem readBody_of_brace {fuel : Nat} {branches parts : List Part} {r R : Reader} {part : Part}
    (takes : ∀ parts, Takes false (fun _ => 0) (readBody fuel branches parts)) (edge : r.Edge after '\x7b' 0)
    (read : (readBody (fuel + 1) branches parts).run (r.closed after) = some (part, R)) : Beyond after 1 R.rest := by
  have repetition : (readBody (fuel + 1) branches parts).run (r.closed after) =
      (readBounds.run (r.closed after)).bind fun (bounds, r') =>
        (repeatWithin (readBody fuel branches) parts bounds).run r' := by
    have peeked : peek.run (r.closed after) = some (some '\x7b', r.closed after) := by
      rw [← edge.closed_head]
      rfl
    rw [readBody, StateT.run_bind, edge.skip (by decide) (by decide)]
    simp [StateT.run_bind, peeked, repeatWithin]
  rw [repetition] at read
  obtain ⟨⟨bounds, r'⟩, opened, rest⟩ := Option.bind_eq_some_iff.mp read
  have each (parts : List Part) : Parallel [] false 0 1 0 never (readBody fuel branches parts) (readBody fuel branches parts) :=
    ⟨takes parts, takes parts, fun _ _ short => absurd short (Nat.not_lt_zero _)⟩
  have repeats : Parallel [] false 0 1 1 never (repeatWithin _ parts bounds) _ := parallel_repeatWithin each bounds
  obtain ⟨taken, -⟩ := repeats.takes r' part R r'.at_false rest
  exact (readBounds_of_brace edge opened).then_taken taken (Nat.le_add_right 1 _)

/-- The expression up to the end of its group is read in the same way where the bracket follows. -/
theorem parallel_readBody (after : List Char) (f F : Nat) (branches parts : List Part) :
    Parallel after false (min f F) 1 0 never (readBody f branches parts) (readBody F branches parts) := by
  refine Parallel.fuel (fun f (i : List Part × List Part) => readBody f i.1 i.2)
    (fun _ => rfl) (fun f F size takes ih i => ?_) f F (branches, parts)
  obtain ⟨branches, parts⟩ := i
  have again (size' : Nat) (less : size' ≤ size - 1) (branches parts : List Part) :
      Parallel after false size' 1 0 never (readBody f branches parts) (readBody F branches parts) :=
    (ih (branches, parts)).weaken less le_rfl le_rfl
  refine parallel_skip.bind (d := 0) (fun _ => .peek_bind (fun c => ?_) (.pure _) rfl) (by decide) (by decide)
  refine .ite (fun _ => .pure _) fun _ => .ite (fun _ => ?_) fun _ => .ite (fun _ => ?_) fun _ =>
    .ite (fun _ => ?_) fun _ => .ite (fun _ => ?_) fun _ => .ite (fun _ => ?_) fun _ => ?_
  · exact parallel_advanceOne.bind (fun _ => again _ le_rfl _ _) (by decide) (by decide)
  · refine .of_state fun r R size' _ beside smaller _ _ => ?_
    rw [beside.flags]
    refine parallel_openGroup.bind (d := 0) (fun start => ?_) (by decide) (by decide)
    cases start with
    | flags => exact again _ (by omega) _ _
    | group =>
      refine (again _ (by omega) [] []).bind (d := 0) (fun inner => ?_) (by decide) (by decide)
      exact .leaveGroup_bind r.flags (again _ (by omega) branches _) (by decide) (by decide)
  · exact parallel_readClass.bind (fun part => again _ (by omega) _ _) (by decide) (by decide)
  · refine parallel_advanceOne.bind (d := 0) (fun _ => ?_) (by decide) (by decide)
    refine (parallel_repeatLast _ _ _).bind (d := 0) (fun parts => ?_) (by decide) (by decide)
    exact (parallel_leave? (by simp)).bind (d := 0) (fun _ => again _ (by omega) _ _) (by decide) (by decide)
  · refine parallel_readBounds.bind (d := 1) (fun bounds => ?_) (by decide) (by decide)
    exact parallel_repeatWithin (fun parts => again _ (by simp) branches parts) bounds
  · refine parallel_readPrimitive.bind_edge (d := 0) (fun part => again _ (by omega) _ _) ?_ (by decide) (by decide)
    intro part r edge whole R read
    cases F with
    | zero => cases read
    | succ F => exact .inr (readBody_of_brace (fun parts => takes F (Nat.le_succ F) (branches, parts)) edge read)

end Regex

end TaskPlan
