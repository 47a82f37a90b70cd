import Mathlib
import TaskPlan.Pattern.Regex.Parse

/-!
# Readers before a closing bracket

What a reader of expressions does on a text, and what it does when a closing bracket and any more
text follow (`Reader.closed`). It does the same as long as it stays in the text. Where it goes on
behind the bracket, it has failed on the text alone, or stands in a comment that the end of the
text cuts off (`Follows`). `Parallel` carries this through the parts of a reader, with the number
of characters that are surely taken.
-/

namespace TaskPlan

namespace Regex

/-- The reader with a closing bracket and more text behind its own. -/
def Reader.closed (r : Reader) (after : List Char) : Reader := { r with rest := r.rest ++ ')' :: after }

/-- All of `text` is read, up to a comment at its end. -/
structure Reader.Ended (r : Reader) (text : List Char) : Prop where
  rest : r.rest = []
  spaced : r.flags.spaced = true
  comment : '#' ∈ text

/-- `rest` is left of the text after `count` characters or more. -/
structure Taken (count : Nat) (text rest : List Char) : Prop where
  suffix : rest <:+ text
  length : rest.length + count ≤ text.length

theorem Taken.trans {m n : Nat} {text mid rest : List Char} (first : Taken m text mid) (second : Taken n mid rest) :
    Taken (m + n) text rest where
  suffix := second.suffix.trans first.suffix
  length := by
    have := first.length
    have := second.length
    omega

theorem Taken.weaken {m n : Nat} {text rest : List Char} (taken : Taken n text rest) (fewer : m ≤ n) :
    Taken m text rest :=
  ⟨taken.suffix, (Nat.add_le_add_left fewer _).trans taken.length⟩

theorem Taken.refl (text : List Char) : Taken 0 text text := ⟨List.suffix_refl text, le_rfl⟩

/-- `rest` is left behind the closing bracket and `count - 1` characters or more. -/
def Beyond (after : List Char) (count : Nat) (rest : List Char) : Prop := Taken count (')' :: after) rest

variable {α β : Type}

/-- The result of a reader on `text` alone and on the text before a closing bracket. If it is not
the same, the reader has gone on behind the text, by `reached` characters or more, or it stands at
an `edge` of the text, where it looked behind it. -/
inductive Follows (after : List Char) (reached : Nat) (edge : α → Reader → Prop) (text : List Char) :
    (alone between : Option (α × Reader)) → Prop
  | same (result : Option (α × Reader)) :
    Follows after reached edge text result (result.map fun (a, r) => (a, r.closed after))
  | apart {alone between : Option (α × Reader)} (ended : ∀ a r, alone = some (a, r) → r.Ended text)
    (beyond : ∀ a r, between = some (a, r) → Beyond after reached r.rest) :
    Follows after reached edge text alone between
  | edge {a : α} {r : Reader} (isEdge : edge a r) : Follows after reached edge text none (some (a, r.closed after))

theorem Follows.of_eq {after text : List Char} {reached : Nat} {edge : α → Reader → Prop}
    {alone between : Option (α × Reader)} (same : between = alone.map fun (a, r) => (a, r.closed after)) :
    Follows after reached edge text alone between :=
  same ▸ .same alone

def never (_ : α) (_ : Reader) : Prop := False

/-- A reader that stands in a text, if it has `begun`, and not at its end. -/
def Reader.At (r : Reader) (begun : Bool) : Prop := begun = true → r.rest ≠ []

theorem Reader.at_false (r : Reader) : r.At false := fun never => by cases never

/-- Each result leaves a text from which `count` characters or more are taken; at the end of the
text the flags stay. -/
def Takes (begun : Bool) (count : α → Nat) (m : Read α) : Prop :=
  ∀ (r : Reader) (a : α) (r' : Reader), r.At begun → m.run r = some (a, r') →
    Taken (count a) r.rest r'.rest ∧ (r.rest = [] → r'.flags = r.flags)

/-- Two readers that do the same, one on a text of less than `size` characters and the other on
that text before a closing bracket. -/
structure Parallel (after : List Char) (begun : Bool) (size reached taken : Nat) (edge : α → Reader → Prop)
    (alone between : Read α) : Prop where
  takes : Takes begun (fun _ => taken) alone
  takes' : Takes begun (fun _ => taken) between
  follows : ∀ r : Reader, r.At begun → r.rest.length < size →
    Follows after reached edge r.rest (alone.run r) (between.run (r.closed after))

/-! ### Rules for the parts of a reader -/

section Rules

variable {after : List Char} {begun : Bool} {size n k c d e : Nat} {edge : α → Reader → Prop}
  {last : β → Reader → Prop} {m M : Read α} {f F : α → Read β}

theorem Beyond.eq_or_beyond {rest : List Char} (beyond : Beyond after 0 rest) :
    rest = ')' :: after ∨ Beyond after 1 rest :=
  (List.suffix_cons_iff.mp beyond.suffix).imp_right fun suffix =>
    ⟨beyond.suffix, Nat.succ_le_succ suffix.length_le⟩

theorem Beyond.then_taken {mid rest : List Char} (beyond : Beyond after k mid) (taken : Taken d mid rest)
    (enough : n ≤ k + d) : Beyond after n rest :=
  (Taken.trans beyond taken).weaken enough

theorem Follows.widen {part text : List Char} {x y : Option (α × Reader)} (inside : part <:+ text)
    (follows : Follows after n edge part x y) : Follows after n edge text x y := by
  cases follows with
  | same => exact .same x
  | apart ended beyond =>
    refine .apart (fun a r done => ?_) beyond
    obtain ⟨rest, spaced, comment⟩ := ended a r done
    exact ⟨rest, spaced, inside.mem comment⟩
  | edge isEdge => exact .edge isEdge

/-- What follows on a reader that stands at an edge stays there, or goes behind the text. -/
def FromEdge (after : List Char) (reached : Nat) (edge : α → Reader → Prop) (last : β → Reader → Prop)
    (F : α → Read β) : Prop :=
  ∀ a r, edge a r → ∀ b R, (F a).run (r.closed after) = some (b, R) →
    (R = r.closed after ∧ last b r) ∨ Beyond after reached R.rest

theorem Takes.bind {count more : α → Nat} (first : Takes begun count m)
    (next : ∀ a, Takes false (fun _ => more a) (f a)) (total : ∀ a, c ≤ count a + more a) :
    Takes begun (fun _ => c) (m >>= f) := by
  intro r b r' here done
  rw [StateT.run_bind] at done
  obtain ⟨⟨a, mid⟩, head, tail⟩ := Option.bind_eq_some_iff.mp done
  obtain ⟨taken, flags⟩ := first r a mid here head
  obtain ⟨taken', flags'⟩ := next a mid b r' mid.at_false tail
  refine ⟨(taken.trans taken').weaken (total a), fun ended => ?_⟩
  have ended' : mid.rest = [] := List.suffix_nil.mp (ended ▸ taken.suffix)
  rw [flags' ended', flags ended]

/-- One reader after another, where what they take may depend on the first result. -/
theorem Parallel.bind_of {count : α → Nat} (more : α → Nat) (takes : Takes begun count m) (takes' : Takes begun count M)
    (follows : ∀ r : Reader, r.At begun → r.rest.length < size →
      Follows after k edge r.rest (m.run r) (M.run (r.closed after)))
    (tail : ∀ a, Parallel after false (size - count a) n (more a) last (f a) (F a))
    (fromEdge : FromEdge after n edge last F) (enough : ∀ a, n ≤ k + more a) (total : ∀ a, c ≤ count a + more a) :
    Parallel after begun size n c last (m >>= f) (M >>= F) where
  takes := takes.bind (fun a => (tail a).takes) total
  takes' := takes'.bind (fun a => (tail a).takes') total
  follows r here short := by
    have head := follows r here short
    rw [StateT.run_bind, StateT.run_bind]
    generalize left : m.run r = x at head
    generalize M.run (r.closed after) = y at head
    cases head with
    | same =>
      cases x with
      | none => exact .same none
      | some result =>
        obtain ⟨a, mid⟩ := result
        obtain ⟨taken, -⟩ := takes r a mid here left
        have := taken.length
        exact ((tail a).follows mid mid.at_false (by omega)).widen taken.suffix
    | apart ended beyond =>
      refine .apart (fun b r' done => ?_) fun b r' done => ?_
      · obtain ⟨⟨a, mid⟩, rfl, rest⟩ := Option.bind_eq_some_iff.mp done
        obtain ⟨used, spaced, comment⟩ := ended a mid rfl
        obtain ⟨taken, flags⟩ := (tail a).takes mid b r' mid.at_false rest
        exact ⟨List.suffix_nil.mp (used ▸ taken.suffix), by rw [flags used, spaced], comment⟩
      · obtain ⟨⟨a, mid⟩, rfl, rest⟩ := Option.bind_eq_some_iff.mp done
        obtain ⟨taken, -⟩ := (tail a).takes' mid b r' mid.at_false rest
        exact (beyond a mid rfl).then_taken taken (enough a)
    | @edge a mid isEdge =>
      change Follows after n last r.rest none ((F a).run (mid.closed after))
      cases rest : (F a).run (mid.closed after) with
      | none => exact .same none
      | some result =>
        obtain ⟨b, r'⟩ := result
        obtain ⟨rfl, isEdge'⟩ | beyond := fromEdge a mid isEdge b r' rest
        · exact .edge isEdge'
        · refine .apart (fun _ _ done => by cases done) ?_
          rintro _ _ ⟨⟩
          exact beyond

theorem fromEdge_never : FromEdge after n never last F := fun _ _ isEdge => isEdge.elim

theorem Parallel.bind (head : Parallel after begun size k e never m M)
    (tail : ∀ a, Parallel after false (size - e) n d last (f a) (F a)) (enough : n ≤ k + d) (total : c ≤ e + d) :
    Parallel after begun size n c last (m >>= f) (M >>= F) :=
  .bind_of (fun _ => d) head.takes head.takes' head.follows tail fromEdge_never (fun _ => enough) fun _ => total

theorem Parallel.bind_edge (head : Parallel after begun size k e edge m M)
    (tail : ∀ a, Parallel after false (size - e) n d last (f a) (F a)) (fromEdge : FromEdge after n edge last F)
    (enough : n ≤ k + d) (total : c ≤ e + d) : Parallel after begun size n c last (m >>= f) (M >>= F) :=
  .bind_of (fun _ => d) head.takes head.takes' head.follows tail fromEdge (fun _ => enough) fun _ => total

theorem Parallel.weaken {size' n' e' : Nat} (both : Parallel after false size n e edge m M) (smaller : size' ≤ size)
    (nearer : n' ≤ n) (fewer : e' ≤ e) : Parallel after begun size' n' e' edge m M where
  takes r a r' _ done := (both.takes r a r' r.at_false done).imp_left (·.weaken fewer)
  takes' r a r' _ done := (both.takes' r a r' r.at_false done).imp_left (·.weaken fewer)
  follows r _ short := by
    have follows := both.follows r r.at_false (short.trans_le smaller)
    generalize m.run r = x, M.run (r.closed after) = y at follows ⊢
    cases follows with
    | same => exact .same x
    | apart ended beyond => exact .apart ended fun a R done => (beyond a R done).weaken nearer
    | edge isEdge => exact .edge isEdge

theorem takes_pure (a : α) : Takes begun (fun _ => 0) (pure a : Read α) := by
  rintro r _ _ - ⟨⟩
  exact ⟨.refl _, fun _ => rfl⟩

theorem Parallel.pure (a : α) : Parallel after begun size n 0 edge (pure a) (pure a) where
  takes := takes_pure a
  takes' := takes_pure a
  follows r _ _ := .same (some (a, r))

theorem takes_failure {count : α → Nat} : Takes begun count (failure : Read α) := by
  intro r a r' _ done
  cases done

theorem Parallel.failure : Parallel after begun size n e edge (failure : Read α) failure where
  takes := takes_failure
  takes' := takes_failure
  follows _ _ _ := .same none

theorem Parallel.failure_bind {m M : α → Read β} :
    Parallel after begun size n e last (Alternative.failure >>= m) (Alternative.failure >>= M) :=
  .failure

theorem Parallel.ite {p : Prop} [Decidable p] {m' M' : Read α} (yes : p → Parallel after begun size n e edge m M)
    (no : ¬p → Parallel after begun size n e edge m' M') :
    Parallel after begun size n e edge (if p then m else m') (if p then M else M') := by
  by_cases h : p
  · simpa only [if_pos h] using yes h
  · simpa only [if_neg h] using no h

/-- A step that is made only where `p` holds. -/
theorem Parallel.when {p : Prop} [Decidable p] {step : Read Unit} {f F : Unit → Read β}
    (head : Parallel after begun size k e never step step) (tail : Parallel after false size n d last (f ()) (F ()))
    (enough : n ≤ k + d) :
    Parallel after begun size n d last (if p then step >>= f else f ()) (if p then step >>= F else F ()) :=
  .ite (fun _ => head.bind (fun _ => tail.weaken (Nat.sub_le size e) le_rfl le_rfl) enough (Nat.le_add_left d e))
    fun _ => tail.weaken le_rfl le_rfl le_rfl

/-- The reader of the text alone, or the one before a closing bracket. -/
def Reader.Beside (after : List Char) (r R : Reader) : Prop := R = r ∨ R = r.closed after

theorem Reader.Beside.flags {r R : Reader} (beside : r.Beside after R) : R.flags = r.flags := by
  obtain rfl | rfl := beside <;> rfl

/-- What is read may depend on the reader as it is, and take a `fuel` for what is left. -/
theorem Parallel.of_state {f F : Reader → Read β}
    (each : ∀ (r R : Reader) (size' : Nat), r.At begun → r.Beside after R → size' ≤ size → size' ≤ r.rest.length + 1 →
      size' ≤ R.rest.length + 1 → Parallel after begun size' n e last (f r) (F R)) :
    Parallel after begun size n e last (get >>= f) (get >>= F) where
  takes r a r' here done :=
    (each r r 0 here (.inl rfl) (Nat.zero_le _) (Nat.zero_le _) (Nat.zero_le _)).takes r a r' here done
  takes' r a r' here done :=
    (each r r 0 here (.inl rfl) (Nat.zero_le _) (Nat.zero_le _) (Nat.zero_le _)).takes' r a r' here done
  follows r here short := by
    have longer : r.rest.length ≤ (r.closed after).rest.length := by simp [Reader.closed]
    exact (each r (r.closed after) (r.rest.length + 1) here (.inr rfl) short le_rfl (Nat.succ_le_succ longer)).follows
      r here (Nat.lt_succ_self _)

/-- A reader by recursion on fuel, of which neither side has less than characters. -/
theorem Parallel.fuel {ι : Type} (read : Nat → ι → Read α) (zero : ∀ i, read 0 i = Alternative.failure)
    (step : ∀ f F size, (∀ g ≤ F, ∀ i, Takes false (fun _ => e) (read g i)) →
      (∀ i, Parallel after false (size - 1) n e edge (read f i) (read F i)) →
      ∀ i, Parallel after false size n e edge (read (f + 1) i) (read (F + 1) i)) (f F : Nat) (i : ι) :
    Parallel after false (min f F) n e edge (read f i) (read F i) := by
  have itself (f : Nat) : ∀ g ≤ f, ∀ i, Parallel after false 0 n e edge (read g i) (read g i) := by
    induction f with
    | zero =>
      rintro _ (_ | _) i
      rw [zero]
      exact .failure
    | succ f ih =>
      intro g less i
      obtain less | rfl := Nat.le_succ_iff.mp less
      · exact ih g less i
      · exact step f f 0 (fun g less i => (ih g less i).takes) (ih f le_rfl) i
  have takes (f i) : Takes false (fun _ => e) (read f i) := (itself f f le_rfl i).takes
  induction f generalizing F i with
  | zero => exact ⟨takes 0 i, takes F i, fun _ _ short => by simp at short⟩
  | succ f ih =>
    cases F with
    | zero => exact ⟨takes (f + 1) i, takes 0 i, fun _ _ short => by simp at short⟩
    | succ F =>
      rw [Nat.add_min_add_right]
      exact step f F _ (fun g _ => takes g) (fun i => ih F i) i

/-- A call of such a reader with fuel for the rest of the text. -/
theorem Parallel.fueled {read : Nat → Read α}
    (each : ∀ f F, Parallel after false (min f F) k e never (read f) (read F))
    (tail : ∀ a, Parallel after false (size - e) n d last (f a) (F a)) (enough : n ≤ k + d) (total : c ≤ e + d) :
    Parallel after begun size n c last (get >>= fun r => read (r.rest.length + 1) >>= f)
      (get >>= fun r => read (r.rest.length + 1) >>= F) := by
  refine .of_state fun r R size' _ _ smaller below below' => ?_
  refine ((each _ _).weaken (le_min below below') le_rfl le_rfl).bind (fun a => ?_) enough total
  exact (tail a).weaken (by omega) le_rfl le_rfl

/-- A reader that fails at the end of a text may as well start there. -/
theorem Parallel.of_begun (both : Parallel after true size n e edge m M)
    (fails : ∀ r : Reader, r.rest = [] → m.run r = none) (fails' : ∀ r : Reader, r.rest = [] → M.run r = none)
    (enough : n ≤ e) : Parallel after begun size n e edge m M where
  takes r a r' _ done := both.takes r a r' (fun _ ended => by simp [fails r ended] at done) done
  takes' r a r' _ done := both.takes' r a r' (fun _ ended => by simp [fails' r ended] at done) done
  follows r _ short := by
    by_cases ended : r.rest = []
    · rw [fails r ended]
      refine .apart (fun _ _ done => by cases done) fun a R done => ?_
      have rest : (r.closed after).rest = ')' :: after := by simp [Reader.closed, ended]
      obtain ⟨taken, -⟩ := both.takes' (r.closed after) a R (fun _ => by simp [rest]) done
      rw [rest] at taken
      exact taken.weaken enough
    · exact both.follows r (fun _ => ended) short

end Rules

/-! ### Single steps -/

section Steps

variable {after : List Char} {begun : Bool} {size n c d : Nat} {last : β → Reader → Prop} {f F : Char → Read β}

theorem need_run (r : Reader) : need.run r = r.rest.head?.map fun c => (c, r) := by
  obtain ⟨rest, flags, names⟩ := r
  cases rest <;> rfl

theorem need_fails {r : Reader} (ended : r.rest = []) (f : Char → Read β) : (need >>= f).run r = none := by
  rw [StateT.run_bind, need_run, ended]
  rfl

theorem Parallel.need_bind (tail : ∀ c, Parallel after true size n d last (f c) (F c)) (enough : n ≤ d) :
    Parallel after begun size n d last (need >>= f) (need >>= F) := by
  have here {r : Reader} (c : Char) (there : r.rest.head? = some c) (f : Char → Read β) :
      (need >>= f).run r = (f c).run r := by
    rw [StateT.run_bind, need_run, there]
    rfl
  have first {r : Reader} (begins : r.At true) : ∃ c, r.rest.head? = some c := by
    simpa [List.head?_eq_some_iff] using List.exists_cons_of_ne_nil (begins rfl)
  refine .of_begun ⟨?_, ?_, ?_⟩ (fun r ended => need_fails ended f) (fun r ended => need_fails ended F) enough
  · intro r b r' begins done
    obtain ⟨c, there⟩ := first begins
    exact (tail c).takes r b r' begins (here c there f ▸ done)
  · intro r b r' begins done
    obtain ⟨c, there⟩ := first begins
    exact (tail c).takes' r b r' begins (here c there F ▸ done)
  · intro r begins short
    obtain ⟨c, there⟩ := first begins
    have there' : (r.closed after).rest.head? = some c := by simp [Reader.closed, List.head?_append, there]
    rw [here c there, here c there']
    exact (tail c).follows r begins short

/-- A reader may look whether there is a bracket, and stop there as it does at the end. -/
theorem Parallel.peek_bind {f F : Option Char → Read β} (tail : ∀ c, Parallel after true size n d last (f (some c)) (F (some c)))
    (bracket : Parallel after false size n d last (f none) (F none)) (stops : F (some ')') = F none) :
    Parallel after begun size n d last (peek >>= f) (peek >>= F) := by
  have here (r : Reader) (f : Option Char → Read β) : (peek >>= f).run r = (f r.rest.head?).run r := rfl
  refine ⟨?_, ?_, ?_⟩
  · intro r b r' _ done
    rw [here] at done
    cases text : r.rest with
    | nil => exact text ▸ bracket.takes r b r' r.at_false (by simpa [text] using done)
    | cons c rest => exact text ▸ (tail c).takes r b r' (by simp [Reader.At, text]) (by simpa [text] using done)
  · intro r b r' _ done
    rw [here] at done
    cases text : r.rest with
    | nil => exact text ▸ bracket.takes' r b r' r.at_false (by simpa [text] using done)
    | cons c rest => exact text ▸ (tail c).takes' r b r' (by simp [Reader.At, text]) (by simpa [text] using done)
  · intro r _ short
    rw [here, here]
    cases text : r.rest with
    | nil =>
      have first : (r.closed after).rest.head? = some ')' := by simp [Reader.closed, text]
      have follows := bracket.follows r r.at_false short
      rw [text] at follows
      rwa [first, stops]
    | cons c rest =>
      have first : (r.closed after).rest.head? = some c := by simp [Reader.closed, text]
      have follows := (tail c).follows r (by simp [Reader.At, text]) short
      rw [text] at follows
      rwa [first]

theorem skipSpaced_suffix (inComment : Bool) (text : List Char) : skipSpaced inComment text <:+ text := by
  induction text generalizing inComment with
  | nil => cases inComment <;> exact List.suffix_refl []
  | cons c rest ih =>
    cases inComment with
    | true => exact (ih _).trans (List.suffix_cons c rest)
    | false =>
      rw [skipSpaced]
      split
      · exact (ih _).trans (List.suffix_cons c rest)
      · split
        · exact (ih _).trans (List.suffix_cons c rest)
        · exact List.suffix_refl _

/-- Only a comment goes on through the closing bracket. -/
theorem skipSpaced_closing (after : List Char) (inComment : Bool) (text : List Char) :
    skipSpaced inComment (text ++ ')' :: after) = skipSpaced inComment text ++ ')' :: after ∨
      skipSpaced inComment text = [] ∧ Beyond after 1 (skipSpaced inComment (text ++ ')' :: after)) ∧
        (inComment = false → '#' ∈ text) := by
  induction text generalizing inComment with
  | nil =>
    cases inComment with
    | true =>
      have suffix : skipSpaced true after <:+ after := skipSpaced_suffix true after
      exact .inr ⟨rfl, ⟨suffix.trans (List.suffix_cons _ _), Nat.succ_le_succ suffix.length_le⟩, nofun⟩
    | false => exact .inl rfl
  | cons c rest ih =>
    cases inComment with
    | true => exact (ih _).imp_right fun ⟨alone, beyond, _⟩ => ⟨alone, beyond, nofun⟩
    | false =>
      rw [List.cons_append, skipSpaced, skipSpaced]
      split
      · exact (ih _).imp_right fun ⟨alone, beyond, comment⟩ =>
          ⟨alone, beyond, fun outside => List.mem_cons_of_mem c (comment outside)⟩
      · split
        · rename_i hash
          exact (ih _).imp_right fun ⟨alone, beyond, _⟩ => ⟨alone, beyond, fun _ => hash ▸ List.mem_cons_self⟩
        · exact .inl rfl

theorem skip_run (r : Reader) :
    skip.run r = some ((), if r.flags.spaced then { r with rest := skipSpaced false r.rest } else r) := rfl

theorem parallel_skip : Parallel after begun size 1 0 never skip skip := by
  have takes : Takes begun (fun _ => 0) skip := by
    rintro r _ _ - ⟨⟩
    dsimp only
    split
    · have suffix := skipSpaced_suffix false r.rest
      exact ⟨⟨suffix, suffix.length_le⟩, fun _ => rfl⟩
    · exact ⟨.refl _, fun _ => rfl⟩
  refine ⟨takes, takes, fun r _ _ => ?_⟩
  rw [skip_run, skip_run]
  by_cases spaced : r.flags.spaced = true
  · have spaced' : (r.closed after).flags.spaced = true := spaced
    rw [if_pos spaced, if_pos spaced']
    obtain same | ⟨alone, between, comment⟩ := skipSpaced_closing after false r.rest
    · exact .of_eq (by simp [Reader.closed, same])
    · refine .apart ?_ ?_
      · rintro _ _ ⟨⟩
        exact ⟨alone, spaced, comment rfl⟩
      · rintro _ _ ⟨⟩
        exact between
  · have spaced' : ¬(r.closed after).flags.spaced = true := spaced
    rw [if_neg spaced, if_neg spaced']
    exact .same (some ((), r))

theorem parallel_advanceOne : Parallel after true size 1 1 never advanceOne advanceOne := by
  have takes : Takes true (fun _ => 1) advanceOne := by
    rintro r _ _ here ⟨⟩
    obtain ⟨c, rest, text⟩ := List.exists_cons_of_ne_nil (here rfl)
    exact ⟨⟨List.tail_suffix _, by simp [text]⟩, fun _ => rfl⟩
  refine ⟨takes, takes, fun r here _ => .of_eq ?_⟩
  obtain ⟨c, rest, text⟩ := List.exists_cons_of_ne_nil (here rfl)
  simp [advanceOne, Reader.closed, text]

theorem parallel_advanceSkip : Parallel after true size 1 1 never advanceSkip advanceSkip :=
  parallel_advanceOne.bind (fun _ => parallel_skip) (by decide) (by decide)

theorem dropHead?_closing (after : List Char) {text : List Char} (unbracketed : ')' ∉ text) (rest : List Char) :
    Text.dropHead? text (rest ++ ')' :: after) = (Text.dropHead? text rest).map (· ++ ')' :: after) := by
  induction text generalizing rest with
  | nil => rfl
  | cons c text ih =>
    cases rest with
    | nil =>
      have other : c ≠ ')' := fun same => unbracketed (same ▸ List.mem_cons_self)
      simp [Text.dropHead?, other]
    | cons d rest =>
      simp only [List.cons_append, Text.dropHead?]
      split
      · exact ih (fun member => unbracketed (List.mem_cons_of_mem c member)) rest
      · rfl

theorem leave?_run (text : List Char) (r : Reader) :
    (leave? text).run r = some (match Text.dropHead? text r.rest with
      | some rest => (true, { r with rest := rest })
      | none => (false, r)) := by
  simp only [leave?, StateT.run_bind, StateT.run_get, pure_bind]
  cases Text.dropHead? text r.rest <;> rfl

theorem takes_leave? (text : List Char) :
    Takes begun (fun found => if found then text.length else 0) (leave? text) := by
  intro r found r' _ done
  rw [leave?_run, Option.some.injEq] at done
  split at done
  · obtain ⟨⟩ := done
    rename_i rest left
    have whole := Text.dropHead?_eq_some.mp left
    refine ⟨⟨⟨text, whole.symm⟩, ?_⟩, fun _ => rfl⟩
    simp [whole, Nat.add_comm]
  · obtain ⟨⟩ := done
    exact ⟨.refl _, fun _ => rfl⟩

theorem follows_leave? {text : List Char} (unbracketed : ')' ∉ text) (r : Reader) :
    Follows after n never r.rest ((leave? text).run r) ((leave? text).run (r.closed after)) := by
  refine .of_eq ?_
  rw [leave?_run, leave?_run, Reader.closed, dropHead?_closing after unbracketed]
  cases Text.dropHead? text r.rest <;> rfl

theorem parallel_leave? {text : List Char} (unbracketed : ')' ∉ text) :
    Parallel after begun size 1 0 never (leave? text) (leave? text) := by
  have takes : Takes begun (fun _ => 0) (leave? text) := fun r found r' here done =>
    (takes_leave? text r found r' here done).imp_left (·.weaken (Nat.zero_le _))
  exact ⟨takes, takes, fun r _ _ => follows_leave? unbracketed r⟩

theorem parallel_expect {text : List Char} (unbracketed : ')' ∉ text) :
    Parallel after begun size 1 text.length never (expect text) (expect text) := by
  refine .bind_of (fun found => if found then 0 else text.length) (takes_leave? text) (takes_leave? text)
    (fun r _ _ => follows_leave? unbracketed r) (fun found => ?_) fromEdge_never (fun _ => Nat.le_add_right 1 _) ?_
  · cases found with
    | true => exact .pure ()
    | false => exact .failure
  · rintro (_ | _) <;> simp

theorem expect_run (text : List Char) (r : Reader) :
    (expect text).run r = (Text.dropHead? text r.rest).map fun rest => ((), { r with rest := rest }) := by
  rw [expect, StateT.run_bind, leave?_run]
  cases Text.dropHead? text r.rest <;> rfl

/-- The end of a group, where the flags around it hold again. -/
def leaveGroup (flags : Flags) : Read Unit := do
  expect [')']
  modify fun r => { r with flags := flags }

theorem leaveGroup_run (flags : Flags) (r : Reader) : (leaveGroup flags).run r =
    (Text.dropHead? [')'] r.rest).map fun rest => ((), { r with rest := rest, flags := flags }) := by
  rw [leaveGroup, StateT.run_bind, expect_run]
  cases Text.dropHead? [')'] r.rest <;> rfl

/-- The bracket that ends a group may be the closing one. -/
theorem parallel_leaveGroup (flags : Flags) :
    Parallel after begun size 1 1 never (leaveGroup flags) (leaveGroup flags) := by
  have takes : Takes begun (fun _ => 1) (leaveGroup flags) := by
    intro r _ r' _ done
    rw [leaveGroup_run] at done
    obtain ⟨rest, left, ⟨⟩⟩ := Option.map_eq_some_iff.mp done
    have whole := Text.dropHead?_eq_some.mp left
    exact ⟨⟨⟨[')'], whole.symm⟩, by simp [whole]⟩, fun ended => by simp [ended] at whole⟩
  refine ⟨takes, takes, fun r _ _ => ?_⟩
  rw [leaveGroup_run, leaveGroup_run]
  cases text : r.rest with
  | nil =>
    have rest : (r.closed after).rest = ')' :: after := by simp [Reader.closed, text]
    rw [rest]
    refine .apart (fun _ _ done => by cases done) fun _ R done => ?_
    obtain ⟨⟩ := done
    exact ⟨List.suffix_cons ')' after, le_rfl⟩
  | cons c rest =>
    have closed : (r.closed after).rest = c :: (rest ++ ')' :: after) := by simp [Reader.closed, text]
    rw [closed]
    refine .of_eq ?_
    simp [Text.dropHead?, Reader.closed]

theorem Parallel.leaveGroup_bind (flags : Flags) {m M : Read β} (tail : Parallel after false (size - 1) n d last m M)
    (enough : n ≤ 1 + d) (total : c ≤ 1 + d) :
    Parallel after begun size n c last (do expect [')']; modify fun r => { r with flags := flags }; m)
      (do expect [')']; modify fun r => { r with flags := flags }; M) := by
  simpa only [leaveGroup, bind_assoc] using (parallel_leaveGroup flags).bind (fun _ => tail) enough total

/-- Flags that hold from behind a character on. -/
def leaveWith (flags : Flags) : Read Unit := do
  advanceOne
  modify fun r => { r with flags := flags }

theorem leaveWith_run (flags : Flags) (r : Reader) :
    (leaveWith flags).run r = some ((), { r with rest := r.rest.tail, flags := flags }) := rfl

theorem parallel_leaveWith (flags : Flags) : Parallel after true size 1 1 never (leaveWith flags) (leaveWith flags) := by
  have takes : Takes true (fun _ => 1) (leaveWith flags) := by
    rintro r _ _ here ⟨⟩
    obtain ⟨c, rest, text⟩ := List.exists_cons_of_ne_nil (here rfl)
    exact ⟨⟨List.tail_suffix _, by simp [text]⟩, fun ended => absurd ended (here rfl)⟩
  refine ⟨takes, takes, fun r here _ => .of_eq ?_⟩
  obtain ⟨c, rest, text⟩ := List.exists_cons_of_ne_nil (here rfl)
  simp [leaveWith_run, Reader.closed, text]

theorem Parallel.leaveWith_bind (flags : Flags) {m M : Read β} (tail : Parallel after false (size - 1) n d last m M)
    (enough : n ≤ 1 + d) (total : c ≤ 1 + d) :
    Parallel after true size n c last (do advanceOne; modify fun r => { r with flags := flags }; m)
      (do advanceOne; modify fun r => { r with flags := flags }; M) := by
  simpa only [leaveWith, bind_assoc] using (parallel_leaveWith flags).bind (fun _ => tail) enough total

end Steps

end Regex

end TaskPlan
