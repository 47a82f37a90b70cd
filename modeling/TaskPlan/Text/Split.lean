/-!
# Cutting text

Heads, separators, offsets and replacements over lists of characters. `join_pieces` says
that the pieces between separators, joined by the separator, are the text again, and
`cut?_runEnd` that a text can be cut at the offset where a run of characters ends.
-/

namespace TaskPlan

namespace Text

def dropHead? : (head s : List Char) → Option (List Char)
  | [], s => some s
  | _ :: _, [] => none
  | h :: head, c :: s => if h = c then dropHead? head s else none

theorem dropHead?_eq_some {head s rest : List Char} :
    dropHead? head s = some rest ↔ s = head ++ rest := by
  induction head generalizing s with
  | nil => simp [dropHead?]
  | cons h head ih =>
    cases s with
    | nil => simp [dropHead?]
    | cons c s =>
      by_cases same : h = c
      · simp [dropHead?, same, ih]
      · simp [dropHead?, same, Ne.symm same]

def startsWith (s head : String) : Bool := (dropHead? head.toList s.toList).isSome

theorem startsWith_eq (s head : String) :
    startsWith s head = head.toList.isPrefixOf s.toList := by
  rw [Bool.eq_iff_iff, startsWith, Option.isSome_iff_exists, List.isPrefixOf_iff_prefix]
  exact exists_congr fun rest => dropHead?_eq_some.trans eq_comm

def after? (head s : String) : Option String := (dropHead? head.toList s.toList).map String.ofList

theorem after?_eq_some {head s rest : String} : after? head s = some rest ↔ s = head ++ rest := by
  rw [after?, Option.map_eq_some_iff]
  constructor
  · rintro ⟨cs, found, rfl⟩
    rw [← String.toList_inj, dropHead?_eq_some.mp found, String.toList_append, String.toList_ofList]
  · rintro rfl
    exact ⟨rest.toList, by rw [dropHead?_eq_some, String.toList_append], String.ofList_toList⟩

/-- The pieces of a text between the characters `separator`; there is always one. -/
def pieces (separator : Char) : List Char → List (List Char)
  | [] => [[]]
  | c :: rest =>
    if c = separator then [] :: pieces separator rest
    else match pieces separator rest with
      | [] => [[c]]
      | piece :: more => (c :: piece) :: more

theorem pieces_ne_nil (separator : Char) (s : List Char) : pieces separator s ≠ [] := by
  cases s with
  | nil => simp [pieces]
  | cons c rest =>
    simp only [pieces]
    split
    · simp
    · split <;> simp

def join (separator : Char) : List (List Char) → List Char
  | [] => []
  | [piece] => piece
  | piece :: more => piece ++ separator :: join separator more

theorem join_pieces (separator : Char) (s : List Char) : join separator (pieces separator s) = s := by
  induction s with
  | nil => rfl
  | cons c rest ih =>
    simp only [pieces]
    by_cases same : c = separator
    · subst same
      cases found : pieces c rest with
      | nil => exact absurd found (pieces_ne_nil c rest)
      | cons piece more =>
        rw [found] at ih
        simp [join, ih]
    · simp only [same, ↓reduceIte]
      cases found : pieces separator rest with
      | nil => exact absurd found (pieces_ne_nil separator rest)
      | cons piece more =>
        rw [found] at ih
        cases more <;> simp_all [join]

def splitOn (separator : Char) (s : String) : List String :=
  (pieces separator s.toList).map String.ofList

def splitOnce? (separator : Char) (s : String) : Option (String × String) :=
  match s.toList.span (· != separator) with
  | (_, []) => none
  | (before, _ :: rest) => some (String.ofList before, String.ofList rest)

/-! ### Offsets in bytes -/

/-- The number of bytes of a text in UTF-8. -/
def byteLength : List Char → Nat
  | [] => 0
  | c :: rest => c.utf8Size + byteLength rest

/-- The offset of the first character that does not satisfy `p`, or else of the end. -/
def runEnd (p : Char → Bool) (s : List Char) : Nat := byteLength (s.takeWhile p)

/-- A text cut at an offset. There is no cut inside a character or past the end. -/
def cut? (offset : Nat) : List Char → Option (List Char × List Char)
  | [] => if offset = 0 then some ([], []) else none
  | c :: rest =>
    if offset = 0 then some ([], c :: rest)
    else if offset < c.utf8Size then none
    else (cut? (offset - c.utf8Size) rest).map fun (before, after) => (c :: before, after)

theorem cut?_byteLength (before after : List Char) :
    cut? (byteLength before) (before ++ after) = some (before, after) := by
  induction before with
  | nil => cases after <;> rfl
  | cons c before ih =>
    have length : byteLength (c :: before) = c.utf8Size + byteLength before := rfl
    have positive := c.utf8Size_pos
    have remaining : c.utf8Size + byteLength before - c.utf8Size = byteLength before := by omega
    rw [List.cons_append, cut?, length, if_neg (by omega), if_neg (by omega), remaining, ih]
    rfl

theorem cut?_runEnd (p : Char → Bool) (s : List Char) :
    cut? (runEnd p s) s = some (s.takeWhile p, s.dropWhile p) := by
  have cut := cut?_byteLength (s.takeWhile p) (s.dropWhile p)
  rwa [List.takeWhile_append_dropWhile] at cut

def trimEnd (c : Char) (s : String) : String :=
  String.ofList (s.toList.reverse.dropWhile (· == c)).reverse

/-- A text with every occurrence of `pattern` replaced, the leftmost first and
without overlap; `skip` counts the characters of an occurrence still to drop. -/
def replaceFrom (pattern replacement : List Char) : Nat → List Char → List Char
  | _, [] => []
  | skip + 1, _ :: rest => replaceFrom pattern replacement skip rest
  | 0, c :: rest =>
    match dropHead? pattern (c :: rest) with
    | some _ => replacement ++ replaceFrom pattern replacement (pattern.length - 1) rest
    | none => c :: replaceFrom pattern replacement 0 rest

def replaceAll (pattern replacement s : String) : String :=
  String.ofList (replaceFrom pattern.toList replacement.toList 0 s.toList)

def containsList (part : List Char) : List Char → Bool
  | [] => part.isEmpty
  | c :: rest => (dropHead? part (c :: rest)).isSome || containsList part rest

theorem containsList_iff {part s : List Char} : containsList part s = true ↔ part <:+: s := by
  induction s with
  | nil => simp [containsList]
  | cons c rest ih =>
    rw [containsList, Bool.or_eq_true, ih, List.infix_cons_iff, Option.isSome_iff_exists]
    exact or_congr (exists_congr fun after => dropHead?_eq_some.trans eq_comm) Iff.rfl

def contains (s part : String) : Bool := containsList part.toList s.toList

theorem contains_iff {s part : String} : contains s part = true ↔ part.toList <:+: s.toList :=
  containsList_iff

/-- The lines of a text, each with the line feed that ends it; an empty text has none. -/
def lines : List Char → List (List Char)
  | [] => []
  | c :: rest =>
    if c = '\n' then [c] :: lines rest
    else match lines rest with
      | [] => [[c]]
      | line :: more => (c :: line) :: more

end Text

end TaskPlan
