import TaskPlan.Context.Hasher
import TaskPlan.Proofs.Order.Finite

/-!
# Framing of contexts

The bytes that are hashed for a context tell its entries: a path ends at the first zero, the
eight bytes after it say how long the content is, and the next entry follows the content. So a
frame can be told from all that may come after it (`SelfDelimiting`), and sequences of frames
are equal only if the entries are. As entries stand in the order of their paths, the bytes are
those of another sequence of additions exactly if the same contents are left at the same paths
(`stream_eq_iff`).
-/

namespace TaskPlan

/-! ### Sequences of frames -/

/-- Whatever comes after the frames of two valid items, they start alike only if the items are
the same. -/
structure SelfDelimiting {α : Type u} {β : Type v} (valid : α → Prop) (frame : α → List β) : Prop where
  some : ∀ item, frame item ≠ []
  parted : ∀ item other, valid item → valid other → ∀ rest more,
    frame item ++ rest = frame other ++ more → item = other ∧ rest = more

section Frames

variable {α : Type u} {β : Type v} {valid : α → Prop} {frame : α → List β}

theorem SelfDelimiting.eq_of_flatMap (delimiting : SelfDelimiting valid frame) {items others : List α}
    (validItems : ∀ item ∈ items, valid item) (validOthers : ∀ item ∈ others, valid item)
    (same : items.flatMap frame = others.flatMap frame) : items = others := by
  induction items generalizing others with
  | nil =>
    cases others with
    | nil => rfl
    | cons other others =>
      have nothing : frame other ++ others.flatMap frame = [] := same.symm
      exact absurd (List.append_eq_nil_iff.mp nothing).1 (delimiting.some other)
  | cons item items ih =>
    obtain ⟨here, later⟩ := List.forall_mem_cons.mp validItems
    cases others with
    | nil =>
      have nothing : frame item ++ items.flatMap frame = [] := same
      exact absurd (List.append_eq_nil_iff.mp nothing).1 (delimiting.some item)
    | cons other others =>
      obtain ⟨otherHere, otherLater⟩ := List.forall_mem_cons.mp validOthers
      rw [List.flatMap_cons, List.flatMap_cons] at same
      obtain ⟨rfl, rest⟩ := delimiting.parted item other here otherHere _ _ same
      rw [ih later otherLater rest]

/-- Texts that end at the first mark after them. -/
theorem eq_of_marked {mark : β} {text other rest more : List β} (unmarked : mark ∉ text)
    (otherUnmarked : mark ∉ other) (same : text ++ mark :: rest = other ++ mark :: more) :
    text = other ∧ rest = more := by
  induction text generalizing other with
  | nil =>
    cases other with
    | nil => exact ⟨rfl, (List.cons.inj same).2⟩
    | cons first other =>
      have here : mark = first := (List.cons.inj same).1
      exact absurd (here ▸ List.mem_cons_self) otherUnmarked
  | cons first text ih =>
    cases other with
    | nil =>
      have here : first = mark := (List.cons.inj same).1
      exact absurd (here ▸ List.mem_cons_self) unmarked
    | cons second other =>
      obtain ⟨rfl, later⟩ := List.cons.inj same
      obtain ⟨rfl, rest⟩ := ih (fun again => unmarked (List.mem_cons_of_mem _ again))
        (fun again => otherUnmarked (List.mem_cons_of_mem _ again)) later
      exact ⟨rfl, rest⟩

end Frames

/-! ### Bytes of texts -/

namespace Bytes

theorem toList_loop (bytes : ByteArray) (i : Nat) (read : List UInt8) :
    ByteArray.toList.loop bytes i read = read.reverse ++ bytes.data.toList.drop i := by
  fun_induction ByteArray.toList.loop bytes i read with
  | case1 i read inside ih =>
    have bound : i < bytes.data.toList.length := inside
    have here : bytes.get! i = bytes.data.toList[i] := getElem!_pos bytes.data i inside
    rw [ih, List.drop_eq_getElem_cons bound, here]
    simp
  | case2 i read outside =>
    have bound : bytes.data.toList.length ≤ i := Nat.le_of_not_lt outside
    simp [List.drop_eq_nil_of_le bound]

theorem ofText_eq_flatMap (s : String) : ofText s = s.toList.flatMap String.utf8EncodeChar := by
  have bytes : (s.toUTF8).data.toList = s.toList.flatMap String.utf8EncodeChar := by
    rw [String.toUTF8, ← String.utf8Encode_toList]
    exact List.toList_data_toByteArray
  rw [ofText, ByteArray.toList, toList_loop]
  simpa using bytes

theorem ofText_injective : Function.Injective ofText := by
  intro s t same
  rw [ofText_eq_flatMap, ofText_eq_flatMap] at same
  rw [← String.toByteArray_inj, ← String.utf8Encode_toList, ← String.utf8Encode_toList]
  exact congrArg List.toByteArray same

theorem ofNat_ne_zero {n : Nat} (some : n % 256 ≠ 0) : (0 : UInt8) ≠ UInt8.ofNat n := by
  intro same
  have values := congrArg UInt8.toNat same
  simp only [UInt8.toNat_ofNat'] at values
  exact some values.symm

/-- Only the character with code zero is written with a zero. -/
theorem zero_not_mem_utf8EncodeChar {c : Char} (nonzero : c ≠ '\x00') : 0 ∉ String.utf8EncodeChar c := by
  have positive : c.val.toNat ≠ 0 := by
    intro zero
    exact nonzero (Char.ext (UInt32.toNat_inj.mp zero))
  -- the code of a single byte is not zero, and all other bytes are 128 or more
  unfold String.utf8EncodeChar
  dsimp only
  split
  · rw [List.mem_singleton]
    exact ofNat_ne_zero (by omega)
  · split
    · simp only [List.mem_cons, not_or]
      exact ⟨ofNat_ne_zero (by omega), ofNat_ne_zero (by omega), List.not_mem_nil⟩
    · split
      · simp only [List.mem_cons, not_or]
        exact ⟨ofNat_ne_zero (by omega), ofNat_ne_zero (by omega), ofNat_ne_zero (by omega),
          List.not_mem_nil⟩
      · simp only [List.mem_cons, not_or]
        exact ⟨ofNat_ne_zero (by omega), ofNat_ne_zero (by omega), ofNat_ne_zero (by omega),
          ofNat_ne_zero (by omega), List.not_mem_nil⟩

theorem zero_not_mem_ofText {s : String} (unmarked : '\x00' ∉ s.toList) : 0 ∉ ofText s := by
  rw [ofText_eq_flatMap]
  intro member
  obtain ⟨c, inside, zero⟩ := List.mem_flatMap.mp member
  have nonzero : c ≠ '\x00' := by
    rintro rfl
    exact unmarked inside
  exact zero_not_mem_utf8EncodeChar nonzero zero

end Bytes

/-! ### Digests in hexadecimal -/

namespace Sha256

theorem digitChar_injective : ∀ m n : Fin 16, Nat.digitChar m = Nat.digitChar n → m = n := by decide

theorem hexByte_injective {byte other : UInt8} (same : hexByte byte = hexByte other) : byte = other := by
  have small := byte.toNat_lt
  have otherSmall := other.toNat_lt
  simp only [hexByte, List.cons.injEq, and_true] at same
  have high := digitChar_injective ⟨byte.toNat / 16, by omega⟩ ⟨other.toNat / 16, by omega⟩ same.1
  have low := digitChar_injective ⟨byte.toNat % 16, by omega⟩ ⟨other.toNat % 16, by omega⟩ same.2
  rw [Fin.mk.injEq] at high low
  exact UInt8.toNat_inj.mp (by omega)

theorem hexByte_delimiting : SelfDelimiting (fun _ => True) hexByte where
  some byte := by simp [hexByte]
  parted byte other _ _ rest more same := by
    obtain ⟨bytes, rest⟩ := List.append_inj same rfl
    exact ⟨hexByte_injective bytes, rest⟩

theorem digest_eq_of_hexDigest {bytes others : List UInt8} (same : hexDigest bytes = hexDigest others) :
    digest bytes = digest others := by
  have texts : (digest bytes).flatMap hexByte = (digest others).flatMap hexByte :=
    String.ofList_injective same
  exact hexByte_delimiting.eq_of_flatMap (by simp) (by simp) texts

end Sha256

namespace ContextHasher

/-! ### Frames -/

theorem littleEndian_length (count n : Nat) : (littleEndian count n).length = count := by
  induction count generalizing n with
  | zero => rfl
  | succ count ih => rw [littleEndian, List.length_cons, ih]

theorem littleEndian_injective {count m n : Nat} (fits : m < 256 ^ count) (fits' : n < 256 ^ count)
    (same : littleEndian count m = littleEndian count n) : m = n := by
  induction count generalizing m n with
  | zero => omega
  | succ count ih =>
    rw [Nat.pow_succ] at fits fits'
    obtain ⟨first, later⟩ := List.cons.inj same
    have low : m % 256 = n % 256 := by
      have values := congrArg UInt8.toNat first
      simpa only [UInt8.toNat_ofNat'] using values
    have high : m / 256 = n / 256 := ih (by omega) (by omega) later
    omega

/-- The path has no zero in it, and the length of the content is that of some bytes in memory. -/
structure Framed (entry : String × Bytes) : Prop where
  path : '\x00' ∉ entry.1.toList
  content : entry.2.length < UInt64.size

theorem frame_delimiting : SelfDelimiting Framed fun entry => frame entry.1 entry.2 where
  some entry := by simp [frame]
  parted := by
    rintro ⟨path, content⟩ ⟨otherPath, otherContent⟩ framed otherFramed rest more same
    simp only [frame, List.append_assoc, List.cons_append] at same
    have marked := eq_of_marked (Bytes.zero_not_mem_ofText framed.path)
      (Bytes.zero_not_mem_ofText otherFramed.path) same
    obtain ⟨paths, sized⟩ := marked
    obtain rfl := Bytes.ofText_injective paths
    have lengths : (littleEndian 8 content.length).length = (littleEndian 8 otherContent.length).length := by
      rw [littleEndian_length, littleEndian_length]
    obtain ⟨sizes, contents⟩ := List.append_inj sized lengths
    have length : content.length = otherContent.length :=
      littleEndian_injective framed.content otherFramed.content sizes
    obtain ⟨rfl, rest⟩ := List.append_inj contents length
    exact ⟨rfl, rest⟩

/-! ### Additions -/

/-- What has been added one after the other. -/
def addAll (additions : List (String × Bytes)) : ContextHasher :=
  additions.foldl (fun hasher entry => hasher.add entry.1 entry.2) .empty

/-- The content that additions leave at a path, which is the last one. -/
def left (additions : List (String × Bytes)) (path : String) : Option Bytes :=
  (additions.reverse.find? fun entry => entry.1 == path).map Prod.snd

variable {additions : List (String × Bytes)}

theorem addAll_append (entry : String × Bytes) :
    addAll (additions ++ [entry]) = (addAll additions).add entry.1 entry.2 := by
  rw [addAll, List.foldl_append]
  rfl

theorem left_append (entry : String × Bytes) (path : String) :
    left (additions ++ [entry]) path = if entry.1 = path then some entry.2 else left additions path := by
  rw [left, List.reverse_append, List.reverse_singleton, List.singleton_append]
  by_cases same : entry.1 = path
  · rw [if_pos same, List.find?_cons_of_pos (by simpa using same)]
    rfl
  · rw [if_neg same, List.find?_cons_of_neg (by simpa using same)]
    rfl

theorem get?_addAll (additions : List (String × Bytes)) (path : String) :
    (addAll additions).entries.get? path = left additions path := by
  induction additions using List.reverseRecOn with
  | nil => rfl
  | append_singleton additions entry ih =>
    rw [addAll_append, left_append, ← ih]
    exact KeyMap.get?_insert _ _ _ _

theorem mem_of_left {path : String} {content : Bytes} (found : left additions path = some content) :
    (path, content) ∈ additions := by
  obtain ⟨entry, first, rfl⟩ := Option.map_eq_some_iff.mp found
  have named := List.find?_some first
  obtain rfl : entry.1 = path := eq_of_beq named
  exact List.mem_reverse.mp (List.mem_of_find?_eq_some first)

theorem framed_entries (framed : ∀ entry ∈ additions, Framed entry) :
    ∀ entry ∈ (addAll additions).entries.toList, Framed entry := by
  intro entry member
  have found : (addAll additions).entries.get? entry.1 = some entry.2 := KeyMap.mem_toList_iff.mp member
  rw [get?_addAll] at found
  exact framed entry (mem_of_left found)

/-- Two sequences of additions give the same bytes to be hashed exactly if they leave the same
contents at the same paths. So neither their order nor what was replaced counts for the digest,
and only bytes on which the hash function collides give other contents the same digest. -/
theorem stream_eq_iff (additions others : List (String × Bytes)) (framed : ∀ entry ∈ additions, Framed entry)
    (othersFramed : ∀ entry ∈ others, Framed entry) :
    ((addAll additions).stream = (addAll others).stream ↔ ∀ path, left additions path = left others path) ∧
      ((∀ path, left additions path = left others path) →
        (addAll additions).digest = (addAll others).digest) ∧
      ((addAll additions).digest = (addAll others).digest →
        (∃ path, left additions path ≠ left others path) →
          (addAll additions).stream ≠ (addAll others).stream ∧
            Sha256.digest (addAll additions).stream = Sha256.digest (addAll others).stream) := by
  have streams : (addAll additions).stream = (addAll others).stream ↔
      ∀ path, left additions path = left others path := by
    constructor
    · intro same path
      have entries := frame_delimiting.eq_of_flatMap (framed_entries framed) (framed_entries othersFramed) same
      rw [← get?_addAll, ← get?_addAll, KeyMap.get?, KeyMap.get?, entries]
    · intro same
      have entries : (addAll additions).entries = (addAll others).entries :=
        KeyMap.ext_get? fun path => by rw [get?_addAll, get?_addAll, same path]
      rw [stream, stream, entries]
  refine ⟨streams, fun same => ?_, fun digests differ => ?_⟩
  · rw [digest, digest, streams.mpr same]
  · obtain ⟨path, differ⟩ := differ
    exact ⟨fun same => differ (streams.mp same path), Sha256.digest_eq_of_hexDigest digests⟩

/-- An entry that is replaced, and a content that reads like the frame of another entry. -/
def replacedScript : List (String × Bytes) :=
  [("run.sh", [0x61]), ("a", [0, 0, 0x62, 0]), ("run.sh", [])]

def emptyScript : List (String × Bytes) := [("a", [0, 0, 0x62, 0]), ("run.sh", [])]

theorem stream_eq_iff_replaced : (∀ entry ∈ replacedScript, Framed entry) ∧
    (∀ entry ∈ emptyScript, Framed entry) ∧
    (addAll replacedScript).digest = (addAll emptyScript).digest ∧
    (addAll replacedScript).stream ≠ (addAll [("a", [0, 0, 0x62])]).stream := by
  have framed : ∀ entry ∈ replacedScript, Framed entry := by
    intro entry member
    simp only [replacedScript, List.mem_cons, List.not_mem_nil, or_false] at member
    rcases member with rfl | rfl | rfl <;> exact ⟨by decide, by decide⟩
  have emptyFramed : ∀ entry ∈ emptyScript, Framed entry := fun entry member =>
    framed entry (List.mem_cons_of_mem _ member)
  have same (path : String) : left replacedScript path = left emptyScript path := by
    have replaced : replacedScript =
        [] ++ [("run.sh", [0x61])] ++ [("a", [0, 0, 0x62, 0])] ++ [("run.sh", [])] := rfl
    have plain : emptyScript = [] ++ [("a", [0, 0, 0x62, 0])] ++ [("run.sh", [])] := rfl
    rw [replaced, plain]
    simp only [left_append]
    by_cases script : "run.sh" = path
    · rw [if_pos script, if_pos script]
    · rw [if_neg script, if_neg script, if_neg script]
  obtain ⟨-, digests, -⟩ := stream_eq_iff replacedScript emptyScript framed emptyFramed
  refine ⟨framed, emptyFramed, digests same, fun streams => ?_⟩
  have single : ∀ entry ∈ [("a", [0, 0, 0x62])], Framed entry := by
    intro entry member
    rw [List.mem_singleton.mp member]
    exact ⟨by decide, by decide⟩
  have paths := (stream_eq_iff replacedScript _ framed single).1.mp streams "run.sh"
  simp [left, replacedScript] at paths

end ContextHasher

end TaskPlan
