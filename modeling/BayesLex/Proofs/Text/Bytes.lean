import BayesLex.Proofs.Text.Slices

/-!
# The bytes of a text

Offsets into a text count the bytes of its encoding.  A byte below 128 is a
character of its own and no part of another one.  So a word of such characters is
found in the bytes of a text only where it stands in the text, between two
characters (`prefix_drop_bytes_iff`).
-/

namespace BayesLex.Text

/-- The bytes of a text in UTF-8. -/
def bytes (text : Text) : List UInt8 :=
  text.flatMap String.utf8EncodeChar

@[simp]
theorem bytes_cons (character : Char) (rest : Text) :
    bytes (character :: rest) = String.utf8EncodeChar character ++ bytes rest :=
  List.flatMap_cons

@[simp]
theorem bytes_append (left right : Text) :
    bytes (left ++ right) = bytes left ++ bytes right :=
  List.flatMap_append

theorem length_bytes (text : Text) : (bytes text).length = size text := by
  induction text with
  | nil => rfl
  | cons character rest hypothesis =>
      rw [bytes_cons, List.length_append, String.length_utf8EncodeChar,
        hypothesis, size_cons]

/-- Every character is encoded in a single byte. -/
def IsAscii (text : Text) : Prop :=
  ∀ character ∈ text, character.toNat < 128

theorem utf8EncodeChar_of_lt {character : Char} (single : character.toNat < 128) :
    String.utf8EncodeChar character = [UInt8.ofNat character.toNat] := by
  rw [String.utf8EncodeChar]
  exact if_pos (Nat.le_of_lt_succ single)

theorem toNat_ofNat_of_lt {character : Char} (single : character.toNat < 128) :
    (UInt8.ofNat character.toNat).toNat = character.toNat :=
  UInt8.toNat_ofNat_of_lt' (Nat.lt_trans single (by decide))

/-- A byte below 128 is no part of the encoding of another character. -/
theorem lt_of_mem_utf8EncodeChar {character : Char} {byte : UInt8}
    (member : byte ∈ String.utf8EncodeChar character) (small : byte.toNat < 128) :
    character.toNat < 128 := by
  apply Nat.lt_of_not_le
  intro many
  have large : ¬ character.val.toNat ≤ 127 := Nat.not_le.2 many
  simp only [String.utf8EncodeChar, if_neg large] at member
  -- 128 or more is added to each byte of a longer encoding
  split at member
  · simp only [List.mem_cons, List.not_mem_nil, or_false] at member
    rcases member with rfl | rfl <;> simp at small <;> omega
  · split at member
    · simp only [List.mem_cons, List.not_mem_nil, or_false] at member
      rcases member with rfl | rfl | rfl <;> simp at small <;> omega
    · simp only [List.mem_cons, List.not_mem_nil, or_false] at member
      rcases member with rfl | rfl | rfl | rfl <;> simp at small <;> omega

/-- A byte below 128 lies at a place of the text. -/
theorem isPlace_of_getElem?_bytes {text : Text} {offset : Nat} {byte : UInt8}
    (found : (bytes text)[offset]? = some byte) (small : byte.toNat < 128) :
    IsPlace offset text := by
  induction text generalizing offset with
  | nil => cases found
  | cons character rest hypothesis =>
      rw [bytes_cons] at found
      by_cases inside : offset < (String.utf8EncodeChar character).length
      · rw [List.getElem?_append_left inside] at found
        have single := lt_of_mem_utf8EncodeChar (List.mem_of_getElem? found) small
        rw [utf8EncodeChar_of_lt single, List.length_singleton,
          Nat.lt_one_iff] at inside
        exact ⟨[], character :: rest, rfl, inside.symm⟩
      · rw [Nat.not_lt] at inside
        rw [List.getElem?_append_right inside] at found
        rcases hypothesis found with ⟨left, right, rfl, sized⟩
        rw [String.length_utf8EncodeChar] at inside sized
        refine ⟨character :: left, right, rfl, ?_⟩
        rw [size_cons]
        omega

/-- A character of one byte is told by that byte. -/
theorem eq_of_cons_prefix_bytes {character other : Char} {word : List UInt8}
    {rest : Text} (single : character.toNat < 128)
    (begins : UInt8.ofNat character.toNat :: word <+: bytes (other :: rest)) :
    character = other ∧ word <+: bytes rest := by
  have code := toNat_ofNat_of_lt single
  have member : UInt8.ofNat character.toNat ∈ String.utf8EncodeChar other := by
    rw [bytes_cons] at begins
    cases encoded : String.utf8EncodeChar other with
    | nil => exact absurd encoded String.utf8EncodeChar_ne_nil
    | cons first others =>
        rw [encoded, List.cons_append, List.cons_prefix_cons] at begins
        exact begins.1 ▸ List.mem_cons_self
  have singleToo := lt_of_mem_utf8EncodeChar member (by rwa [code])
  rw [bytes_cons, utf8EncodeChar_of_lt singleToo, List.singleton_append,
    List.cons_prefix_cons] at begins
  have codeToo := toNat_ofNat_of_lt singleToo
  rw [← begins.1, code] at codeToo
  exact ⟨Char.toNat_inj.1 codeToo, begins.2⟩

/-- A word whose bytes begin those of a text begins the text. -/
theorem prefix_of_prefix_bytes {word text : Text} (ascii : IsAscii word)
    (begins : bytes word <+: bytes text) : word <+: text := by
  induction word generalizing text with
  | nil => exact List.nil_prefix
  | cons character word hypothesis =>
      rcases List.forall_mem_cons.1 ascii with ⟨single, asciiToo⟩
      rw [bytes_cons, utf8EncodeChar_of_lt single] at begins
      cases text with
      | nil => cases List.prefix_nil.1 begins
      | cons other text =>
          rcases eq_of_cons_prefix_bytes single begins with ⟨rfl, behind⟩
          exact List.cons_prefix_cons.2 ⟨rfl, hypothesis asciiToo behind⟩

/--
The bytes of a word of single bytes stand at an offset of the bytes of a text
exactly if the word stands there in the text.
-/
theorem prefix_drop_bytes_iff {word : Text} (ascii : IsAscii word)
    (solid : word ≠ []) (offset : Nat) (text : Text) :
    bytes word <+: (bytes text).drop offset ↔
      ∃ left right, text = left ++ word ++ right ∧ size left = offset := by
  constructor
  · intro stands
    cases word with
    | nil => exact absurd rfl solid
    | cons character word =>
        have single := (List.forall_mem_cons.1 ascii).1
        have code := toNat_ofNat_of_lt single
        have found : (bytes text)[offset]? =
            some (UInt8.ofNat character.toNat) := by
          rcases stands with ⟨behind, split⟩
          rw [← List.head?_drop, ← split, bytes_cons,
            utf8EncodeChar_of_lt single]
          rfl
        rcases isPlace_of_getElem?_bytes found (by rwa [code]) with
          ⟨left, rest, rfl, rfl⟩
        rw [bytes_append, ← length_bytes, List.drop_left] at stands
        rcases prefix_of_prefix_bytes ascii stands with ⟨right, rfl⟩
        exact ⟨left, right, (List.append_assoc _ _ _).symm, rfl⟩
  · rintro ⟨left, right, rfl, rfl⟩
    rw [List.append_assoc, bytes_append, ← length_bytes, List.drop_left,
      bytes_append]
    exact List.prefix_append _ _

end BayesLex.Text
