import BayesLex.Text.Quoted
import BayesLex.Proofs.Text.Numerals
import BayesLex.Proofs.Text.Stretches

/-!
# Reading quoted text

`unescape?` reads a character back from what stands for it between quotation
marks, whatever follows (`unescape?_escape`).  So a quoted text tells where it
ends, and what it quotes (`text_append_inj`).

Every character of a quoted text is one that is shown as it is
(`isShown_of_mem_text`), so it holds no control character and stays on one line.
-/

namespace BayesLex.Quoted

/-- The character for which the beginning of a text stands, and what follows. -/
def unescape? : Text → Option (Char × Text)
  | [] => none
  | '\\' :: '0' :: rest => some ('\x00', rest)
  | '\\' :: 't' :: rest => some ('\t', rest)
  | '\\' :: 'r' :: rest => some ('\r', rest)
  | '\\' :: 'n' :: rest => some ('\n', rest)
  | '\\' :: 'u' :: '{' :: rest =>
      let digits := rest.takeWhile (fun character => character != '}')
      some (Char.ofNat (Text.hexValue digits), rest.drop (digits.length + 1))
  | '\\' :: character :: rest => some (character, rest)
  | character :: rest => some (character, rest)

/-- The characters that a backslash and a name stand for. -/
def named : Text :=
  ['\x00', '\t', '\r', '\n', '\\', '"']

theorem escape_of_not_mem {character : Char} (plain : character ∉ named) :
    escape '"' character =
      if isShown character then [character] else byNumber character := by
  simp only [named, List.mem_cons, List.not_mem_nil, or_false, not_or] at plain
  rcases plain with ⟨noNul, noTab, noReturn, noNewline, noBackslash, noMark⟩
  rw [escape, if_neg noNul, if_neg noTab, if_neg noReturn, if_neg noNewline,
    if_neg noBackslash, if_neg noMark]

theorem isShown_of_mem_toDigits {base number : Nat} (large : 1 < base)
    (small : base ≤ 16) {digit : Char} (member : digit ∈ Nat.toDigits base number) :
    isShown digit = true := by
  have shown : ∀ value < 16, isShown value.digitChar = true := by
    decide
  rcases Text.exists_digit_of_mem_toDigits large member with
    ⟨value, below, rfl⟩
  exact shown value (Nat.lt_of_lt_of_le below small)

theorem isShown_of_mem_byNumber {character letter : Char}
    (member : letter ∈ byNumber character) : isShown letter = true := by
  have marks : ∀ letter ∈ ['\\', 'u', '{', '}'], isShown letter = true :=
    List.all_eq_true.1 (by decide)
  rw [byNumber, List.mem_append, List.mem_append] at member
  rcases member with (before | digit) | behind
  · exact marks letter (List.mem_append_left ['}'] before)
  · exact isShown_of_mem_toDigits (by decide) (by decide) digit
  · exact marks letter (List.mem_append_right ['\\', 'u', '{'] behind)

theorem unescape?_of_ne {character : Char} (other : character ≠ '\\')
    (rest : Text) : unescape? (character :: rest) = some (character, rest) := by
  simp [unescape?, other]

theorem unescape?_byNumber (character : Char) (rest : Text) :
    unescape? (byNumber character ++ rest) = some (character, rest) := by
  have digits : ((Nat.toDigits 16 character.toNat ++ '}' :: rest).takeWhile
      fun character => character != '}') = Nat.toDigits 16 character.toNat := by
    apply Text.takeWhile_append_of_stop
    · intro digit member
      rw [bne_iff_ne]
      rintro rfl
      exact Text.not_mem_toDigits_sixteen (by decide) _ member
    · rfl
  have shape : byNumber character ++ rest = '\\' :: 'u' :: '{' ::
      (Nat.toDigits 16 character.toNat ++ '}' :: rest) := by
    simp [byNumber]
  rw [shape, unescape?]
  simp [digits, Text.hexValue_toDigits]

/-- A character is read back from what stands for it. -/
theorem unescape?_escape (character : Char) (rest : Text) :
    unescape? (escape '"' character ++ rest) = some (character, rest) := by
  by_cases special : character ∈ named
  · have read : ∀ character ∈ named,
        unescape? (escape '"' character ++ rest) = some (character, rest) := by
      simp [named, escape, unescape?]
    exact read character special
  · have noBackslash : character ≠ '\\' := by
      rintro rfl
      exact special (by decide)
    rw [escape_of_not_mem special]
    split
    · exact unescape?_of_ne noBackslash rest
    · exact unescape?_byNumber character rest

/-- What stands for a character tells the character and where it ends. -/
theorem escape_append_inj {left right : Char} {more rest : Text}
    (same : escape '"' left ++ more = escape '"' right ++ rest) :
    left = right ∧ more = rest := by
  have read := congrArg unescape? same
  rw [unescape?_escape, unescape?_escape] at read
  simpa using read

/-- No character is written with a mark at its beginning. -/
theorem escape_append_ne (character : Char) (more rest : Text) :
    escape '"' character ++ more ≠ '"' :: rest := by
  by_cases special : character ∈ named
  · have slash : ∀ character ∈ named,
        escape '"' character ++ more ≠ '"' :: rest := by
      simp [named, escape]
    exact slash character special
  · have noMark : character ≠ '"' := by
      rintro rfl
      exact special (by decide)
    rw [escape_of_not_mem special]
    split
    · simp [noMark]
    · simp [byNumber]

theorem isShown_of_mem_escape {character letter : Char}
    (member : letter ∈ escape '"' character) : isShown letter = true := by
  by_cases special : character ∈ named
  · have shown : (named.flatMap (escape '"')).all isShown = true := by decide
    exact List.all_eq_true.1 shown letter
      (List.mem_flatMap.2 ⟨character, special, member⟩)
  · rw [escape_of_not_mem special] at member
    split at member
    · rename_i shown
      rwa [List.mem_singleton.1 member]
    · exact isShown_of_mem_byNumber member

/-- A quoted text tells what it quotes and where it ends. -/
theorem text_append_inj {left right more rest : Text}
    (same : text left ++ more = text right ++ rest) :
    left = right ∧ more = rest := by
  have behind : left.flatMap (escape '"') ++ '"' :: more =
      right.flatMap (escape '"') ++ '"' :: rest := by
    simpa [text] using same
  rcases Text.flatMap_append_inj escape_append_inj
    (fun character _ => escape_append_ne character _ _)
    (fun character _ => escape_append_ne character _ _) behind with
    ⟨content, rests⟩
  exact ⟨content, List.tail_eq_of_cons_eq rests⟩

/-- Whatever it quotes, a quoted text holds nothing but characters shown. -/
theorem isShown_of_mem_text {content : Text} {letter : Char}
    (member : letter ∈ text content) : isShown letter = true := by
  have mark : isShown '"' = true := by decide
  rw [text, List.mem_append, List.mem_cons, List.mem_singleton] at member
  rcases member with (rfl | inside) | rfl
  · exact mark
  · rcases List.mem_flatMap.1 inside with ⟨character, _, written⟩
    exact isShown_of_mem_escape written
  · exact mark

/-- A quoted text stays on one line. -/
theorem newline_not_mem_text (content : Text) : '\n' ∉ text content :=
  fun member => absurd (isShown_of_mem_text member) (by decide)

end BayesLex.Quoted
