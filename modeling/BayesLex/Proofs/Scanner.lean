import BayesLex.Proofs.Text.Stretches
import BayesLex.Scanner

/-!
# Where scanners stop

A scanner that recognises its token takes at least the characters that begin
it.  It looks no farther than to the end of the token: a text that is cut off
there or behind begins with the same token.  A token that ends before its text
does is the same, whatever is added to the text.

What a string literal encloses is told by `Enclosed`.  Every text begins with
something enclosed, up to a character that ends the literal.
-/

namespace BayesLex.Scanner

theorem le_stringEnd (count : Nat) (text : Text) :
    count ≤ stringEnd count text := by
  fun_induction stringEnd count text with
  | case1 | case5 => exact Nat.le_refl _
  | case2 | case4 => exact Nat.le_succ _
  | case3 count _ rest hypothesis =>
      exact Nat.le_trans (Nat.le_add_right count 2) hypothesis
  | case6 count _ rest _ _ _ _ hypothesis =>
      exact Nat.le_trans (Nat.le_succ count) hypothesis

theorem le_lineEnd (count : Nat) (text : Text) :
    count ≤ lineEnd count text := by
  fun_induction lineEnd count text with
  | case1 => exact Nat.le_refl _
  | case2 => exact Nat.le_succ _
  | case3 count _ rest _ hypothesis =>
      exact Nat.le_trans (Nat.le_succ count) hypothesis

theorem le_blockEnd (count : Nat) (text : Text) :
    count ≤ blockEnd count text := by
  fun_induction blockEnd count text with
  | case1 => exact Nat.le_refl _
  | case2 => exact Nat.le_add_right _ _
  | case3 count _ rest _ hypothesis =>
      exact Nat.le_trans (Nat.le_succ count) hypothesis

theorem count_string_pos (rest : Text) : 0 < string.count ('"' :: rest) :=
  le_stringEnd 1 rest

theorem two_le_count_lineComment {text : Text} (opens : ['/', '/'] <+: text) :
    2 ≤ lineComment.count text := by
  rcases opens with ⟨rest, rfl⟩
  exact le_lineEnd 2 rest

theorem two_le_count_blockComment {text : Text}
    (opens : ['/', '*'] <+: text) : 2 ≤ blockComment.count text := by
  rcases opens with ⟨rest, rfl⟩
  exact le_blockEnd 2 rest

theorem prefix_scan {scanner : Scanner} {opener text : Text}
    (opens : opener <+: text) (long : opener.length ≤ scanner.count text) :
    opener <+: scanner.scan text :=
  List.prefix_take_iff.2 ⟨opens, long⟩

theorem count_string_of_ne {character : Char} (other : character ≠ '"')
    (rest : Text) : string.count (character :: rest) = 0 := by
  rw [count]
  · exact nofun
  · rintro _ _ ⟨rfl, rfl⟩
    exact other rfl
  · exact nofun
  · exact nofun

theorem scan_string_of_ne {character : Char} (other : character ≠ '"')
    (rest : Text) : string.scan (character :: rest) = [] := by
  rw [scan, count_string_of_ne other, List.take_zero]

theorem count_lineComment_of_not {text : Text}
    (other : ¬ ['/', '/'] <+: text) : lineComment.count text = 0 := by
  rw [count]
  · exact nofun
  · exact nofun
  · rintro rest _ rfl
    exact other (List.prefix_append ['/', '/'] rest)
  · exact nofun

theorem scan_lineComment_of_not {text : Text}
    (other : ¬ ['/', '/'] <+: text) : lineComment.scan text = [] := by
  rw [scan, count_lineComment_of_not other, List.take_zero]

theorem scan_blockComment_of_not {text : Text}
    (other : ¬ ['/', '*'] <+: text) : blockComment.scan text = [] := by
  have nothing : blockComment.count text = 0 := by
    rw [count]
    · exact nofun
    · exact nofun
    · exact nofun
    · rintro rest _ rfl
      exact other (List.prefix_append ['/', '*'] rest)
  rw [scan, nothing, List.take_zero]

theorem scan_whitespace (text : Text) :
    whitespace.scan text = text.takeWhile isBlank := by
  rw [scan, count]
  exact (List.prefix_iff_eq_take.1 (List.takeWhile_prefix isBlank)).symm

theorem scan_ne_nil {scanner : Scanner} {text : Text} (solid : text ≠ [])
    (begins : 0 < scanner.count text) : scanner.scan text ≠ [] := by
  rw [scan, ← List.length_pos_iff, List.length_take]
  exact Nat.lt_min.2 ⟨begins, List.length_pos_iff.2 solid⟩

/-- Where no other case of a string literal applies, a character is plain. -/
theorem plain_of_otherwise {character : Char} {rest : Text}
    (lone : character = '\\' → rest = [] → False)
    (escape : ∀ next others, character = '\\' → rest = next :: others → False)
    (quote : character ≠ '"') (newline : character ≠ '\n') :
    character ∉ ['\\', '"', '\n'] := by
  have plain : character ≠ '\\' := by
    intro same
    cases rest with
    | nil => exact lone same rfl
    | cons next others => exact escape next others same rfl
  simp [plain, quote, newline]

theorem stringEnd_plain {character : Char}
    (free : character ∉ ['\\', '"', '\n']) (count : Nat) (rest : Text) :
    stringEnd count (character :: rest) = stringEnd (count + 1) rest := by
  simp only [List.mem_cons, List.not_mem_nil, or_false, not_or] at free
  rcases free with ⟨plain, quote, newline⟩
  rw [stringEnd]
  · exact fun same _ => plain same
  · exact fun _ _ same _ => plain same
  · exact quote
  · exact newline

/-- Where something follows its token, a scanner counts the token. -/
theorem count_of_scan_append {scanner : Scanner} {text behind : Text}
    (found : scanner.scan (text ++ behind) = text) (solid : behind ≠ []) :
    scanner.count (text ++ behind) = text.length := by
  have long := List.length_pos_iff.2 solid
  have cut := congrArg List.length found
  rw [scan, List.length_take, List.length_append] at cut
  omega

/-- A string literal ends where it ends, whatever is cut off behind it. -/
theorem stringEnd_take (count : Nat) (text : Text) (length : Nat)
    (inside : stringEnd count text ≤ count + length) :
    stringEnd count (text.take length) = stringEnd count text := by
  fun_induction stringEnd count text generalizing length with
  | case1 => rw [List.take_nil, stringEnd]
  | case2 count =>
      cases length with
      | zero => omega
      | succ length => rw [List.take_succ_cons, List.take_nil, stringEnd]
  | case3 count escaped rest hypothesis =>
      have farther := le_stringEnd (count + 2) rest
      match length, inside with
      | 0, inside => omega
      | 1, inside => omega
      | length + 2, inside =>
          rw [List.take_succ_cons, List.take_succ_cons, stringEnd]
          exact hypothesis length (by omega)
  | case4 count rest =>
      cases length with
      | zero => omega
      | succ length => rw [List.take_succ_cons, stringEnd]
  | case5 count rest =>
      cases length with
      | zero => rw [List.take_zero, stringEnd]
      | succ length => rw [List.take_succ_cons, stringEnd]
  | case6 count character rest lone escape quote newline hypothesis =>
      have plain := plain_of_otherwise lone escape quote newline
      have farther := le_stringEnd (count + 1) rest
      cases length with
      | zero => omega
      | succ length =>
          rw [List.take_succ_cons, stringEnd_plain plain]
          exact hypothesis length (by omega)

theorem lineEnd_take (count : Nat) (text : Text) (length : Nat)
    (inside : lineEnd count text ≤ count + length) :
    lineEnd count (text.take length) = lineEnd count text := by
  fun_induction lineEnd count text generalizing length with
  | case1 => rw [List.take_nil, lineEnd]
  | case2 count rest =>
      cases length with
      | zero => omega
      | succ length => rw [List.take_succ_cons, lineEnd]
  | case3 count character rest newline hypothesis =>
      have farther := le_lineEnd (count + 1) rest
      cases length with
      | zero => omega
      | succ length =>
          rw [List.take_succ_cons, lineEnd]
          · exact hypothesis length (by omega)
          · exact newline

theorem blockEnd_take (count : Nat) (text : Text) (length : Nat)
    (inside : blockEnd count text ≤ count + length) :
    blockEnd count (text.take length) = blockEnd count text := by
  fun_induction blockEnd count text generalizing length with
  | case1 => rw [List.take_nil, blockEnd]
  | case2 count rest =>
      match length, inside with
      | 0, inside => omega
      | 1, inside => omega
      | length + 2, inside =>
          rw [List.take_succ_cons, List.take_succ_cons, blockEnd]
  | case3 count character rest closes hypothesis =>
      have farther := le_blockEnd (count + 1) rest
      cases length with
      | zero => omega
      | succ length =>
          rw [List.take_succ_cons, blockEnd]
          · exact hypothesis length (by omega)
          · intro tail star slash
            have cut : ['/'] <+: rest := by
              have begins := List.take_prefix length rest
              rw [slash] at begins
              exact List.IsPrefix.trans (List.prefix_append ['/'] tail) begins
            rcases cut with ⟨others, rfl⟩
            exact closes others star rfl

/-- A scanner that recognises its token looks no farther than to its end. -/
theorem count_take {scanner : Scanner} {text : Text} {length : Nat}
    (begins : 0 < scanner.count text) (inside : scanner.count text ≤ length) :
    scanner.count (text.take length) = scanner.count text := by
  fun_cases Scanner.count scanner text with
  | case1 rest =>
      have farther := le_stringEnd 1 rest
      simp only [count] at inside
      match length, inside with
      | 0, inside => omega
      | length + 1, inside =>
          exact stringEnd_take 1 rest length (by omega)
  | case2 rest =>
      have farther := le_lineEnd 2 rest
      simp only [count] at inside
      match length, inside with
      | 0, inside | 1, inside => omega
      | length + 2, inside =>
          exact lineEnd_take 2 rest length (by omega)
  | case3 rest =>
      have farther := le_blockEnd 2 rest
      simp only [count] at inside
      match length, inside with
      | 0, inside | 1, inside => omega
      | length + 2, inside =>
          exact blockEnd_take 2 rest length (by omega)
  | case4 => exact congrArg List.length (Text.takeWhile_take inside)
  | case5 scanner text string line block blank =>
      rw [count] at begins
      · cases begins
      · exact blank
      · exact string
      · exact line
      · exact block

theorem scan_take {scanner : Scanner} {text : Text} {length : Nat}
    (begins : 0 < scanner.count text)
    (inside : (scanner.scan text).length ≤ length) :
    scanner.scan (text.take length) = scanner.scan text := by
  by_cases shorter : text.length ≤ length
  · rw [List.take_of_length_le shorter]
  · have fits : scanner.count text ≤ length := by
      rw [scan, List.length_take] at inside
      omega
    rw [scan, scan, count_take begins fits, List.take_take,
      Nat.min_eq_left fits]

/-- What may stand between the quotation marks of a string literal. -/
inductive Enclosed : Text → Prop
  | nil : Enclosed []
  | escape (escaped : Char) {rest : Text} :
      Enclosed rest → Enclosed ('\\' :: escaped :: rest)
  | plain {character : Char} {rest : Text}
      (free : character ∉ ['\\', '"', '\n']) :
      Enclosed rest → Enclosed (character :: rest)

/-- A string literal goes on behind everything that is enclosed. -/
theorem stringEnd_enclosed {body : Text} (enclosed : Enclosed body)
    (count : Nat) (rest : Text) :
    stringEnd count (body ++ rest) = stringEnd (count + body.length) rest := by
  induction enclosed generalizing count with
  | nil => rfl
  | escape escaped _ hypothesis =>
      rw [List.cons_append, List.cons_append, stringEnd, hypothesis,
        List.length_cons, List.length_cons]
      congr 1
      omega
  | plain free _ hypothesis =>
      rw [List.cons_append, stringEnd_plain free, hypothesis,
        List.length_cons]
      congr 1
      omega

/--
A text begins with something enclosed.  What follows is the end of the text,
with or without a backslash that escapes nothing, or the character at which the
literal ends.
-/
theorem exists_enclosed (text : Text) :
    ∃ body rest, Enclosed body ∧ text = body ++ rest ∧
      (rest = [] ∨ rest = ['\\'] ∨
        ∃ more, rest = '"' :: more ∨ rest = '\n' :: more) := by
  -- the count does not matter, the recursion is the one of the scanner
  fun_induction stringEnd 0 text with
  | case1 => exact ⟨[], [], .nil, rfl, .inl rfl⟩
  | case2 => exact ⟨[], _, .nil, rfl, .inr (.inl rfl)⟩
  | case3 _ escaped rest hypothesis =>
      rcases hypothesis with ⟨body, behind, enclosed, rfl, stop⟩
      exact ⟨_, behind, enclosed.escape escaped, rfl, stop⟩
  | case4 _ rest =>
      exact ⟨[], _, .nil, rfl, .inr (.inr ⟨rest, .inl rfl⟩)⟩
  | case5 _ rest =>
      exact ⟨[], _, .nil, rfl, .inr (.inr ⟨rest, .inr rfl⟩)⟩
  | case6 _ character rest lone escape quote newline hypothesis =>
      rcases hypothesis with ⟨body, behind, enclosed, rfl, stop⟩
      have plain := plain_of_otherwise lone escape quote newline
      exact ⟨_, behind, enclosed.plain plain, rfl, stop⟩

/-- A string literal that ends before its text does ends there in any text. -/
theorem stringEnd_append (count : Nat) {text : Text}
    (inside : stringEnd count text < count + text.length) (more : Text) :
    stringEnd count (text ++ more) = stringEnd count text := by
  rcases exists_enclosed text with
    ⟨body, rest, enclosed, rfl, rfl | rfl | ⟨others, rfl | rfl⟩⟩
  · rw [stringEnd_enclosed enclosed, stringEnd, List.append_nil] at inside
    exact absurd inside (Nat.lt_irrefl _)
  · rw [stringEnd_enclosed enclosed, stringEnd, List.length_append,
      List.length_singleton, Nat.add_assoc] at inside
    exact absurd inside (Nat.lt_irrefl _)
  · rw [List.append_assoc, stringEnd_enclosed enclosed,
      stringEnd_enclosed enclosed, List.cons_append, stringEnd, stringEnd]
  · rw [List.append_assoc, stringEnd_enclosed enclosed,
      stringEnd_enclosed enclosed, List.cons_append, stringEnd, stringEnd]

theorem lineEnd_append (count : Nat) {text : Text}
    (inside : lineEnd count text < count + text.length) (more : Text) :
    lineEnd count (text ++ more) = lineEnd count text := by
  fun_induction lineEnd count text with
  | case1 => exact absurd inside (Nat.lt_irrefl _)
  | case2 => rw [List.cons_append, lineEnd]
  | case3 count character rest newline hypothesis =>
      rw [List.length_cons] at inside
      rw [List.cons_append, lineEnd]
      · exact hypothesis (by omega)
      · exact newline

theorem blockEnd_append (count : Nat) {text : Text}
    (inside : blockEnd count text < count + text.length) (more : Text) :
    blockEnd count (text ++ more) = blockEnd count text := by
  fun_induction blockEnd count text with
  | case1 => exact absurd inside (Nat.lt_irrefl _)
  | case2 => rw [List.cons_append, List.cons_append, blockEnd]
  | case3 count character rest closes hypothesis =>
      rw [List.length_cons] at inside
      rw [List.cons_append, blockEnd]
      · exact hypothesis (by omega)
      · intro tail star slash
        cases rest with
        | nil =>
            rw [blockEnd, List.length_nil] at inside
            omega
        | cons next rest =>
            rcases List.cons.inj slash with ⟨rfl, _⟩
            exact closes rest star rfl

/-- A token that ends before its text does is the same, whatever is added. -/
theorem count_append {scanner : Scanner} {text : Text}
    (begins : 0 < scanner.count text)
    (inside : scanner.count text < text.length) (more : Text) :
    scanner.count (text ++ more) = scanner.count text := by
  fun_cases Scanner.count scanner text with
  | case1 rest =>
      simp only [count, List.length_cons] at inside
      exact stringEnd_append 1 (by omega) more
  | case2 rest =>
      simp only [count, List.length_cons] at inside
      exact lineEnd_append 2 (by omega) more
  | case3 rest =>
      simp only [count, List.length_cons] at inside
      exact blockEnd_append 2 (by omega) more
  | case4 text =>
      simp only [count] at inside ⊢
      rw [List.takeWhile_append, if_neg (Nat.ne_of_lt inside)]
  | case5 scanner text string line block blank =>
      rw [count] at begins
      · cases begins
      · exact blank
      · exact string
      · exact line
      · exact block

/--
A string literal that does not run over a place behind which something follows
does not run over it either when a new line begins there.
-/
theorem stringEnd_newline (count : Nat) {text behind : Text}
    (solid : behind ≠ [])
    (inside : stringEnd count (text ++ behind) ≤ count + text.length)
    (more : Text) :
    stringEnd count (text ++ '\n' :: more) ≤ count + text.length := by
  rcases exists_enclosed text with
    ⟨body, rest, enclosed, rfl, rfl | rfl | ⟨others, rfl | rfl⟩⟩
  · apply Nat.le_of_eq
    rw [List.append_nil, stringEnd_enclosed enclosed, stringEnd]
  · -- the backslash would escape the first character that follows
    cases behind with
    | nil => exact absurd rfl solid
    | cons next behind =>
        have farther := le_stringEnd (count + body.length + 2) behind
        rw [List.append_assoc, stringEnd_enclosed enclosed,
          List.singleton_append, stringEnd, List.length_append,
          List.length_singleton] at inside
        omega
  · rw [List.append_assoc, stringEnd_enclosed enclosed, List.cons_append,
      stringEnd, List.length_append, List.length_cons]
    omega
  · rw [List.append_assoc, stringEnd_enclosed enclosed, List.cons_append,
      stringEnd, List.length_append]
    omega

theorem count_string_newline {body behind : Text}
    (found : string.scan ('"' :: body ++ behind) = '"' :: body)
    (solid : behind ≠ []) (more : Text) :
    string.count ('"' :: body ++ '\n' :: more) ≤ ('"' :: body).length := by
  have counted : stringEnd 1 (body ++ behind) = body.length + 1 :=
    count_of_scan_append found solid
  have inside : stringEnd 1 (body ++ behind) ≤ 1 + body.length := by omega
  have stops := stringEnd_newline 1 solid inside more
  rw [Nat.add_comm] at stops
  exact stops

theorem stringEnd_closed {body : Text} (enclosed : Enclosed body)
    (count : Nat) (more : Text) :
    stringEnd count (body ++ '"' :: more) = count + body.length + 1 := by
  rw [stringEnd_enclosed enclosed, stringEnd]

theorem lineEnd_le_of_newline (count : Nat) (body more : Text) :
    lineEnd count (body ++ '\n' :: more) ≤ count + body.length + 1 := by
  induction body generalizing count with
  | nil =>
      rw [List.nil_append, lineEnd]
      exact Nat.le_refl _
  | cons character body hypothesis =>
      by_cases newline : character = '\n'
      · subst newline
        rw [List.cons_append, lineEnd, List.length_cons]
        omega
      · have behind := hypothesis (count + 1)
        rw [List.cons_append, lineEnd, List.length_cons]
        · omega
        · exact newline

theorem blockEnd_le_of_closer (count : Nat) (body more : Text) :
    blockEnd count (body ++ '*' :: '/' :: more) ≤
      count + body.length + 2 := by
  induction body generalizing count with
  | nil =>
      rw [List.nil_append, blockEnd]
      exact Nat.le_refl _
  | cons character body hypothesis =>
      have behind := hypothesis (count + 1)
      rw [List.cons_append]
      unfold blockEnd
      split
      · omega
      · rw [List.length_cons]
        omega
      · rename_i same
        rcases List.cons.inj same with ⟨rfl, rfl⟩
        rw [List.length_cons]
        omega

theorem count_string_closed {body : Text} (enclosed : Enclosed body)
    (more : Text) :
    string.count ('"' :: body ++ ['"'] ++ more) =
      ('"' :: body ++ ['"']).length := by
  have closed := stringEnd_closed enclosed 1 more
  simp only [List.cons_append, List.append_assoc, List.nil_append, count,
    closed, List.length_cons, List.length_append, List.length_nil]
  omega

theorem count_lineComment_le (line more : Text) :
    lineComment.count (line ++ '\n' :: more) ≤ line.length + 1 := by
  by_cases opens : ['/', '/'] <+: line ++ '\n' :: more
  · rcases Text.prefix_of_not_mem opens (by decide) with ⟨body, rfl⟩
    have closed := lineEnd_le_of_newline 2 body more
    simp only [List.cons_append, List.nil_append, count, List.length_cons]
    omega
  · rw [count_lineComment_of_not opens]
    exact Nat.zero_le _

theorem count_blockComment_le (body more : Text) :
    blockComment.count ('/' :: '*' :: body ++ ['*', '/'] ++ more) ≤
      ('/' :: '*' :: body ++ ['*', '/']).length := by
  have closed := blockEnd_le_of_closer 2 body more
  simp only [List.cons_append, List.append_assoc, List.nil_append, count,
    List.length_cons, List.length_append, List.length_nil]
  omega

theorem count_whitespace_le {separator : Char}
    (solid : isBlank separator = false) (text more : Text) :
    whitespace.count (text ++ separator :: more) ≤ text.length := by
  have missing : separator ∉
      (text ++ separator :: more).takeWhile isBlank := by
    intro member
    have blank := Text.sort_of_mem_takeWhile member
    rw [solid] at blank
    cases blank
  exact (Text.prefix_of_not_mem (List.takeWhile_prefix isBlank)
    missing).length_le

end BayesLex.Scanner
