import BayesLex.Text.Basic

/-!
# Stretches and entries at the beginning of a text

The longest stretch of characters of one sort at the beginning of a text is
the only one behind which no character of that sort follows.

Of a list of entries the longest one may be taken with which a text starts.
It is the first one where no entry begins a later one.

A word of one sort in front of a stop is read back (`append_inj_of_stop`), and
so are items that each tell where they end (`flatMap_append_inj`).
-/

namespace BayesLex.Text

variable {sort : Char → Bool}

theorem head?_dropWhile (sort : Char → Bool) (text : Text) :
    (text.dropWhile sort).head?.any sort = false := by
  induction text with
  | nil => rfl
  | cons character rest hypothesis =>
      rw [List.dropWhile_cons]
      split
      · exact hypothesis
      · rename_i other
        simpa using other

theorem takeWhile_append_of_stop {word rest : Text}
    (inside : ∀ character ∈ word, sort character = true)
    (stop : rest.head?.any sort = false) :
    (word ++ rest).takeWhile sort = word := by
  rw [List.takeWhile_append_of_pos inside]
  cases rest with
  | nil => simp
  | cons character rest =>
      have other : sort character = false := stop
      simp [other]

theorem dropWhile_append_of_stop {word rest : Text}
    (inside : ∀ character ∈ word, sort character = true)
    (stop : rest.head?.any sort = false) :
    (word ++ rest).dropWhile sort = rest := by
  rw [List.dropWhile_append_of_pos inside]
  cases rest with
  | nil => rfl
  | cons character rest =>
      have other : sort character = false := stop
      simp [other]

/-- Words of one sort in front of a stop tell where they end. -/
theorem append_inj_of_stop {word other rest more : Text}
    (inside : ∀ character ∈ word, sort character = true)
    (insideToo : ∀ character ∈ other, sort character = true)
    (stop : rest.head?.any sort = false) (stopToo : more.head?.any sort = false)
    (same : word ++ rest = other ++ more) : word = other ∧ rest = more := by
  constructor
  · rw [← takeWhile_append_of_stop inside stop, same,
      takeWhile_append_of_stop insideToo stopToo]
  · rw [← dropWhile_append_of_stop inside stop, same,
      dropWhile_append_of_stop insideToo stopToo]

theorem sort_of_mem_takeWhile {text : Text} {character : Char}
    (member : character ∈ text.takeWhile sort) : sort character = true :=
  List.all_eq_true.1 List.all_takeWhile character member

theorem takeWhile_ne_nil {text : Text}
    (begins : text.head?.any sort = true) : text.takeWhile sort ≠ [] := by
  cases text with
  | nil => cases begins
  | cons character rest =>
      have member : sort character = true := begins
      simp [member]

theorem drop_length_takeWhile (sort : Char → Bool) (text : Text) :
    text.drop (text.takeWhile sort).length = text.dropWhile sort := by
  have cut : (text.takeWhile sort ++ text.dropWhile sort).drop
      (text.takeWhile sort).length = text.dropWhile sort := List.drop_left
  rw [List.takeWhile_append_dropWhile] at cut
  exact cut

theorem head?_take_any {text : Text} (stop : text.head?.any sort = false)
    (length : Nat) : (text.take length).head?.any sort = false := by
  cases text with
  | nil => simp
  | cons character rest =>
      cases length with
      | zero => rfl
      | succ length => exact stop

theorem take_stretch {text : Text} {length : Nat}
    (inside : (text.takeWhile sort).length ≤ length) :
    text.take length = text.takeWhile sort ++
      (text.dropWhile sort).take (length - (text.takeWhile sort).length) := by
  have cut : (text.takeWhile sort ++ text.dropWhile sort).take length =
      (text.takeWhile sort).take length ++ (text.dropWhile sort).take
        (length - (text.takeWhile sort).length) := List.take_append
  rw [List.takeWhile_append_dropWhile, List.take_of_length_le inside] at cut
  exact cut

/-- A stretch is the same where the text is cut off at its end or behind it. -/
theorem takeWhile_take {text : Text} {length : Nat}
    (inside : (text.takeWhile sort).length ≤ length) :
    (text.take length).takeWhile sort = text.takeWhile sort := by
  rw [take_stretch inside]
  exact takeWhile_append_of_stop (fun _ => sort_of_mem_takeWhile)
    (head?_take_any (head?_dropWhile sort text) _)

theorem dropWhile_take {text : Text} {length : Nat}
    (inside : (text.takeWhile sort).length ≤ length) :
    (text.take length).dropWhile sort =
      (text.dropWhile sort).take
        (length - (text.takeWhile sort).length) := by
  rw [take_stretch inside]
  exact dropWhile_append_of_stop (fun _ => sort_of_mem_takeWhile)
    (head?_take_any (head?_dropWhile sort text) _)

/-- A beginning of a text ends before a character that it does not hold. -/
theorem prefix_of_not_mem {word text rest : Text} {character : Char}
    (begins : word <+: text ++ character :: rest)
    (missing : character ∉ word) : word <+: text := by
  have shorter : word.length ≤ text.length := by
    apply Nat.le_of_not_lt
    intro longer
    have through : text ++ [character] <+: text ++ character :: rest :=
      ⟨rest, by rw [List.append_assoc, List.singleton_append]⟩
    have shares : text ++ [character] <+: word :=
      List.prefix_of_prefix_length_le through begins (by
        rw [List.length_append, List.length_singleton]
        omega)
    exact missing (shares.subset (by simp))
  exact List.prefix_of_prefix_length_le begins (List.prefix_append _ _)
    shorter

/-- The stretch at the beginning is told by what it holds and where it stops. -/
theorem takeWhile_eq_iff {word text : Text}
    (inside : ∀ character ∈ word, sort character = true) :
    text.takeWhile sort = word ↔
      word <+: text ∧ (text.drop word.length).head?.any sort = false := by
  constructor
  · rintro rfl
    refine ⟨List.takeWhile_prefix sort, ?_⟩
    rw [drop_length_takeWhile]
    exact head?_dropWhile sort text
  · rintro ⟨⟨rest, rfl⟩, stop⟩
    rw [List.drop_left] at stop
    exact takeWhile_append_of_stop inside stop

/-- Among words of one sort only the whole stretch is followed by a stop. -/
theorem find?_stretch {words : List Text} (text : Text)
    (inside : ∀ word ∈ words, ∀ character ∈ word, sort character = true) :
    (words.find? fun word =>
        word.isPrefixOf text && !(text.drop word.length).head?.any sort) =
      if text.takeWhile sort ∈ words then some (text.takeWhile sort)
      else none := by
  induction words with
  | nil => rfl
  | cons word words hypothesis =>
      rcases List.forall_mem_cons.1 inside with ⟨first, others⟩
      have whole : (word.isPrefixOf text &&
          !(text.drop word.length).head?.any sort) =
            decide (text.takeWhile sort = word) := by
        rw [Bool.eq_iff_iff, decide_eq_true_iff, takeWhile_eq_iff first,
          Bool.and_eq_true, List.isPrefixOf_iff_prefix, Bool.not_eq_true']
      rw [List.find?_cons, whole]
      by_cases same : text.takeWhile sort = word
      · simp [same]
      · simpa [same] using hypothesis others

/-- The longest of some entries with which a text starts. -/
def longest? (entries : List Text) (text : Text) : Option Text :=
  (entries.filter fun entry => entry.isPrefixOf text).maxOn? List.length

theorem mem_filter_isPrefixOf {entries : List Text} {text entry : Text} :
    (entry ∈ entries.filter fun entry => entry.isPrefixOf text) ↔
      entry ∈ entries ∧ entry <+: text := by
  rw [List.mem_filter, List.isPrefixOf_iff_prefix]

theorem mem_of_longest?_eq_some {entries : List Text} {text entry : Text}
    (found : longest? entries text = some entry) :
    entry ∈ entries ∧ entry <+: text :=
  mem_filter_isPrefixOf.1 (List.maxOn?_mem found)

theorem not_prefix_of_longest?_eq_none {entries : List Text} {text : Text}
    (nothing : longest? entries text = none) :
    ∀ entry ∈ entries, ¬ entry <+: text := by
  intro entry member begins
  have isSome : (longest? entries text).isSome = true :=
    List.isSome_maxOn?_of_mem (mem_filter_isPrefixOf.2 ⟨member, begins⟩)
  rw [nothing] at isSome
  cases isSome

theorem length_le_of_longest?_eq_some {entries : List Text}
    {text entry : Text} (found : longest? entries text = some entry) :
    ∀ other ∈ entries, other <+: text → other.length ≤ entry.length := by
  intro other member begins
  have inside := mem_filter_isPrefixOf.2 ⟨member, begins⟩
  have isSome : (longest? entries text).isSome = true :=
    List.isSome_maxOn?_of_mem inside
  have notLonger : other.length ≤ ((longest? entries text).get isSome).length :=
    List.le_apply_get_maxOn?_of_mem inside
  simpa only [found, Option.get_some] using notLonger

/-- An entry is the longest one if no other entry begins the text farther. -/
theorem longest?_eq_some {entries : List Text} {text entry : Text}
    (member : entry ∈ entries) (begins : entry <+: text)
    (longest : ∀ other ∈ entries, other <+: text →
      other.length ≤ entry.length) :
    longest? entries text = some entry := by
  cases found : longest? entries text with
  | none =>
      exact absurd begins
        (not_prefix_of_longest?_eq_none found entry member)
  | some other =>
      rcases mem_of_longest?_eq_some found with ⟨memberToo, beginsToo⟩
      have shares : entry <+: other :=
        List.prefix_of_prefix_length_le begins beginsToo
          (length_le_of_longest?_eq_some found entry member begins)
      rw [shares.eq_of_length_le (longest other memberToo beginsToo)]

theorem longest?_eq_none {entries : List Text} {text : Text}
    (missing : ∀ entry ∈ entries, ¬ entry <+: text) :
    longest? entries text = none := by
  cases found : longest? entries text with
  | none => rfl
  | some entry =>
      have begins := mem_of_longest?_eq_some found
      exact absurd begins.2 (missing entry begins.1)

/-- Where no entry begins a later one, the first entry found is the longest. -/
theorem find?_eq_longest? {entries : List Text} (text : Text)
    (ordered : entries.Pairwise fun earlier later => ¬ earlier <+: later) :
    (entries.find? fun entry => entry.isPrefixOf text) =
      longest? entries text := by
  cases found : entries.find? fun entry => entry.isPrefixOf text with
  | none =>
      symm
      apply longest?_eq_none
      intro entry member begins
      have differs := List.find?_eq_none.1 found entry member
      exact differs (List.isPrefixOf_iff_prefix.2 begins)
  | some entry =>
      rcases List.find?_eq_some_iff_append.1 found with
        ⟨begins, earlier, later, rfl, differ⟩
      rw [List.isPrefixOf_iff_prefix] at begins
      symm
      apply longest?_eq_some (by simp) begins
      intro other member beginsToo
      rcases List.mem_append.1 member with before | behind
      · have differs := differ other before
        rw [List.isPrefixOf_iff_prefix.2 beginsToo] at differs
        cases differs
      rcases List.mem_cons.1 behind with rfl | behind
      · exact Nat.le_refl _
      -- a longer entry farther on would have this one at its beginning
      apply Nat.le_of_not_le
      intro longer
      have shares := List.prefix_of_prefix_length_le begins beginsToo longer
      rw [List.pairwise_append, List.pairwise_cons] at ordered
      exact ordered.2.1.1 other behind shares

/-- The longest entry is the same where the text is cut off behind it. -/
theorem longest?_take {entries : List Text} {text : Text} {length : Nat}
    (inside : ∀ entry, longest? entries text = some entry →
      entry.length ≤ length) :
    longest? entries (text.take length) = longest? entries text := by
  have begins : text.take length <+: text := List.take_prefix length text
  cases found : longest? entries text with
  | none =>
      apply longest?_eq_none
      intro entry member starts
      exact not_prefix_of_longest?_eq_none found entry member
        (starts.trans begins)
  | some entry =>
      rcases mem_of_longest?_eq_some found with ⟨member, starts⟩
      apply longest?_eq_some member
      · exact List.prefix_take_iff.2 ⟨starts, inside entry found⟩
      · intro other memberToo startsToo
        exact length_le_of_longest?_eq_some found other memberToo
          (startsToo.trans begins)

/-- An entry begins no text whose first character is of another sort. -/
theorem longest?_of_other {entries : List Text}
    (heads : ∀ entry ∈ entries, entry.head?.any sort = true)
    {character : Char} (other : sort character = false) (rest : Text) :
    longest? entries (character :: rest) = none := by
  apply longest?_eq_none
  intro entry member begins
  have head := heads entry member
  cases entry with
  | nil => cases head
  | cons first entry =>
      rw [List.cons_prefix_cons] at begins
      rw [List.head?_cons, Option.any_some, begins.1, other] at head
      cases head

/-- A stretch whose first character is of another sort is none of the words. -/
theorem takeWhile_not_mem {inside : Char → Bool} {words : List Text}
    (heads : ∀ word ∈ words, word.head?.any sort = true)
    {character : Char} (other : sort character = false) (rest : Text) :
    (character :: rest).takeWhile inside ∉ words := by
  intro member
  have head := heads _ member
  rw [List.takeWhile_cons] at head
  split at head
  · rw [List.head?_cons, Option.any_some, other] at head
    cases head
  · cases head

/--
Items that are written one behind the other are told by what they write, if
each tells where it ends and begins neither of the texts that follow them.
-/
theorem flatMap_append_inj {Item : Type} {write : Item → Text}
    (read : ∀ {item other more rest}, write item ++ more = write other ++ rest →
      item = other ∧ more = rest)
    {left right : List Item} {more rest : Text}
    (stop : ∀ item behind, write item ++ behind ≠ more)
    (stopToo : ∀ item behind, write item ++ behind ≠ rest)
    (same : left.flatMap write ++ more = right.flatMap write ++ rest) :
    left = right ∧ more = rest := by
  induction left generalizing right with
  | nil =>
      cases right with
      | nil => exact ⟨rfl, same⟩
      | cons other right =>
          rw [List.flatMap_cons, List.append_assoc] at same
          exact absurd same.symm (stop other _)
  | cons item left hypothesis =>
      rw [List.flatMap_cons, List.append_assoc] at same
      cases right with
      | nil => exact absurd same (stopToo item _)
      | cons other right =>
          rw [List.flatMap_cons, List.append_assoc] at same
          rcases read same with ⟨rfl, later⟩
          rcases hypothesis later with ⟨rfl, behind⟩
          exact ⟨rfl, behind⟩

end BayesLex.Text
