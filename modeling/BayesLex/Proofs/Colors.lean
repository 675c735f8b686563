import BayesLex.Proofs.Listing

/-!
# Taking the colors off

`Color.strip` deletes every sequence of a terminal for colors from a text: an
escape character, a bracket, digits and the letter `m`.  Where the text holds no
escape character, nothing is deleted, and such a text keeps apart what stands
around it (`Color.strip_append`).

A line of a listing has an escape character only where it is painted, since a
quoted text shows such a character by its number.  So the lines come out as they
are printed without colors, whatever a source holds.
-/

namespace BayesLex

namespace Color

/-- What follows a color sequence with which a text begins. -/
def behindSequence? : Text → Option Text
  | '\x1b' :: '[' :: rest =>
      match rest.takeWhile Char.isDigit, rest.dropWhile Char.isDigit with
      | _ :: _, 'm' :: behind => some behind
      | _, _ => none
  | _ => none

theorem behindSequence?_of_ne {character : Char} (other : character ≠ '\x1b')
    (rest : Text) : behindSequence? (character :: rest) = none := by
  unfold behindSequence?
  split
  · rename_i same
    exact absurd (List.head_eq_of_cons_eq same) other
  · rfl

theorem behindSequence?_sequence (digits : Text) (solid : digits ≠ [])
    (inside : ∀ digit ∈ digits, digit.isDigit = true) (rest : Text) :
    behindSequence? ('\x1b' :: '[' :: (digits ++ 'm' :: rest)) = some rest := by
  have stop : ('m' :: rest).head?.any Char.isDigit = false := rfl
  have before := Text.takeWhile_append_of_stop inside stop
  have behind := Text.dropWhile_append_of_stop inside stop
  cases digits with
  | nil => exact absurd rfl solid
  | cons digit digits => simp only [behindSequence?, before, behind]

theorem length_lt_of_behindSequence? {text behind : Text}
    (found : behindSequence? text = some behind) :
    behind.length < text.length := by
  unfold behindSequence? at found
  split at found
  · rename_i rest
    split at found
    · rename_i same
      cases found
      have shorter := (List.dropWhile_suffix Char.isDigit (l := rest)).length_le
      rw [same, List.length_cons] at shorter
      simp only [List.length_cons]
      omega
    · cases found
  · cases found

/-- A text without its color sequences. -/
def strip (text : Text) : Text :=
  match found : behindSequence? text with
  | some behind =>
      have := length_lt_of_behindSequence? found
      strip behind
  | none =>
      match text with
      | [] => []
      | character :: rest => character :: strip rest
termination_by text.length

@[simp]
theorem strip_nil : strip [] = [] := by
  rw [strip]
  rfl

theorem strip_of_behindSequence? {text behind : Text}
    (found : behindSequence? text = some behind) : strip text = strip behind := by
  rw [strip]
  split
  · rename_i same
    rw [Option.some.inj (found.symm.trans same)]
  · rename_i none
    rw [found] at none
    cases none

theorem strip_cons {character : Char} (other : character ≠ '\x1b')
    (rest : Text) : strip (character :: rest) = character :: strip rest := by
  rw [strip]
  split
  · rename_i found
    rw [behindSequence?_of_ne other] at found
    cases found
  · rfl

/-- Nothing is deleted from a text that holds no escape character. -/
theorem strip_append {text : Text} (plain : '\x1b' ∉ text) (rest : Text) :
    strip (text ++ rest) = text ++ strip rest := by
  induction text with
  | nil => rfl
  | cons character text hypothesis =>
      rw [List.mem_cons, not_or] at plain
      rw [List.cons_append, strip_cons (Ne.symm plain.1), hypothesis plain.2,
        List.cons_append]

theorem strip_reset (rest : Text) : strip (reset ++ rest) = strip rest :=
  strip_of_behindSequence?
    (behindSequence?_sequence ['0'] nofun (List.forall_mem_singleton.2 rfl) rest)

theorem strip_sequence (color : Color) (rest : Text) :
    strip (color.sequence ++ rest) = strip rest := by
  apply strip_of_behindSequence?
  rw [sequence, List.append_assoc, List.append_assoc]
  exact behindSequence?_sequence _ Nat.toDigits_ne_nil
    (fun _ => Text.isDigit_of_mem_ofNat) rest

theorem restore_of_not_mem (color : Color) {text : Text}
    (plain : '\x1b' ∉ text) : color.restore text = text := by
  fun_induction restore color text with
  | case1 => rfl
  | case2 rest => exact absurd List.mem_cons_self plain
  | case3 character rest _ hypothesis =>
      rw [hypothesis fun member => plain (.tail _ member)]

/-- A text without escape characters comes back from its painted form. -/
theorem strip_paint (colors : Bool) (color : Color) {text : Text}
    (plain : '\x1b' ∉ text) (rest : Text) :
    strip (color.paint colors text ++ rest) = text ++ strip rest := by
  cases colors with
  | false => exact strip_append plain rest
  | true =>
      calc
        strip (color.paint true text ++ rest)
        _ = strip (color.sequence ++ (text ++ (reset ++ rest))) := by
          simp [paint, restore_of_not_mem color plain]
        _ = text ++ strip rest := by
          rw [strip_sequence, strip_append plain, strip_reset]

/-- The end of a sequence that follows a reset is no sequence. -/
example : strip (paint true .cyan "List".toList ++ "[0m".toList) =
    "List[0m".toList := by
  cbv

end Color

/-- A text that shows all of its characters has no escape character. -/
theorem escape_not_mem {text : Text}
    (shown : ∀ character ∈ text, isShown character = true) : '\x1b' ∉ text :=
  fun member => absurd (shown _ member) (by decide)

namespace Row

variable (row : Row)

/-- Without colors a line shows all of its characters. -/
theorem isShown_of_mem_render :
    ∀ character ∈ row.render false, isShown character = true := by
  intro character member
  rw [render, List.mem_append, List.mem_append] at member
  rcases member with (position | kind) | text
  · exact row.isShown_positionField character position
  · exact row.isShown_kindField character kind
  · exact Quoted.isShown_of_mem_text text

/-- Behind a line, with colors or without, the deletion begins afresh. -/
theorem strip_render (colors : Bool) (rest : Text) :
    Color.strip (row.render colors ++ rest) =
      row.render false ++ Color.strip rest := by
  have position := escape_not_mem row.isShown_positionField
  have kind := escape_not_mem row.isShown_kindField
  have quoted : '\x1b' ∉ Quoted.text row.text :=
    escape_not_mem fun _ => Quoted.isShown_of_mem_text
  simp only [render, List.append_assoc]
  rw [Color.strip_append position, Color.strip_paint _ _ kind,
    Color.strip_append quoted]
  rfl

end Row

namespace Listing

theorem strip_rows (colors : Bool) (rows : List Row) :
    Color.strip (rows.flatMap fun row => row.render colors ++ ['\n']) =
      rows.flatMap fun row => row.render false ++ ['\n'] := by
  induction rows with
  | nil => exact Color.strip_nil
  | cons row rows hypothesis =>
      rw [List.flatMap_cons, List.flatMap_cons, List.append_assoc,
        row.strip_render, Color.strip_append (by decide), hypothesis,
        List.append_assoc]

/--
Colors are for the eye only.  Where every color sequence is deleted from the listing
of a source with colors, the listing without colors is left.  That one holds no escape
character at all, whatever characters the source holds.
-/
theorem colors_decorate_only (showTrivia : Bool) (source : Text)
    (path : Option String) :
    let file := SourceFile.of source path
    Color.strip (render true showTrivia file (tokenize source)) =
        render false showTrivia file (tokenize source) ∧
      '\x1b' ∉ render false showTrivia file (tokenize source) := by
  intro file
  rw [render_eq, render_eq]
  refine ⟨strip_rows true _, fun member => ?_⟩
  rcases List.mem_flatMap.1 member with ⟨row, _, line⟩
  rcases List.mem_append.1 line with content | newline
  · exact escape_not_mem row.isShown_of_mem_render content
  · exact absurd newline (by decide)

end Listing

end BayesLex
