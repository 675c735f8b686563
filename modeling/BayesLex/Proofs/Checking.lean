import BayesLex.Program
import BayesLex.Proofs.Diagnostics
import BayesLex.Proofs.Listing

/-!
# Checking agrees with listing

A list of files is read from left to right, and only the first file that stands
for the standard input finds it: `Environment.sources`.  Listing and checking
are two loops over these sources.  What they do up to a file, and what remains
to be done behind it, is told by `Program.listFiles_append` and
`Program.checkFiles_append`.

A check writes one message for each line of kind `error` that a listing of the
same files has, and counts these lines and the files that have some.
-/

namespace BayesLex

namespace Environment

/-- What is left of the standard input behind some paths. -/
def inputBehind (environment : Environment) (before : List String) : Input :=
  if before.any Path.isStandardInput then {} else environment.input

/-- The text at a path that is read behind others. -/
def textBehind (environment : Environment) (before : List String)
    (path : String) : Except Failure Text :=
  if Path.isStandardInput path then
    if before.any Path.isStandardInput then
      .ok []
    else
      environment.input.all.mapError Failure.input
  else
    (environment.read path).mapError (Failure.unreadable path)

/-- The source at a path that is read behind others. -/
def sourceBehind (environment : Environment) (before : List String)
    (path : String) : Except Failure SourceFile :=
  (environment.textBehind before path).map fun text =>
    SourceFile.of text (some path)

/-- Some paths that are read behind others have these sources. -/
inductive Reads (environment : Environment) :
    List String → List String → List SourceFile → Prop where
  | nil {before : List String} : Reads environment before [] []
  | cons {before paths : List String} {path : String} {source : SourceFile}
      {sources : List SourceFile}
      (first : environment.sourceBehind before path = .ok source)
      (others : Reads environment (before ++ [path]) paths sources) :
      Reads environment before (path :: paths) (source :: sources)

theorem inputBehind_concat (environment : Environment) (before : List String)
    (path : String) :
    environment.inputBehind (before ++ [path]) =
      if Path.isStandardInput path then {}
      else environment.inputBehind before := by
  simp only [inputBehind, List.any_append, List.any_cons, List.any_nil,
    Bool.or_false]
  cases Path.isStandardInput path <;> simp

end Environment

/-- A path is read with what the paths before it leave of the standard input. -/
theorem Program.readSource_inputBehind (environment : Environment)
    (before : List String) (path : String) :
    readSource environment (environment.inputBehind before) path =
      (environment.textBehind before path).map fun text =>
        (text, environment.inputBehind (before ++ [path])) := by
  rw [environment.inputBehind_concat, readSource, Environment.textBehind]
  by_cases standard : Path.isStandardInput path = true
  · simp only [if_pos standard, Environment.inputBehind]
    by_cases spent : before.any Path.isStandardInput = true
    · simp only [if_pos spent]
      rfl
    · simp only [if_neg spent]
      cases environment.input.all <;> rfl
  · simp only [if_neg standard]
    cases environment.read path <;> rfl

/-- Where there is a source, a text is read. -/
theorem Program.readSource_of_sourceBehind {environment : Environment}
    {before : List String} {path : String} {source : SourceFile}
    (found : environment.sourceBehind before path = .ok source) :
    ∃ text, source = SourceFile.of text (some path) ∧
      readSource environment (environment.inputBehind before) path =
        .ok (text, environment.inputBehind (before ++ [path])) := by
  rw [readSource_inputBehind]
  unfold Environment.sourceBehind at found
  cases read : environment.textBehind before path with
  | error failure =>
      rw [read] at found
      cases found
  | ok text =>
      rw [read] at found
      cases found
      exact ⟨text, rfl, rfl⟩

namespace SourceFile

/-- The rows in a listing of a source. -/
def rows (showTrivia : Bool) (source : SourceFile) : List Row :=
  Listing.rows showTrivia source (tokenize source.text)

/-- The rows of a source that are errors. -/
def errorRows (showTrivia : Bool) (source : SourceFile) : List Row :=
  (source.rows showTrivia).filter fun row => row.kind = .error

/-- A line for each row of a source, under a header if `headed`. -/
def listing (colors showTrivia headed : Bool) (source : SourceFile) : Text :=
  (if headed then "==> ".toList ++ source.title ++ " <==\n".toList else []) ++
    (source.rows showTrivia).flatMap fun row => row.render colors ++ ['\n']

end SourceFile

/-- What is said about a row that is an error, by its position and its text. -/
def Row.complaint (title : Text) (row : Row) : Text :=
  title ++ [':'] ++ row.position.label ++
    ": unrecognized character ".toList ++
    row.text.flatMap Quoted.character

namespace SourceFile

/-- A message on a line of its own for each row that is an error. -/
def messages (colors showTrivia : Bool) (source : SourceFile) : Text :=
  (source.errorRows showTrivia).flatMap fun row =>
    Color.red.paint colors (row.complaint source.title) ++ ['\n']

/-- The rows that are errors are the same whether trivia is shown or not. -/
theorem errorRows_eq (showTrivia : Bool) (source : SourceFile) :
    source.errorRows showTrivia =
      ((tokenize source.text).tokens.filter fun token =>
        token.kind = .error).map (Row.of source) := by
  have solid : ∀ kind, decide (kind = Kind.error) = true →
      kind.isTrivia = false := by
    intro kind error
    rw [of_decide_eq_true error]
    rfl
  exact Listing.filter_rows solid showTrivia source (tokenize source.text)

/-- Diagnostics are what is said about the rows that are errors. -/
theorem diagnostics_eq (text : Text) (path : Option String)
    (showTrivia : Bool) :
    let source := SourceFile.of text path
    Listing.diagnostics source (tokenize text) =
      (source.errorRows showTrivia).map (Row.complaint source.title) := by
  intro source
  let say : Text × Span → Text := fun error =>
    source.title ++ [':'] ++ (source.position error.2.start).label ++
      ": unrecognized character ".toList ++
      error.1.flatMap Quoted.character
  have errors := congrArg (List.map say) (map_errors_tokenize text)
  rw [List.map_map, List.map_map] at errors
  rw [errorRows_eq, List.map_map]
  refine Eq.trans ?_ errors
  apply List.map_congr_left
  intro error _
  rw [error.located_eq]
  simp [say]

end SourceFile

namespace Program

theorem output_listSource (colors showTrivia headed : Bool) (text : Text)
    (path : String) :
    (if headed then header path else []) ++
        (listSource colors showTrivia (some path) text).output =
      (SourceFile.of text (some path)).listing colors showTrivia headed :=
  congrArg _ (Listing.render_eq colors showTrivia _ (tokenize text))

variable {environment : Environment} {before paths : List String}
  {path : String} {source : SourceFile} {sources : List SourceFile}

/-- A source that can be read is listed first. -/
theorem listFiles_cons (colors showTrivia headed : Bool)
    (found : environment.sourceBehind before path = .ok source)
    (paths : List String) :
    let list := listFiles environment colors showTrivia headed
    let later := list (environment.inputBehind (before ++ [path])) paths
    (list (environment.inputBehind before) (path :: paths)).output =
        source.listing colors showTrivia headed ++ later.output ∧
      (list (environment.inputBehind before) (path :: paths)).result =
        later.result := by
  rcases readSource_of_sourceBehind found with ⟨text, rfl, read⟩
  dsimp only
  rw [listFiles, read, ← output_listSource]
  exact ⟨rfl, rfl⟩

/-- Sources that can be read are listed before the files behind them. -/
theorem listFiles_append (colors showTrivia headed : Bool)
    (reads : environment.Reads before paths sources) (rest : List String) :
    let list := listFiles environment colors showTrivia headed
    let later := list (environment.inputBehind (before ++ paths)) rest
    (list (environment.inputBehind before) (paths ++ rest)).output =
        sources.flatMap (SourceFile.listing colors showTrivia headed) ++
          later.output ∧
      (list (environment.inputBehind before) (paths ++ rest)).result =
        later.result := by
  intro list
  induction reads with
  | nil =>
      rw [List.append_nil]
      exact ⟨rfl, rfl⟩
  | @cons before paths path source sources first others hypothesis =>
      rw [List.append_assoc, List.singleton_append] at hypothesis
      rcases listFiles_cons colors showTrivia headed first (paths ++ rest) with
        ⟨output, result⟩
      refine ⟨?_, result.trans hypothesis.2⟩
      rw [List.flatMap_cons, List.append_assoc, ← hypothesis.1]
      exact output

/-- The errors of a source that can be read are reported first. -/
theorem checkFiles_cons (colors showTrivia : Bool) (tally : Tally)
    (found : environment.sourceBehind before path = .ok source)
    (paths : List String) :
    let check := checkFiles environment colors
    let later := check (tally.add (source.errorRows showTrivia).length)
      (environment.inputBehind (before ++ [path])) paths
    let now := check tally (environment.inputBehind before) (path :: paths)
    now.diagnostics =
        source.messages colors showTrivia ++ later.diagnostics ∧
      now.output = later.output ∧ now.result = later.result := by
  rcases readSource_of_sourceBehind found with ⟨text, rfl, read⟩
  have messages : Listing.diagnostics (SourceFile.of text (some path))
      (scan text).1 = _ :=
    SourceFile.diagnostics_eq text (some path) showTrivia
  dsimp only
  rw [checkFiles, read]
  dsimp only
  rw [messages, List.length_map, writeDiagnostics, List.flatMap_map]
  exact ⟨rfl, rfl, rfl⟩

/-- Sources that can be read are checked before the files behind them. -/
theorem checkFiles_append (colors showTrivia : Bool) (tally : Tally)
    (reads : environment.Reads before paths sources) (rest : List String) :
    let check := checkFiles environment colors
    let later := check
      (sources.foldl (fun tally source =>
        tally.add (source.errorRows showTrivia).length) tally)
      (environment.inputBehind (before ++ paths)) rest
    let all := check tally (environment.inputBehind before) (paths ++ rest)
    all.diagnostics =
        sources.flatMap (SourceFile.messages colors showTrivia) ++
          later.diagnostics ∧
      all.output = later.output ∧ all.result = later.result := by
  intro check
  induction reads generalizing tally with
  | nil =>
      rw [List.append_nil]
      exact ⟨rfl, rfl, rfl⟩
  | @cons before paths path source sources first others hypothesis =>
      have behind :=
        hypothesis (tally.add (source.errorRows showTrivia).length)
      rw [List.append_assoc, List.singleton_append] at behind
      rcases checkFiles_cons colors showTrivia tally first (paths ++ rest) with
        ⟨diagnostics, output, result⟩
      refine ⟨?_, output.trans behind.2.1, result.trans behind.2.2⟩
      rw [List.flatMap_cons, List.append_assoc, List.foldl_cons, ← behind.1]
      exact diagnostics

/-- The errors and the files that have some are counted one by one. -/
theorem Tally.foldl_add (errors : SourceFile → List Row) (tally : Tally)
    (sources : List SourceFile) :
    sources.foldl (fun tally source => tally.add (errors source).length)
        tally =
      { count := tally.count + (sources.flatMap errors).length
        files := tally.files + sources.countP fun source =>
          errors source ≠ [] } := by
  induction sources generalizing tally with
  | nil => rfl
  | cons source sources hypothesis =>
      rw [List.foldl_cons, hypothesis, List.flatMap_cons, List.length_append,
        List.countP_cons]
      by_cases clean : errors source = []
      · simp [Tally.add, clean]
      · simp [Tally.add, clean, Nat.add_assoc, Nat.add_comm]

/-- A check fails if there are errors, and tells how many in how many files. -/
theorem Tally.result_foldl_add (errors : SourceFile → List Row)
    (sources : List SourceFile) :
    (sources.foldl (fun tally source => tally.add (errors source).length)
        ({} : Tally)).result =
      if sources.flatMap errors = [] then
        .ok ()
      else
        .error (.lexical (sources.flatMap errors).length
          (sources.countP fun source => errors source ≠ [])) := by
  rw [Tally.foldl_add, Tally.result, Nat.zero_add, Nat.zero_add]
  simp only [List.length_eq_zero_iff]

/-- With a valid configuration a run does what it is asked to do. -/
theorem run_of_configure {config : Option String}
    {configuration : Configuration}
    (valid : (configure environment config).2 = .ok configuration)
    (action : Action) :
    let settings : Settings :=
      { configuration
        colors := environment.colors && configuration.color }
    let done := run environment { config, action }
    let performed := perform environment settings action
    done.result = performed.result ∧ done.output = performed.output ∧
      done.diagnostics = performed.diagnostics := by
  unfold run
  cases found : configure environment config with
  | mk reports result =>
      rw [found] at valid
      cases valid
      exact ⟨rfl, rfl, rfl⟩

end Program

/-- A row that is an error is a single character. -/
theorem SourceFile.text_of_mem_errorRows {source : SourceFile}
    {showTrivia : Bool} {row : Row}
    (member : row ∈ source.errorRows showTrivia) :
    ∃ character, row.text = [character] := by
  rw [errorRows_eq] at member
  rcases List.mem_map.1 member with ⟨token, among, rfl⟩
  rcases List.mem_filter.1 among with ⟨among, error⟩
  rcases RuleTable.text_of_error (exists_place_of_mem among).1
    (of_decide_eq_true error) with ⟨character, text, _⟩
  exact ⟨character, text⟩

/--
Checking agrees with listing.  For files that can be read, a listing shows the
rows of their sources.  A check of the same files fails exactly if some of these
rows are errors; it tells how many there are, and how many of the files have
some.  For each of them it writes one message, in the order of the listing, with
the position and the character of that row.
-/
theorem check_agrees {environment : Environment} {config : Option String}
    {configuration : Configuration}
    (valid : (Program.configure environment config).2 = .ok configuration)
    {files : List String} {sources : List SourceFile}
    (reads : environment.Reads [] files sources) (noTrivia : Bool) :
    let colors := environment.colors && configuration.color
    let showTrivia := configuration.showTrivia && !noTrivia
    let list :=
      Program.run environment { config, action := .lex files noTrivia }
    let check := Program.run environment { config, action := .check files }
    let errors := fun source => source.errorRows showTrivia
    (list.result = .ok () ∧
        list.output =
          sources.flatMap fun source =>
            source.listing colors showTrivia (files.length > 1)) ∧
      check.result =
          (if sources.flatMap errors = [] then
            .ok ()
          else
            .error (.lexical (sources.flatMap errors).length
              (sources.countP fun source => errors source ≠ []))) ∧
      check.output = [] ∧
      check.diagnostics =
          sources.flatMap (fun source => (errors source).flatMap fun row =>
            Color.red.paint colors (row.complaint source.title) ++ ['\n']) ∧
      ∀ source ∈ sources, ∀ row ∈ errors source,
        ∃ character, row.text = [character] := by
  intro colors showTrivia list check errors
  rcases Program.run_of_configure valid (.lex files noTrivia) with
    ⟨listResult, listOutput, _⟩
  rcases Program.run_of_configure valid (.check files) with
    ⟨checkResult, checkOutput, checkDiagnostics⟩
  have listed := Program.listFiles_append colors showTrivia
    (files.length > 1) reads []
  have checked := Program.checkFiles_append colors showTrivia {} reads []
  simp only [List.append_nil, List.nil_append] at listed checked
  refine ⟨⟨listResult.trans listed.2, ?_⟩, ?_, checkOutput.trans checked.2.1,
    ?_, ?_⟩
  · exact listOutput.trans (listed.1.trans (List.append_nil _))
  · exact checkResult.trans
      (checked.2.2.trans (Program.Tally.result_foldl_add errors sources))
  · exact checkDiagnostics.trans (checked.1.trans (List.append_nil _))
  · intro source _ row member
    exact SourceFile.text_of_mem_errorRows member

/-- A file without errors, and twice the standard input with two of them. -/
theorem check_agrees_repeated :
    let environment : Environment :=
      { read := fun path =>
          if path = "a" then .ok "x".toList else .error .notFound
        input := { text := "@é".toList }
        colors := false }
    let files := ["a", "-", "-"]
    let arguments := { config := none, action := .check files }
    (Program.run environment arguments).result = .error (.lexical 2 1) := by
  intro environment files arguments
  let sources :=
    [SourceFile.of "x".toList (some "a"),
      SourceFile.of "@é".toList (some "-"), SourceFile.of [] (some "-")]
  have reads : environment.Reads [] files sources := by
    have name : Path.isStandardInput "a" = false := by decide +kernel
    have dash : Path.isStandardInput "-" = true := by decide +kernel
    refine .cons ?_ (.cons ?_ (.cons ?_ .nil))
    · simp [Environment.sourceBehind, Environment.textBehind, name]
      rfl
    · simp [Environment.sourceBehind, Environment.textBehind, dash, name]
      rfl
    · simp [Environment.sourceBehind, Environment.textBehind, dash]
      rfl
  have errors : sources.map (SourceFile.errorRows false) =
      [[], [{ kind := .error, text := ['@'], position := ⟨1, 1⟩ },
        { kind := .error, text := ['é'], position := ⟨1, 2⟩ }], []] := by
    decide +kernel
  have count : (sources.flatMap (SourceFile.errorRows false)).length = 2 := by
    rw [List.flatMap_def, errors]
    rfl
  have failing : (sources.countP fun source =>
      source.errorRows false ≠ []) = 1 := by
    have mapped : (sources.map (SourceFile.errorRows false)).countP
        (fun rows => rows ≠ []) = 1 := by
      rw [errors]
      rfl
    rw [List.countP_map] at mapped
    exact mapped
  have result : (if sources.flatMap (SourceFile.errorRows false) = [] then
        Except.ok ()
      else
        .error (Failure.lexical
          (sources.flatMap (SourceFile.errorRows false)).length
          (sources.countP fun source => source.errorRows false ≠ []))) =
      .error (Failure.lexical 2 1) := by
    rw [if_neg (List.ne_nil_of_length_pos (by rw [count]; decide)), count,
      failing]
  exact (@check_agrees environment none {} rfl files _ reads true).2.1.trans
    result

end BayesLex
