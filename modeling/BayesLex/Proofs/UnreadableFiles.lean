import BayesLex.Proofs.Checking

/-!
# A file that cannot be read ends a run

Files are read from left to right.  Either all of them can be read, or there is
a first one that cannot (`Environment.reads_or_refuses`), and then a run ends
there.  What has been written for the files before it stays written, nothing is
written for it or for a later one, and the run fails with the reason for which
it cannot be read, however many errors have been found until then.
-/

namespace BayesLex

namespace Environment

/--
Why a path cannot be read: because of the standard input, or because of the file
at the path, which is named then.
-/
inductive Refuses (environment : Environment) : String → Failure → Prop where
  | input {path : String} {cause : ReadFailure}
      (standard : Path.isStandardInput path = true)
      (broken : environment.input.all = .error cause) :
      Refuses environment path (.input cause)
  | file {path : String} {cause : ReadFailure}
      (other : Path.isStandardInput path = false)
      (missing : environment.read path = .error cause) :
      Refuses environment path (.unreadable path cause)

variable {environment : Environment} {before paths : List String}
  {path : String} {failure : Failure} {source : SourceFile}
  {sources : List SourceFile}

/-- Only a standard input that has not been read yet can be refused. -/
theorem refuses_of_textBehind
    (fails : environment.textBehind before path = .error failure) :
    environment.Refuses path failure := by
  unfold textBehind at fails
  cases standard : Path.isStandardInput path with
  | true =>
      rw [if_pos standard] at fails
      split at fails
      · cases fails
      · cases broken : environment.input.all with
        | ok text =>
            rw [broken] at fails
            cases fails
        | error cause =>
            rw [broken] at fails
            cases fails
            exact .input standard broken
  | false =>
      rw [standard, if_neg Bool.false_ne_true] at fails
      cases missing : environment.read path with
      | ok text =>
          rw [missing] at fails
          cases fails
      | error cause =>
          rw [missing] at fails
          cases fails
          exact .file standard missing

/-- A source is missing for the reason for which its text is. -/
theorem textBehind_of_sourceBehind
    (fails : environment.sourceBehind before path = .error failure) :
    environment.textBehind before path = .error failure := by
  unfold sourceBehind at fails
  cases read : environment.textBehind before path with
  | ok text =>
      rw [read] at fails
      cases fails
  | error cause =>
      rw [read] at fails
      cases fails
      rfl

/-- Either all paths can be read, or there is a first one that cannot. -/
theorem reads_or_refuses (environment : Environment)
    (before paths : List String) :
    (∃ sources, environment.Reads before paths sources) ∨
      ∃ readable path rest sources failure,
        paths = readable ++ path :: rest ∧
        environment.Reads before readable sources ∧
        environment.sourceBehind (before ++ readable) path =
          .error failure := by
  -- What a path reads hangs on those before it: one may have taken the input.
  induction paths generalizing before with
  | nil => exact Or.inl ⟨[], .nil⟩
  | cons path paths hypothesis =>
      cases found : environment.sourceBehind before path with
      | error failure =>
          rw [← List.append_nil before] at found
          exact Or.inr ⟨[], path, paths, [], failure, rfl, .nil, found⟩
      | ok source =>
          rcases hypothesis (before ++ [path]) with
            ⟨sources, reads⟩ |
              ⟨readable, other, rest, sources, failure, split, reads, fails⟩
          · exact Or.inl ⟨source :: sources, .cons found reads⟩
          · rw [List.append_assoc, List.singleton_append] at fails
            refine Or.inr ⟨path :: readable, other, rest, source :: sources,
              failure, ?_, .cons found reads, fails⟩
            rw [split, List.cons_append]

/-- What has been read is the text of a file with its path. -/
theorem Reads.eq_of (reads : environment.Reads before paths sources) :
    ∀ source ∈ sources, ∃ text path,
      source = SourceFile.of text (some path) := by
  induction reads with
  | nil =>
      intro source impossible
      cases impossible
  | cons first others hypothesis =>
      rcases Program.readSource_of_sourceBehind first with ⟨text, rfl, _⟩
      exact List.forall_mem_cons.2 ⟨⟨text, _, rfl⟩, hypothesis⟩

end Environment

namespace Program

variable {environment : Environment} {before : List String} {path : String}
  {failure : Failure} {sources : List SourceFile}

/-- The sources before a file that cannot be read are listed, and no others. -/
theorem listFiles_stops (colors showTrivia headed : Bool)
    (reads : environment.Reads [] before sources)
    (fails : environment.textBehind before path = .error failure)
    (rest : List String) :
    let done := listFiles environment colors showTrivia headed
      environment.input (before ++ path :: rest)
    done.result = .error failure ∧
      done.output =
        sources.flatMap (SourceFile.listing colors showTrivia headed) := by
  have stops : listFiles environment colors showTrivia headed
      (environment.inputBehind before) (path :: rest) =
        Transcript.fail failure := by
    rw [listFiles, readSource_inputBehind, fails]
    rfl
  have listed :=
    listFiles_append colors showTrivia headed reads (path :: rest)
  simp only [List.nil_append, stops] at listed
  exact ⟨listed.2, listed.1.trans (List.append_nil _)⟩

/-- The sources before a file that cannot be read are checked, and no others. -/
theorem checkFiles_stops (colors showTrivia : Bool)
    (reads : environment.Reads [] before sources)
    (fails : environment.textBehind before path = .error failure)
    (rest : List String) :
    let done := checkFiles environment colors {} environment.input
      (before ++ path :: rest)
    done.result = .error failure ∧ done.output = [] ∧
      done.diagnostics =
        sources.flatMap (SourceFile.messages colors showTrivia) := by
  have stops (tally : Tally) : checkFiles environment colors tally
      (environment.inputBehind before) (path :: rest) =
        Transcript.fail failure := by
    rw [checkFiles, readSource_inputBehind, fails]
    rfl
  have checked :=
    checkFiles_append colors showTrivia {} reads (path :: rest)
  simp only [List.nil_append, stops] at checked
  exact ⟨checked.2.2, checked.2.1, checked.1.trans (List.append_nil _)⟩

end Program

namespace SourceFile

/-- A source that is listed alone, behind its header if `headed`. -/
theorem listing_eq (colors showTrivia headed : Bool) (source : SourceFile) :
    source.listing colors showTrivia headed =
      (if headed then "==> ".toList ++ source.title ++ " <==\n".toList
        else []) ++
        Listing.render colors showTrivia source (tokenize source.text) :=
  congrArg _ (Listing.render_eq colors showTrivia source
    (tokenize source.text)).symm

/-- The messages about a source are its diagnostics. -/
theorem messages_of (colors showTrivia : Bool) (text : Text)
    (path : Option String) :
    (SourceFile.of text path).messages colors showTrivia =
      Program.writeDiagnostics colors
        (Listing.diagnostics (SourceFile.of text path) (tokenize text)) := by
  have diagnostics := diagnostics_eq text path showTrivia
  dsimp only at diagnostics
  rw [diagnostics, Program.writeDiagnostics, List.flatMap_map]
  rfl

/-- The messages about sources that have been read are their diagnostics. -/
theorem flatMap_messages {environment : Environment}
    {before paths : List String} {sources : List SourceFile}
    (reads : environment.Reads before paths sources)
    (colors showTrivia : Bool) :
    sources.flatMap (SourceFile.messages colors showTrivia) =
      sources.flatMap fun source => Program.writeDiagnostics colors
        (Listing.diagnostics source (tokenize source.text)) := by
  rw [List.flatMap_def, List.flatMap_def]
  apply congrArg List.flatten
  apply List.map_congr_left
  intro source member
  rcases reads.eq_of source member with ⟨text, path, rfl⟩
  exact messages_of colors showTrivia text (some path)

end SourceFile

/--
A file that cannot be read ends a run.  For every list of files, either all can
be read, and all are listed; or there is a first one that cannot.  Then the
sources before it are listed, each as it is listed alone, and their diagnostics
are written by a check.  Nothing is written for any other file, and both runs
fail with the reason why that file cannot be read.
-/
theorem run_stops {environment : Environment} {config : Option String}
    {configuration : Configuration}
    (valid : (Program.configure environment config).2 = .ok configuration)
    (files : List String) (noTrivia : Bool) :
    let colors := environment.colors && configuration.color
    let showTrivia := configuration.showTrivia && !noTrivia
    let list :=
      Program.run environment { config, action := .lex files noTrivia }
    let check := Program.run environment { config, action := .check files }
    let listing := fun source : SourceFile =>
      (if files.length > 1 then
        "==> ".toList ++ source.title ++ " <==\n".toList
      else
        []) ++ Listing.render colors showTrivia source (tokenize source.text)
    let diagnostics := fun source : SourceFile =>
      Program.writeDiagnostics colors
        (Listing.diagnostics source (tokenize source.text))
    ((∃ sources, environment.Reads [] files sources) ∨
        ∃ before path rest sources failure,
          files = before ++ path :: rest ∧
          environment.Reads [] before sources ∧
          environment.sourceBehind before path = .error failure) ∧
      (∀ sources, environment.Reads [] files sources →
        list.result = .ok () ∧ list.output = sources.flatMap listing) ∧
      ∀ before path rest sources failure,
        files = before ++ path :: rest →
        environment.Reads [] before sources →
        environment.sourceBehind before path = .error failure →
        environment.Refuses path failure ∧
          list.result = .error failure ∧
          list.output = sources.flatMap listing ∧
          check.result = .error failure ∧
          check.output = [] ∧
          check.diagnostics = sources.flatMap diagnostics := by
  intro colors showTrivia list check listing diagnostics
  rcases Program.run_of_configure valid (.lex files noTrivia) with
    ⟨listResult, listOutput, _⟩
  rcases Program.run_of_configure valid (.check files) with
    ⟨checkResult, checkOutput, checkDiagnostics⟩
  have listingEq : listing = fun source : SourceFile =>
      source.listing colors showTrivia (files.length > 1) := by
    funext source
    rw [SourceFile.listing_eq]
    simp only [listing, decide_eq_true_eq]
  refine ⟨environment.reads_or_refuses [] files, ?_, ?_⟩
  · intro sources reads
    have listed := Program.listFiles_append colors showTrivia
      (files.length > 1) reads []
    simp only [List.append_nil, List.nil_append] at listed
    constructor
    · exact listResult.trans listed.2
    · rw [listingEq]
      exact listOutput.trans (listed.1.trans (List.append_nil _))
  · intro before path rest sources failure split reads fails
    have missing := Environment.textBehind_of_sourceBehind fails
    subst split
    rcases Program.listFiles_stops colors showTrivia
      ((before ++ path :: rest).length > 1) reads missing rest with
      ⟨listStops, listed⟩
    rcases Program.checkFiles_stops colors showTrivia reads missing rest with
      ⟨checkStops, nothing, checked⟩
    refine ⟨Environment.refuses_of_textBehind missing,
      listResult.trans listStops, ?_, checkResult.trans checkStops,
      checkOutput.trans nothing, ?_⟩
    · rw [listingEq]
      exact listOutput.trans listed
    · exact checkDiagnostics.trans (checked.trans
        (SourceFile.flatMap_messages reads colors showTrivia))

/-- An error in the first file, and a fourth file that is missing. -/
theorem run_stops_missing :
    let environment : Environment :=
      { read := fun path =>
          if path = "a" then .ok "@x".toList else .error .notFound
        input := { text := "y".toList }
        colors := false }
    let files := ["a", "-", "-", "b", "a"]
    let list :=
      Program.run environment { config := none, action := .lex files true }
    let check :=
      Program.run environment { config := none, action := .check files }
    list.result = .error (.unreadable "b" .notFound) ∧
      check.result = .error (.unreadable "b" .notFound) ∧
      check.diagnostics = "a:1:1: unrecognized character '@'\n".toList := by
  intro environment files list check
  let sources :=
    [SourceFile.of "@x".toList (some "a"),
      SourceFile.of "y".toList (some "-"), SourceFile.of [] (some "-")]
  have name : Path.isStandardInput "a" = false := by decide +kernel
  have dash : Path.isStandardInput "-" = true := by decide +kernel
  have other : Path.isStandardInput "b" = false := by decide +kernel
  have reads : environment.Reads [] ["a", "-", "-"] sources := by
    refine .cons ?_ (.cons ?_ (.cons ?_ .nil))
    · simp [Environment.sourceBehind, Environment.textBehind, name]
      rfl
    · simp [Environment.sourceBehind, Environment.textBehind, dash, name]
      rfl
    · simp [Environment.sourceBehind, Environment.textBehind, dash]
      rfl
  have fails : environment.sourceBehind ["a", "-", "-"] "b" =
      .error (.unreadable "b" .notFound) := by
    simp [Environment.sourceBehind, Environment.textBehind, other]
    rfl
  rcases (@run_stops environment none {} rfl files true).2.2
      ["a", "-", "-"] "b" ["a"] sources _ rfl reads fails with
    ⟨_, listResult, _, checkResult, _, diagnostics⟩
  refine ⟨listResult, checkResult, diagnostics.trans ?_⟩
  decide +kernel

end BayesLex
