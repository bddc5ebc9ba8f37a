import XPathScan.Proofs.Command.Agreement

/-!
# Runs report the first fault

A run has four phases: the settings, the expression, the form of the listing
and the scan.  `FaultAt` says of each phase by itself what is wrong with it,
whatever the others find, so that several may be at fault at once.
`Staged` says what a run makes of it: it reports the fault of the first phase
that has one, and prints something only if none has.  The settings come from
one file alone, which is chosen before anything is read (`Chosen`).

How command lines and settings are read is left open here: any parser will do
that names the settings file as it should (`NamesSettings`), and any reader of
settings.
-/

namespace XPathScan

namespace Command

/-! ## The settings file -/

/--
The settings file that a run reads, if any: the given path, whatever it leads
to; else the first of the file in the working directory and that of the user
that there is.
-/
inductive Chosen (files : Files) (userPath : Option Text) :
    Option Text → Option Text → Prop
  | given (path : Text) : Chosen files userPath (some path) (some path)
  | workingDirectory
      (present : (files settingsName).isPresent = true) :
      Chosen files userPath none (some settingsName)
  | user {path : Text}
      (absent : (files settingsName).isPresent = false)
      (own : userPath = some path)
      (present : (files path).isPresent = true) :
      Chosen files userPath none (some path)
  | standard
      (absent : (files settingsName).isPresent = false)
      (none_own : ∀ path ∈ userPath, (files path).isPresent = false) :
      Chosen files userPath none none

section

variable (reader : SettingsReader) (files : Files)

/-- What is wrong with a settings file. -/
inductive SettingsFault (path : Text) : Failure → Prop
  | missing (absent : (files path).isPresent = false) :
      SettingsFault path (.settingsMissing path)
  | unreadable {fault : FileFault}
      (present : (files path).isPresent = true)
      (unread : (files path).text = .error fault) :
      SettingsFault path (.unreadable fault)
  | malformed {content reason : Text}
      (present : (files path).isPresent = true)
      (read : (files path).text = .ok content)
      (refused : reader content = .error reason) :
      SettingsFault path (.settingsMalformed reason)

/-- The settings that a run has: those in the chosen file and no others. -/
inductive Holds (userPath given : Option Text) : Settings → Prop
  | file {path content : Text} {settings : Settings}
      (chosen : Chosen files userPath given (some path))
      (present : (files path).isPresent = true)
      (read : (files path).text = .ok content)
      (parsed : reader content = .ok settings) :
      Holds userPath given settings
  | standard (chosen : Chosen files userPath given none) :
      Holds userPath given .standard

end

/-! ## The expression and the form -/

/-- What is wrong with what is given as the expression. -/
inductive ExpressionFault (files : Files) :
    Option Text → Option Text → Failure → Prop
  | two (expression path : Text) :
      ExpressionFault files (some expression) (some path) .twoExpressions
  | nothing : ExpressionFault files none none .noExpression
  | unreadable {path : Text} {fault : FileFault}
      (unread : (files path).text = .error fault) :
      ExpressionFault files none (some path) (.unreadable fault)

/-- The expression that is given, or that stands in the given file. -/
inductive Input (files : Files) :
    Option Text → Option Text → Text → Prop
  | argument (expression : Text) :
      Input files (some expression) none expression
  | file {path content : Text} (read : (files path).text = .ok content) :
      Input files none (some path) (dropLineEnds content)

/-- The word for the form of a listing.  The settings are only asked for one
where the command line has none. -/
inductive FormatWord (reader : SettingsReader) (files : Files)
    (userPath given : Option Text) (request : ListingRequest) : Text → Prop
  | flag {word : Text} (format : request.format = some word) :
      FormatWord reader files userPath given request word
  | settings {settings : Settings} (absent : request.format = none)
      (holds : Holds reader files userPath given settings) :
      FormatWord reader files userPath given request settings.format

/-- The offset from which an action scans. -/
def Action.start : Action → Nat
  | tokens request => request.start
  | check start => start

/-! ## Phases -/

/-- The phases of a run. -/
inductive Phase
  | settings
  | expression
  | format
  | scanning
  deriving DecidableEq

/-- The place of a phase in the order of the run. -/
def Phase.rank : Phase → Nat
  | settings => 0
  | expression => 1
  | format => 2
  | scanning => 3

section

variable (reader : SettingsReader) (files : Files)
  (userPath given : Option Text) (invocation : Invocation)

/-- A failure is the fault of a phase, whatever the other phases find. -/
inductive FaultAt : Phase → Failure → Prop
  | settings {path : Text} {failure : Failure}
      (chosen : Chosen files userPath given (some path))
      (fault : SettingsFault reader files path failure) :
      FaultAt .settings failure
  | expression {failure : Failure}
      (fault :
        ExpressionFault files invocation.expression invocation.file
          failure) :
      FaultAt .expression failure
  | format {request : ListingRequest} {word : Text}
      (listing : invocation.action = .tokens request)
      (named : FormatWord reader files userPath given request word)
      (unknown : Listing.Format.ofName? word = none) :
      FaultAt .format (.unknownFormat word)
  | scanning {expression : Text} {failure : Failure}
      (input :
        Input files invocation.expression invocation.file expression)
      (fails : Fails expression invocation.action.start failure) :
      FaultAt .scanning failure

/-- The fault of a phase before which no phase is at fault. -/
def FirstFault (failure : Failure) : Prop :=
  ∃ phase,
    FaultAt reader files userPath given invocation phase failure ∧
      ∀ earlier other,
        earlier.rank < phase.rank →
          ¬ FaultAt reader files userPath given invocation earlier other

/-- What a run prints if no phase is at fault. -/
inductive Prints : Text → Prop
  | tokens {request : ListingRequest} {settings : Settings}
      {word expression : Text} {format : Listing.Format}
      {tokens : List Token}
      (listing : invocation.action = .tokens request)
      (holds : Holds reader files userPath given settings)
      (input :
        Input files invocation.expression invocation.file expression)
      (named : FormatWord reader files userPath given request word)
      (known : Listing.Format.ofName? word = some format)
      (found : scanned expression request.start = .ok tokens) :
      Prints (render format (request.spans || settings.showSpans) tokens)
  | check {start : Nat} {settings : Settings} {expression : Text}
      {tokens : List Token}
      (checking : invocation.action = .check start)
      (holds : Holds reader files userPath given settings)
      (input :
        Input files invocation.expression invocation.file expression)
      (found : scanned expression start = .ok tokens) :
      Prints (verdict (Int32.ofNat (tokens.length - 1)).toInt)

/-- A run comes to a check of more lexemes than it can count. -/
inductive Overflows : Prop
  | check {start : Nat} {settings : Settings} {expression : Text}
      (checking : invocation.action = .check start)
      (holds : Holds reader files userPath given settings)
      (input :
        Input files invocation.expression invocation.file expression)
      (many : ¬ Countable expression start)

/-- How the outcome of a run goes with the faults of its phases. -/
structure Staged : Prop where
  /-- A run succeeds if and only if no phase is at fault. -/
  succeeds_iff :
    (invocation.run reader files userPath).exitCode = 0 ↔
      ∀ phase failure,
        ¬ FaultAt reader files userPath given invocation phase failure
  prints_iff :
    ∀ output,
      ((invocation.run reader files userPath).exitCode = 0 ∧
          (invocation.run reader files userPath).output = output) ↔
        Prints reader files userPath given invocation output
  /-- Otherwise the first fault is reported and nothing is printed. -/
  fails_iff :
    ∀ failure,
      ((invocation.run reader files userPath).exitCode = 1 ∧
          (invocation.run reader files userPath).output = [] ∧
            (invocation.run reader files userPath).result =
              .error failure) ↔
        FirstFault reader files userPath given invocation failure
  unique_failure :
    ∀ failure failure',
      FirstFault reader files userPath given invocation failure →
        FirstFault reader files userPath given invocation failure' →
          failure = failure'
  chosen : ∃! path, Chosen files userPath given path
  /-- No file but the chosen one and that of the expression is read. -/
  alone :
    ∀ path, Chosen files userPath given path →
      ∀ files' userPath', Chosen files' userPath' given path →
        (∀ read ∈ path, files' read = files read) →
          (∀ read ∈ invocation.file, files' read = files read) →
            invocation.run reader files' userPath' =
              invocation.run reader files userPath
  /-- A run whose counter is checked is the same or is broken off. -/
  checked :
    ¬ Overflows reader files userPath given invocation →
      Checked.run reader files userPath invocation =
        .ok (invocation.run reader files userPath)
  broken_off :
    Overflows reader files userPath given invocation →
      Checked.run reader files userPath invocation = .error .overflow

end

/-! ## Each phase by itself -/

/-- A result is a success or a failure just as two conditions say. -/
structure Describes {Value : Type} (result : Except Failure Value)
    (succeeds : Value → Prop) (fails : Failure → Prop) : Prop where
  ok_iff : ∀ value, succeeds value ↔ result = .ok value
  error_iff : ∀ failure, fails failure ↔ result = .error failure

namespace Describes

variable {Value : Type} {result : Except Failure Value}
  {succeeds : Value → Prop} {fails : Failure → Prop}

/-- Conditions that leave nothing out need to be sufficient only. -/
theorem of_total
    (success : ∀ value, succeeds value → result = .ok value)
    (failing : ∀ failure, fails failure → result = .error failure)
    (total :
      (∃ value, succeeds value) ∨ ∃ failure, fails failure) :
    Describes result succeeds fails := by
  constructor
  · intro value
    refine ⟨success value, ?_⟩
    intro found
    rcases total with ⟨own, holds⟩ | ⟨failure, fault⟩
    · rw [success own holds, Except.ok.injEq] at found
      exact found ▸ holds
    · rw [failing failure fault] at found
      cases found
  · intro failure
    refine ⟨failing failure, ?_⟩
    intro found
    rcases total with ⟨value, holds⟩ | ⟨own, fault⟩
    · rw [success value holds] at found
      cases found
    · rw [failing own fault, Except.error.injEq] at found
      exact found ▸ fault

theorem exists_of_sound (describes : Describes result succeeds fails)
    (sound : ∀ failure, ¬ fails failure) :
    ∃ value, succeeds value ∧ result = .ok value := by
  cases found : result with
  | error failure =>
      exact absurd ((describes.error_iff failure).2 found) (sound failure)
  | ok value => exact ⟨value, (describes.ok_iff value).2 found, rfl⟩

end Describes

section

variable {reader : SettingsReader} {files : Files}
  {userPath given : Option Text} {invocation : Invocation}

theorem settingsPath?_of_chosen {path : Option Text}
    (chosen : Chosen files userPath given path) :
    settingsPath? files given userPath = path := by
  cases chosen with
  | given path => rfl
  | workingDirectory present =>
      simp [settingsPath?, firstPresent?, present]
  | user absent own present =>
      simp [settingsPath?, firstPresent?, absent, own, present]
  | standard absent none_own =>
      simpa [settingsPath?, firstPresent?, absent] using none_own

variable (files userPath given) in
/-- There is always a choice, be it that of no file. -/
theorem exists_chosen : ∃ path, Chosen files userPath given path := by
  cases given with
  | some path => exact ⟨_, .given path⟩
  | none =>
      cases here : (files settingsName).isPresent with
      | true => exact ⟨_, .workingDirectory here⟩
      | false =>
          by_cases own :
              ∃ path ∈ userPath, (files path).isPresent = true
          · rcases own with ⟨path, rfl, present⟩
            exact ⟨_, .user here rfl present⟩
          · simp only [not_exists, not_and, Bool.not_eq_true] at own
            exact ⟨_, .standard here own⟩

theorem readSettings_of_fault {path : Text} {failure : Failure}
    (fault : SettingsFault reader files path failure) :
    readSettings reader files path = .error failure := by
  cases fault with
  | missing absent => simp [readSettings, absent]
  | unreadable present unread => simp [readSettings, present, unread]
  | malformed present read refused =>
      simp [readSettings, present, read, refused, Except.mapError]

variable (reader files userPath given) in
/-- The settings are those of the chosen file. -/
theorem describes_loadSettings :
    Describes (loadSettings reader files given userPath)
      (Holds reader files userPath given)
      (fun failure => ∃ path,
        Chosen files userPath given (some path) ∧
          SettingsFault reader files path failure) := by
  apply Describes.of_total
  · intro settings holds
    cases holds with
    | file chosen present read parsed =>
        rw [loadSettings, settingsPath?_of_chosen chosen]
        simp [readSettings, present, read, parsed, Except.mapError]
    | standard chosen =>
        rw [loadSettings, settingsPath?_of_chosen chosen]
  · rintro failure ⟨path, chosen, fault⟩
    rw [loadSettings, settingsPath?_of_chosen chosen]
    exact readSettings_of_fault fault
  · rcases exists_chosen files userPath given with ⟨_ | path, chosen⟩
    · exact Or.inl ⟨_, .standard chosen⟩
    · cases present : (files path).isPresent with
      | false => exact Or.inr ⟨_, path, chosen, .missing present⟩
      | true =>
          cases read : (files path).text with
          | error fault =>
              exact Or.inr ⟨_, path, chosen, .unreadable present read⟩
          | ok content =>
              cases parsed : reader content with
              | error reason =>
                  exact
                    Or.inr ⟨_, path, chosen, .malformed present read parsed⟩
              | ok settings =>
                  exact Or.inl ⟨_, .file chosen present read parsed⟩

theorem holds_iff {settings : Settings} :
    Holds reader files userPath given settings ↔
      loadSettings reader files given userPath = .ok settings :=
  (describes_loadSettings reader files userPath given).ok_iff settings

variable (files) in
/-- The expression is what is given, from one place only. -/
theorem describes_readExpression (expression file : Option Text) :
    Describes (readExpression files expression file)
      (Input files expression file)
      (ExpressionFault files expression file) := by
  apply Describes.of_total
  · intro input found
    cases found with
    | argument expression => rfl
    | file read => simp [readExpression, read]
  · intro failure fault
    cases fault with
    | two expression path => rfl
    | nothing => rfl
    | unreadable unread => simp [readExpression, unread]
  · cases expression with
    | some expression =>
        cases file with
        | some path => exact Or.inr ⟨_, .two expression path⟩
        | none => exact Or.inl ⟨_, .argument expression⟩
    | none =>
        cases file with
        | none => exact Or.inr ⟨_, .nothing⟩
        | some path =>
            cases read : (files path).text with
            | error fault => exact Or.inr ⟨_, .unreadable read⟩
            | ok content => exact Or.inl ⟨_, .file read⟩

theorem input_iff {expression file : Option Text} {text : Text} :
    Input files expression file text ↔
      readExpression files expression file = .ok text :=
  (describes_readExpression files expression file).ok_iff text

theorem formatWord_iff {settings : Settings}
    (loaded : loadSettings reader files given userPath = .ok settings)
    {request : ListingRequest} {word : Text} :
    FormatWord reader files userPath given request word ↔
      word = request.format.getD settings.format := by
  constructor
  · intro named
    cases named with
    | flag format => rw [format, Option.getD_some]
    | settings absent holds =>
        have same := holds_iff.1 holds
        rw [loaded, Except.ok.injEq] at same
        rw [absent, Option.getD_none, same]
  · rintro rfl
    cases format : request.format with
    | none =>
        rw [Option.getD_none]
        exact .settings format (holds_iff.2 loaded)
    | some word => exact .flag format

/-- The form is that of the flag, else that of the settings. -/
theorem describes_resolveFormat {settings : Settings}
    {request : ListingRequest}
    (listing : invocation.action = .tokens request)
    (loaded : loadSettings reader files given userPath = .ok settings) :
    Describes (resolveFormat (request.format.getD settings.format))
      (fun format => ∃ word,
        FormatWord reader files userPath given request word ∧
          Listing.Format.ofName? word = some format)
      (FaultAt reader files userPath given invocation .format) := by
  have named := (formatWord_iff loaded).2
    (rfl : request.format.getD settings.format = _)
  apply Describes.of_total
  · rintro format ⟨word, word_named, known⟩
    rw [← (formatWord_iff loaded).1 word_named, resolveFormat, known]
  · intro failure fault
    cases fault with
    | @format own word own_listing word_named unknown =>
        rw [listing, Action.tokens.injEq] at own_listing
        subst own_listing
        rw [← (formatWord_iff loaded).1 word_named, resolveFormat, unknown]
  · cases found :
        Listing.Format.ofName? (request.format.getD settings.format) with
    | none => exact Or.inr ⟨_, .format listing named found⟩
    | some format => exact Or.inl ⟨format, _, named, found⟩

/-- The scan is that of the expression. -/
theorem describes_scanned {expression : Text}
    (read :
      readExpression files invocation.expression invocation.file =
        .ok expression) :
    Describes (scanned expression invocation.action.start)
      (fun tokens =>
        scanned expression invocation.action.start = .ok tokens)
      (FaultAt reader files userPath given invocation .scanning) := by
  apply Describes.of_total
  · intro tokens found
    exact found
  · intro failure fault
    cases fault with
    | scanning input fails =>
        have same := input_iff.1 input
        rw [read, Except.ok.injEq] at same
        rw [same]
        exact scanned_eq_error_iff.2 fails
  · cases found : scanned expression invocation.action.start with
    | ok tokens => exact Or.inl ⟨tokens, rfl⟩
    | error failure =>
        have fails := scanned_eq_error_iff.1 found
        exact Or.inr ⟨failure, .scanning (input_iff.2 read) fails⟩

/-! ## The phases together -/

theorem result_perform_of_format {settings : Settings}
    {request : ListingRequest} {failure : Failure} (expression : Text)
    (listing : invocation.action = .tokens request)
    (failed :
      resolveFormat (request.format.getD settings.format) =
        .error failure) :
    (invocation.action.perform settings expression).result =
      .error failure := by
  simp [listing, Action.perform, listTokens, failed, Report.failed]

/-- Where something is at fault, something is at fault first. -/
theorem exists_firstFault {phase : Phase} {failure : Failure}
    (fault : FaultAt reader files userPath given invocation phase failure) :
    ∃ first, FirstFault reader files userPath given invocation first := by
  induction rank : phase.rank using Nat.strong_induction_on
    generalizing phase failure with
  | h rank_value induction =>
      by_cases before :
          ∃ earlier other,
            earlier.rank < phase.rank ∧
              FaultAt reader files userPath given invocation earlier other
      · rcases before with ⟨earlier, other, lower, fault_earlier⟩
        rw [rank] at lower
        exact induction _ lower fault_earlier rfl
      · refine ⟨failure, phase, fault, ?_⟩
        intro earlier other lower fault_earlier
        exact before ⟨earlier, other, lower, fault_earlier⟩

/-- If nothing is at fault, there is something to print. -/
theorem exists_prints
    (sound :
      ∀ phase failure,
        ¬ FaultAt reader files userPath given invocation phase failure) :
    ∃ output, Prints reader files userPath given invocation output := by
  rcases (describes_loadSettings reader files userPath
      given).exists_of_sound
      (fun failure ⟨_, chosen, fault⟩ =>
        sound .settings failure (.settings chosen fault))
    with ⟨settings, holds, loaded⟩
  rcases (describes_readExpression files invocation.expression
      invocation.file).exists_of_sound
      (fun failure fault => sound .expression failure (.expression fault))
    with ⟨expression, input, read⟩
  rcases (describes_scanned read).exists_of_sound (sound .scanning) with
    ⟨tokens, -, found⟩
  cases action : invocation.action with
  | tokens request =>
      rcases (describes_resolveFormat action loaded).exists_of_sound
          (sound .format) with
        ⟨format, ⟨word, named, known⟩, -⟩
      rw [action] at found
      exact ⟨_, .tokens action holds input named known found⟩
  | check start =>
      rw [action] at found
      exact ⟨_, .check action holds input found⟩

/-- Nothing but the chosen file bears on the settings. -/
theorem loadSettings_congr {files' : Files} {userPath' path : Option Text}
    (chosen : Chosen files userPath given path)
    (chosen' : Chosen files' userPath' given path)
    (same : ∀ read ∈ path, files' read = files read) :
    loadSettings reader files' given userPath' =
      loadSettings reader files given userPath := by
  rw [loadSettings, loadSettings, settingsPath?_of_chosen chosen,
    settingsPath?_of_chosen chosen']
  cases path with
  | none => rfl
  | some path =>
      show readSettings reader files' path = readSettings reader files path
      rw [readSettings, readSettings, same path rfl]

theorem readExpression_congr {files' : Files} {expression file : Option Text}
    (same : ∀ read ∈ file, files' read = files read) :
    readExpression files' expression file =
      readExpression files expression file := by
  cases expression <;> cases file with
  | none => rfl
  | some path => simp [readExpression, same path rfl]

theorem succeeded_iff {outcome : Outcome} {output : Text} :
    outcome.exitCode = 0 ∧ outcome.output = output ↔
      outcome.result = .ok output := by
  rw [Outcome.exitCode, Outcome.output]
  cases outcome.result <;> simp

theorem failed_iff {outcome : Outcome} {failure : Failure} :
    outcome.exitCode = 1 ∧ outcome.output = [] ∧
        outcome.result = .error failure ↔
      outcome.result = .error failure := by
  rw [Outcome.exitCode, Outcome.output]
  cases outcome.result <;> simp

/-! ## Runs -/

section

variable (asked : invocation.config = given)

include asked

theorem result_run_of_settings {failure : Failure}
    (failed :
      loadSettings reader files given userPath = .error failure) :
    (invocation.run reader files userPath).result = .error failure := by
  rw [Invocation.run, asked, failed]
  rfl

theorem result_run_of_expression {settings : Settings} {failure : Failure}
    (loaded : loadSettings reader files given userPath = .ok settings)
    (failed :
      readExpression files invocation.expression invocation.file =
        .error failure) :
    (invocation.run reader files userPath).result = .error failure := by
  rw [Invocation.run, asked, loaded]
  simp [Invocation.perform, failed, Report.failed]

theorem result_run_of_input {settings : Settings} {expression : Text}
    (loaded : loadSettings reader files given userPath = .ok settings)
    (read :
      readExpression files invocation.expression invocation.file =
        .ok expression) :
    (invocation.run reader files userPath).result =
      (invocation.action.perform settings expression).result := by
  rw [Invocation.run, asked, loaded]
  simp [Invocation.perform, read, Report.after]

/-- What is printed is the result where nothing is at fault. -/
theorem result_run_of_prints {output : Text}
    (prints : Prints reader files userPath given invocation output) :
    (invocation.run reader files userPath).result = .ok output := by
  cases prints with
  | tokens listing holds input named known found =>
      have loaded := holds_iff.1 holds
      have resolved :=
        ((describes_resolveFormat listing loaded).ok_iff _).1
          ⟨_, named, known⟩
      rw [result_run_of_input asked loaded (input_iff.1 input), listing,
        Action.perform, result_listTokens resolved, found]
      rfl
  | check checking holds input found =>
      rw [result_run_of_input asked (holds_iff.1 holds) (input_iff.1 input),
        checking, Action.perform, result_check, found]
      rfl

/-- The first fault is the result where something is at fault. -/
theorem result_run_of_firstFault {failure : Failure}
    (first : FirstFault reader files userPath given invocation failure) :
    (invocation.run reader files userPath).result = .error failure := by
  rcases first with ⟨phase, fault, earlier⟩
  have loading := describes_loadSettings reader files userPath given
  have reading :=
    describes_readExpression files invocation.expression invocation.file
  -- every phase before the one at fault has a result to go on with
  have loads (behind : Phase.settings.rank < phase.rank) :=
    loading.exists_of_sound fun other found => by
      rcases found with ⟨path, chosen, fault⟩
      exact earlier .settings other behind (.settings chosen fault)
  have reads (behind : Phase.expression.rank < phase.rank) :=
    reading.exists_of_sound fun other found =>
      earlier .expression other behind (.expression found)
  cases phase with
  | settings =>
      cases fault with
      | settings chosen fault =>
          exact
            result_run_of_settings asked
              ((loading.error_iff failure).1 ⟨_, chosen, fault⟩)
  | expression =>
      rcases loads (by decide) with ⟨settings, -, loaded⟩
      cases fault with
      | expression fault =>
          exact
            result_run_of_expression asked loaded
              ((reading.error_iff failure).1 fault)
  | format =>
      rcases loads (by decide) with ⟨settings, -, loaded⟩
      rcases reads (by decide) with ⟨expression, -, read⟩
      rw [result_run_of_input asked loaded read]
      have listing : ∃ request, invocation.action = .tokens request := by
        cases fault with
        | format listing named unknown => exact ⟨_, listing⟩
      rcases listing with ⟨request, listing⟩
      exact
        result_perform_of_format expression listing
          (((describes_resolveFormat listing loaded).error_iff failure).1
            fault)
  | scanning =>
      rcases loads (by decide) with ⟨settings, -, loaded⟩
      rcases reads (by decide) with ⟨expression, -, read⟩
      have failed := ((describes_scanned read).error_iff failure).1 fault
      rw [result_run_of_input asked loaded read]
      cases action : invocation.action with
      | tokens request =>
          rcases (describes_resolveFormat action loaded).exists_of_sound
              (fun other => earlier .format other (by decide)) with
            ⟨format, -, resolved⟩
          rw [action] at failed
          rw [Action.perform, result_listTokens resolved]
          exact congrArg (Except.map _) failed
      | check start =>
          rw [action] at failed
          rw [Action.perform, result_check]
          exact congrArg (Except.map _) failed

variable (reader files userPath) in
theorem describes_run :
    Describes (invocation.run reader files userPath).result
      (Prints reader files userPath given invocation)
      (FirstFault reader files userPath given invocation) := by
  apply Describes.of_total
  · intro output
    exact result_run_of_prints asked
  · intro failure
    exact result_run_of_firstFault asked
  · by_cases faulty :
        ∃ phase failure,
          FaultAt reader files userPath given invocation phase failure
    · rcases faulty with ⟨phase, failure, fault⟩
      exact Or.inr (exists_firstFault fault)
    · simp only [not_exists] at faulty
      exact Or.inl (exists_prints faulty)

/-- Unless a check has too much to count, it does not matter if the counter is
checked. -/
theorem checked_run_of_not_overflows
    (few : ¬ Overflows reader files userPath given invocation) :
    Checked.run reader files userPath invocation =
      .ok (invocation.run reader files userPath) := by
  rw [Checked.run, Invocation.run, asked]
  cases loaded : loadSettings reader files given userPath with
  | error failure => rfl
  | ok settings =>
      dsimp only
      rw [Invocation.perform]
      cases read :
          readExpression files invocation.expression invocation.file with
      | error failure => rfl
      | ok expression =>
          dsimp only
          cases action : invocation.action with
          | tokens request => rfl
          | check start =>
              have countable : Countable expression start := by
                by_contra many
                exact
                  few (.check action (holds_iff.2 loaded) (input_iff.2 read)
                    many)
              rw [Checked.perform, Checked.check_of_countable countable]
              rfl

theorem checked_run_of_overflows
    (many : Overflows reader files userPath given invocation) :
    Checked.run reader files userPath invocation = .error .overflow := by
  cases many with
  | check checking holds input many =>
      rw [Checked.run, asked, holds_iff.1 holds]
      dsimp only
      rw [input_iff.1 input, checking]
      dsimp only
      rw [Checked.perform, Checked.check_of_not_countable many]
      rfl

variable (reader files userPath) in
theorem staged : Staged reader files userPath given invocation where
  succeeds_iff := by
    constructor
    · intro succeeded phase failure fault
      rcases exists_firstFault fault with ⟨first, found⟩
      have failed := failed_iff.2 (result_run_of_firstFault asked found)
      rw [succeeded] at failed
      cases failed.1
    · intro sound
      rcases exists_prints sound with ⟨output, prints⟩
      exact (succeeded_iff.2 (result_run_of_prints asked prints)).1
  prints_iff := by
    intro output
    rw [succeeded_iff]
    exact ((describes_run reader files userPath asked).ok_iff output).symm
  fails_iff := by
    intro failure
    rw [failed_iff]
    exact ((describes_run reader files userPath asked).error_iff failure).symm
  unique_failure := by
    intro failure failure' first first'
    have result := result_run_of_firstFault asked first
    rw [result_run_of_firstFault asked first'] at result
    exact (Except.error.inj result).symm
  chosen := by
    rcases exists_chosen files userPath given with ⟨path, chosen⟩
    refine ⟨path, chosen, ?_⟩
    intro other chosen_other
    rw [← settingsPath?_of_chosen chosen_other,
      settingsPath?_of_chosen chosen]
  alone := by
    intro path chosen files' userPath' chosen' same same_input
    have loads :
        loadSettings reader files' given userPath' =
          loadSettings reader files given userPath :=
      loadSettings_congr chosen chosen' same
    have reads : ∀ settings,
        invocation.perform files' settings =
          invocation.perform files settings := by
      intro settings
      rw [Invocation.perform, Invocation.perform,
        readExpression_congr same_input]
    rw [Invocation.run, Invocation.run, asked, loads]
    simp only [reads]
  checked := checked_run_of_not_overflows asked
  broken_off := checked_run_of_overflows asked

end

end

/-! ## Command lines -/

/-- The name of the variable for the settings file. -/
def settingsVariable : Text :=
  "XPT_CONFIG".toList

/--
What is relied on of a parser of command lines: the settings file that it names
is the value of an option of the command line, and the value of a variable
where the option is not given.
-/
def NamesSettings {Refusal : Type}
    (parse : Environment → List Text → Except Refusal Invocation)
    (option? : List Text → Option Text) : Prop :=
  ∀ environment arguments invocation,
    parse environment arguments = .ok invocation →
      invocation.config =
        (option? arguments <|> environment settingsVariable)

/--
The value of the option for the settings file.  What is given behind the word
for the command wins over what is given in front of it.
-/
def configOption? (arguments : List Text) : Option Text := do
  let (before, rest) ←
    (readArguments .program none .nothing arguments).toOption
  let word ← rest.head?
  let task ← Task.ofWord? word
  let (behind, _) ←
    (readArguments (.command task) none .nothing rest.tail).toOption
  let inner ← behind.settle.toOption
  let outer ← before.settle.toOption
  inner.value? .config <|> outer.value? .config

theorem exists_of_bind_eq_ok {First Second : Type}
    {first : Except Halt First} {next : First → Except Halt Second}
    {second : Second} (done : first >>= next = .ok second) :
    ∃ value, first = .ok value ∧ next value = .ok second := by
  cases first with
  | error halt => cases done
  | ok value => exact ⟨value, rfl, done⟩

/-- The settings file is named by the option or by the variable. -/
theorem namesSettings_parse : NamesSettings parse configOption? := by
  intro environment arguments invocation parsed
  rw [parse] at parsed
  rcases exists_of_bind_eq_ok parsed with ⟨⟨before, read⟩, program, parsed⟩
  cases read with
  | nil => cases parsed
  | cons word rest =>
      dsimp only at parsed
      split at parsed
      · split at parsed <;> cases parsed
      next task task_eq =>
        rcases exists_of_bind_eq_ok parsed with
          ⟨⟨behind, left⟩, command, parsed⟩
        rcases exists_of_bind_eq_ok parsed with ⟨inner, settles_inner, parsed⟩
        rcases exists_of_bind_eq_ok parsed with ⟨_, -, parsed⟩
        rcases exists_of_bind_eq_ok parsed with ⟨outer, settles, parsed⟩
        rcases exists_of_bind_eq_ok parsed with ⟨_, -, parsed⟩
        cases parsed
        have option :
            configOption? arguments =
              (inner.value? .config <|> outer.value? .config) := by
          simp [configOption?, program, task_eq, command, settles,
            settles_inner, Except.toOption]
        change
          (inner.value? .config <|> outer.value? .config <|>
            environment settingsVariable) = _
        rw [option]
        cases inner.value? .config <;> rfl

/--
Whatever a command line asks for, its run goes through the phases in order and
reports the fault of the first phase that has one; it prints the output of its
command if none has.  The settings come from the one chosen file, where the path
on the command line wins over that in the environment, and both win over the
files that are looked for.  So it is with every parser that names the settings
file as it should, and with every reader of settings.
-/
theorem run_staged {Refusal : Type}
    {parse : Environment → List Text → Except Refusal Invocation}
    {option? : List Text → Option Text}
    (names : NamesSettings parse option?)
    {environment : Environment} {arguments : List Text}
    {invocation : Invocation}
    (parsed : parse environment arguments = .ok invocation)
    (reader : SettingsReader) (files : Files) (userPath : Option Text) :
    Staged reader files userPath
      (option? arguments <|> environment settingsVariable) invocation := by
  exact staged reader files userPath
    (names environment arguments invocation parsed)

/--
A settings file that may not be read, with that of the user at hand, and behind
it two expressions and an unknown form.
-/
theorem run_staged_three_faults :
    let files : Files := fun path =>
      if path = settingsName then .unreadable .permissionDenied
      else if path = ['u'] then .file .empty
      else .unreachable .notFound
    let arguments : List Text :=
      ["tokens".toList, "-F".toList, "xml".toList, "-f".toList, ['b'], ['c']]
    let request : ListingRequest := ⟨0, some "xml".toList, false⟩
    let invocation : Invocation :=
      ⟨false, false, none, some ['c'], some ['b'], .tokens request⟩
    let run := invocation.run Settings.read files (some ['u'])
    parse (fun _ => none) arguments = .ok invocation ∧
      FaultAt Settings.read files (some ['u']) none invocation .expression
        .twoExpressions ∧
      FaultAt Settings.read files (some ['u']) none invocation .format
        (.unknownFormat "xml".toList) ∧
      run.exitCode = 1 ∧
      run.output = [] ∧
      run.result = .error (.unreadable .permissionDenied) ∧
      Checked.run Settings.read files (some ['u']) invocation = .ok run := by
  intro files arguments request invocation run
  have parsed : parse (fun _ => none) arguments = .ok invocation := by
    decide
  have first :
      FirstFault Settings.read files (some ['u']) none invocation
        (.unreadable .permissionDenied) :=
    ⟨.settings,
      .settings (.workingDirectory (by decide)) (.unreadable (by decide) rfl),
      fun earlier other lower => absurd lower (Nat.not_lt_zero _)⟩
  have staged :=
    run_staged namesSettings_parse parsed Settings.read files (some ['u'])
  have few : ¬ Overflows Settings.read files (some ['u']) none invocation := by
    rintro ⟨checking⟩
    cases checking
  rcases (staged.fails_iff _).2 first with ⟨code, nothing, result⟩
  exact
    ⟨parsed, .expression (.two ['c'] ['b']),
      .format rfl (.flag rfl) (by decide), code, nothing, result,
      staged.checked few⟩

end Command

end XPathScan
