import XPathScan.Proofs.Lexeme.Payload
import XPathScan.Proofs.Text.Boundary
import XPathScan.Proofs.Text.Longest
import XPathScan.Scanner.Basic

/-!
# Runs of a scanner

A scanner is started at an offset of a source and stepped any number of times,
over malformed lexemes too.  `Placed` says how a scanner lies in its source:
behind the text that has been scanned stand a gap of blanks, the current
lexeme and the unread text, and the lexeme is what reading at this place
gives.  Starting a scanner establishes this and every step keeps it, so it
holds along every run.  The laws of whole runs are derived from `Placed` and
do not look into the step again.
-/

namespace XPathScan

namespace Scanner

/-! ## Steps -/

/-- The scanner after a number of steps. -/
def advanced (scanner : Scanner) : Nat → Scanner
  | 0 => scanner
  | count + 1 => (advanced scanner count).advance.2

theorem advanced_succ (scanner : Scanner) (count : Nat) :
    scanner.advanced (count + 1) = (scanner.advanced count).next := rfl

theorem advanced_next (scanner : Scanner) (count : Nat) :
    scanner.next.advanced count = scanner.advanced (count + 1) := by
  induction count with
  | zero => rfl
  | succ count induction =>
      rw [advanced_succ, induction, ← advanced_succ]

theorem next_of_eof {scanner : Scanner}
    (ended : scanner.kind = .eof) :
    scanner.next = scanner := by
  rw [next, if_pos ended]

theorem next_of_ne_eof {scanner : Scanner}
    (inside : scanner.kind ≠ .eof) :
    scanner.next =
      seek scanner.source scanner.stop (some scanner.kind)
        scanner.unread := by
  rw [next, if_neg inside]

/-- Every scanner comes to the end, and there is a first time. -/
theorem exists_advanced_eof (scanner : Scanner) :
    ∃ count,
      (scanner.advanced count).kind = .eof ∧
        ∀ earlier < count, (scanner.advanced earlier).kind ≠ .eof := by
  induction scanner using states.induct with
  | case1 scanner ended =>
      exact ⟨0, ended, fun earlier before => by omega⟩
  | case2 scanner inside induction =>
      rcases induction with ⟨count, ended, before⟩
      refine ⟨count + 1, ?_, ?_⟩
      · rw [← advanced_next]
        exact ended
      · intro earlier bound
        cases earlier with
        | zero => exact inside
        | succ earlier =>
            rw [← advanced_next]
            exact before earlier (by omega)

/--
A scanner that has been started at an offset of a source and then stepped any
number of times.
-/
inductive Reached (source : Text) (offset : Nat) : Scanner → Prop
  | start {scanner : Scanner}
      (started : start? source offset = .ok scanner) :
      Reached source offset scanner
  | advance {scanner : Scanner}
      (reached : Reached source offset scanner) :
      Reached source offset scanner.advance.2

theorem Reached.advanced {source : Text} {offset : Nat}
    {scanner : Scanner}
    (reached : Reached source offset scanner) (count : Nat) :
    Reached source offset (scanner.advanced count) := by
  induction count with
  | zero => exact reached
  | succ count induction => exact induction.advance

/-! ## Starting -/

/-- What starting answers where it comes to stand on a scanner. -/
def answer (scanner : Scanner) : Except ScanError Scanner :=
  match scanner.outcome with
  | .ok _ => .ok scanner
  | .error diagnostic => .error (.malformed diagnostic)

theorem diagnostic?_eq_none_iff {scanner : Scanner} :
    scanner.diagnostic? = none ↔ scanner.current.fault = none :=
  Option.map_eq_none_iff

theorem outcome_of_sound {scanner : Scanner}
    (sound : scanner.diagnostic? = none) :
    scanner.outcome = .ok scanner.kind := by
  rw [outcome, sound]

theorem outcome_of_malformed {scanner : Scanner} {diagnostic : Diagnostic}
    (malformed : scanner.diagnostic? = some diagnostic) :
    scanner.outcome = .error diagnostic := by
  rw [outcome, malformed]

theorem answer_of_sound {scanner : Scanner}
    (sound : scanner.diagnostic? = none) :
    answer scanner = .ok scanner := by
  rw [answer, outcome_of_sound sound]

theorem answer_of_malformed {scanner : Scanner} {diagnostic : Diagnostic}
    (malformed : scanner.diagnostic? = some diagnostic) :
    answer scanner = .error (.malformed diagnostic) := by
  rw [answer, outcome_of_malformed malformed]

/-- In front of some text there is nothing else to answer. -/
theorem start?_eq_answer
    {source front unread : Text} {position : Nat}
    (whole : source = front ++ unread)
    (size_front : Text.size front = position)
    (filled : unread ≠ []) :
    start? source position =
      answer (seek source position none unread) := by
  subst whole size_front
  rcases List.exists_cons_of_ne_nil filled with ⟨first, rest, rfl⟩
  rw [start?, Text.splitAt?_append front (first :: rest), answer, outcome]
  dsimp only
  cases
    (seek (front ++ first :: rest) (Text.size front) none
      (first :: rest)).diagnostic? <;> rfl

/-- A scanner is only started in front of some text. -/
theorem eq_seek_of_start? {source : Text} {offset : Nat}
    {scanner : Scanner}
    (started : start? source offset = .ok scanner) :
    ∃ front behind,
      source = front ++ behind ∧ Text.size front = offset ∧
        behind ≠ [] ∧ scanner = seek source offset none behind ∧
        scanner.diagnostic? = none := by
  unfold start? at started
  split at started
  next front first behind cut =>
    rcases Text.eq_append_of_splitAt? cut with ⟨whole, length⟩
    dsimp only at started
    split at started
    next => simp at started
    next sound =>
      have same := Except.ok.inj started
      subst same
      exact
        ⟨front, first :: behind, whole, length,
          List.cons_ne_nil first behind, rfl, sound⟩
  next => simp at started

/-- Only in front of some text can a scanner start. -/
theorem start?_eq_outOfRange_iff (source : Text) (offset : Nat) :
    start? source offset =
        .error (.outOfRange offset (Text.size source)) ↔
      Text.size source ≤ offset ∨ ¬ Text.IsBoundary source offset := by
  cases cut : Text.splitAt? source offset with
  | none =>
      have refused :
          start? source offset =
            .error (.outOfRange offset (Text.size source)) := by
        rw [start?, cut]
      have outside : ¬ Text.IsBoundary source offset := by
        rw [Text.isBoundary_iff_exists_splitAt?, cut]
        rintro ⟨front, back, found⟩
        cases found
      exact iff_of_true refused (Or.inr outside)
  | some parts =>
      rcases parts with ⟨front, unread⟩
      rcases Text.eq_append_of_splitAt? cut with ⟨whole, size_front⟩
      cases unread with
      | nil =>
          have refused :
              start? source offset =
                .error (.outOfRange offset (Text.size source)) := by
            rw [start?, cut]
          rw [List.append_nil] at whole
          rw [← whole] at size_front
          exact iff_of_true refused (Or.inl (Nat.le_of_eq size_front))
      | cons first rest =>
          have size_source := congrArg Text.size whole
          have positive := first.utf8Size_pos
          rw [Text.size_append, Text.size_cons] at size_source
          apply iff_of_false
          · rw [start?_eq_answer whole size_front (List.cons_ne_nil _ _),
              answer]
            split <;> simp
          · rintro (outside | outside)
            · omega
            · exact outside ⟨front, first :: rest, whole, size_front⟩

/-- At the front of a text a scanner is started unless it is malformed. -/
theorem start?_zero_eq_ok_iff {source : Text} {scanner : Scanner} :
    start? source 0 = .ok scanner ↔
      source ≠ [] ∧ scanner = seek source 0 none source ∧
        scanner.diagnostic? = none := by
  constructor
  · intro started
    rcases eq_seek_of_start? started with
      ⟨front, unread, whole, size_front, filled, standing, sound⟩
    have nothing := Text.eq_nil_of_size_eq_zero size_front
    rw [nothing, List.nil_append] at whole
    rw [← whole] at filled standing
    exact ⟨filled, standing, sound⟩
  · rintro ⟨filled, rfl, sound⟩
    have alone : source = [] ++ source := rfl
    rw [start?_eq_answer alone Text.size_nil filled]
    exact answer_of_sound sound

/-- Seeking skips the blanks in front and reads the lexeme behind them. -/
theorem seek_append
    {gap rest : Text} (source : Text) (position : Nat)
    (previous : Option Kind)
    (gap_blank : ∀ character ∈ gap, isBlank character = true)
    (no_blank : ∀ first ∈ rest.head?, isBlank first = false) :
    seek source position previous (gap ++ rest) =
      { source := source
        previousStop := position
        previousKind := previous
        start := position + Text.size gap
        current := (Lexeme.read previous rest).1
        unread := (Lexeme.read previous rest).2 } := by
  rw [seek, Text.takeWhile_append_of_head? gap_blank no_blank,
    Text.dropWhile_append_of_head? gap_blank no_blank]

/-! ## The place of a scanner -/

/-- The text between the lexeme before and the current one. -/
def gap? (scanner : Scanner) : Option Text :=
  scanner.source.slice? scanner.previousStop scanner.start

/-- The text over which the span of the current lexeme lies. -/
def lexeme? (scanner : Scanner) : Option Text :=
  scanner.span.slice? scanner.source

/--
How a scanner lies in its source: `front` has been scanned, `gap` has been
skipped, and the current lexeme is what stands in front of the unread text.
-/
structure Placed
    (source : Text) (offset : Nat) (scanner : Scanner)
    (front gap : Text) : Prop where
  source_eq : scanner.source = source
  whole :
    source = front ++ (gap ++ (scanner.current.text ++ scanner.unread))
  previousStop_eq : scanner.previousStop = Text.size front
  start_eq : scanner.start = Text.size front + Text.size gap
  offset_le : offset ≤ Text.size front
  gap_blank : ∀ character ∈ gap, isBlank character = true
  ahead_not_blank :
    ∀ character ∈ (scanner.current.text ++ scanner.unread).head?,
      isBlank character = false
  read_eq :
    Lexeme.read scanner.previousKind
        (scanner.current.text ++ scanner.unread) =
      (scanner.current, scanner.unread)

/-- Seeking behind some text places the scanner there. -/
theorem placed_seek
    {source front unread : Text} {offset position : Nat}
    (previous : Option Kind)
    (whole : source = front ++ unread)
    (size_front : Text.size front = position)
    (offset_le : offset ≤ position) :
    Placed source offset (seek source position previous unread)
      front (unread.takeWhile isBlank) := by
  subst size_front
  have loses_nothing :
      (seek source (Text.size front) previous unread).current.text ++
          (seek source (Text.size front) previous unread).unread =
        unread.dropWhile isBlank :=
    Lexeme.text_append_read previous (unread.dropWhile isBlank)
  have splits :
      unread.takeWhile isBlank ++ unread.dropWhile isBlank = unread :=
    List.takeWhile_append_dropWhile
  exact
    { source_eq := rfl
      whole := by rw [loses_nothing, splits, whole]
      previousStop_eq := rfl
      start_eq := rfl
      offset_le := offset_le
      gap_blank := fun character member =>
        List.mem_takeWhile_imp member
      ahead_not_blank := by
        rw [loses_nothing]
        exact Text.head?_dropWhile_eq_false isBlank unread
      read_eq := by
        rw [loses_nothing]
        rfl }

namespace Placed

variable {source front gap : Text} {offset : Nat} {scanner : Scanner}

theorem stop_eq (placed : Placed source offset scanner front gap) :
    scanner.stop =
      Text.size (front ++ (gap ++ scanner.current.text)) := by
  rw [stop, placed.start_eq, size, Text.size_append, Text.size_append]
  exact Nat.add_assoc _ _ _

/-- The source, cut behind the current lexeme. -/
theorem whole_at_stop
    (placed : Placed source offset scanner front gap) :
    source =
      (front ++ (gap ++ scanner.current.text)) ++ scanner.unread := by
  simpa only [List.append_assoc] using placed.whole

theorem gap?_eq (placed : Placed source offset scanner front gap) :
    scanner.gap? = some gap := by
  rw [gap?, placed.source_eq, placed.previousStop_eq,
    placed.start_eq, Text.slice?_eq_some_iff]
  exact
    ⟨front, scanner.current.text ++ scanner.unread, placed.whole,
      rfl, rfl⟩

theorem lexeme?_eq
    (placed : Placed source offset scanner front gap) :
    scanner.lexeme? = some scanner.current.text := by
  change scanner.source.slice? scanner.start scanner.stop = _
  rw [placed.source_eq, Text.slice?_eq_some_iff]
  refine ⟨front ++ gap, scanner.unread, ?_, ?_, rfl⟩
  · rw [List.append_assoc]
    exact placed.whole
  · rw [Text.size_append]
    exact placed.start_eq.symm

/-- The unread text is the part of the source behind the lexeme. -/
theorem splitAt?_stop
    (placed : Placed source offset scanner front gap) :
    source.splitAt? scanner.stop =
      some (front ++ (gap ++ scanner.current.text), scanner.unread) :=
  Text.splitAt?_eq_some_iff.2
    ⟨placed.whole_at_stop, placed.stop_eq.symm⟩

theorem stop_le_size
    (placed : Placed source offset scanner front gap) :
    scanner.stop ≤ Text.size source := by
  have total := congrArg Text.size placed.whole_at_stop
  rw [Text.size_append, ← placed.stop_eq] at total
  omega

theorem offset_le_stop
    (placed : Placed source offset scanner front gap) :
    offset ≤ scanner.stop := by
  rw [placed.stop_eq, Text.size_append]
  exact Nat.le_add_right_of_le placed.offset_le

/-- A step that is made places the scanner behind the lexeme. -/
theorem next
    (placed : Placed source offset scanner front gap)
    (inside : scanner.kind ≠ .eof) :
    Placed source offset scanner.next
      (front ++ (gap ++ scanner.current.text))
      (scanner.unread.takeWhile isBlank) := by
  rw [next_of_ne_eof inside, placed.source_eq]
  exact
    placed_seek (some scanner.kind) placed.whole_at_stop
      placed.stop_eq.symm placed.offset_le_stop

/-- Only behind all text does a scanner stand on the end. -/
theorem kind_eq_eof_iff
    (placed : Placed source offset scanner front gap) :
    scanner.kind = .eof ↔
      scanner.current.text ++ scanner.unread = [] := by
  have decided :=
    Lexeme.kind_read_eq_eof_iff scanner.previousKind
      (scanner.current.text ++ scanner.unread)
  rw [placed.read_eq] at decided
  exact decided

/-- The end is the lexeme that carries nothing. -/
theorem current_of_eof
    (placed : Placed source offset scanner front gap)
    (ended : scanner.kind = .eof) :
    scanner.current = Lexeme.eof := by
  have read := placed.read_eq
  rw [placed.kind_eq_eof_iff.1 ended] at read
  exact (congrArg Prod.fst read).symm

/-- A lexeme without characters is the end. -/
theorem text_eq_nil_iff
    (placed : Placed source offset scanner front gap) :
    scanner.current.text = [] ↔ scanner.kind = .eof := by
  constructor
  · intro empty
    rw [placed.kind_eq_eof_iff]
    cases ahead : scanner.current.text ++ scanner.unread with
    | nil => rfl
    | cons first behind =>
        have filled :=
          Lexeme.text_read_ne_nil scanner.previousKind first behind
        rw [← ahead, placed.read_eq] at filled
        exact (filled empty).elim
  · intro ended
    rw [placed.current_of_eof ended]
    rfl

/-- The span of a placed scanner needs no clamping. -/
theorem clampTo_span
    (placed : Placed source offset scanner front gap) :
    scanner.span.clampTo (Text.size source) = scanner.span :=
  Span.clampTo_eq_self (Nat.le_add_right _ _) placed.stop_le_size

theorem complain_eq
    (placed : Placed source offset scanner front gap)
    (complaint : Complaint) :
    scanner.anchor.complain complaint =
      ⟨complaint, source, scanner.span⟩ := by
  rw [Anchor.complain, anchor, placed.source_eq, placed.clampTo_span]

theorem diagnostic?_eq
    (placed : Placed source offset scanner front gap) :
    scanner.diagnostic? =
      scanner.current.fault.map fun fault =>
        ⟨fault.complaint, source, scanner.span⟩ := by
  simp only [diagnostic?, placed.complain_eq]

/-- What the step onto a placed scanner tells. -/
theorem outcome_eq
    (placed : Placed source offset scanner front gap) :
    scanner.outcome =
      match scanner.current.fault with
      | some fault => .error ⟨fault.complaint, source, scanner.span⟩
      | none => .ok scanner.kind := by
  rw [outcome, placed.diagnostic?_eq]
  cases scanner.current.fault <;> rfl

/-- What the current lexeme carries goes with its kind. -/
theorem carries (placed : Placed source offset scanner front gap) :
    Carries scanner.kind scanner.current.payload := by
  have carries :=
    Lexeme.carries_read scanner.previousKind
      (scanner.current.text ++ scanner.unread)
  rw [placed.read_eq] at carries
  exact carries

end Placed

/-- A started scanner is placed at the offset. -/
theorem placed_of_start? {source : Text} {offset : Nat}
    {scanner : Scanner}
    (started : start? source offset = .ok scanner) :
    ∃ front gap,
      Placed source offset scanner front gap ∧
        Text.size front = offset := by
  rcases eq_seek_of_start? started with ⟨front, behind, whole, rfl, -, rfl, -⟩
  exact ⟨front, _, placed_seek none whole rfl (Nat.le_refl _), rfl⟩

/-- Every step keeps a scanner placed. -/
theorem exists_placed_next {source front gap : Text} {offset : Nat}
    {scanner : Scanner}
    (placed : Placed source offset scanner front gap) :
    ∃ front gap, Placed source offset scanner.next front gap := by
  by_cases ended : scanner.kind = .eof
  · rw [next_of_eof ended]
    exact ⟨front, gap, placed⟩
  · exact ⟨_, _, placed.next ended⟩

theorem Placed.exists_advanced {source front gap : Text} {offset : Nat}
    {scanner : Scanner}
    (placed : Placed source offset scanner front gap) (count : Nat) :
    ∃ front gap,
      Placed source offset (scanner.advanced count) front gap := by
  induction count with
  | zero => exact ⟨front, gap, placed⟩
  | succ count induction =>
      rcases induction with ⟨front, gap, here⟩
      exact exists_placed_next here

/-- Every scanner on a run is placed. -/
theorem Reached.exists_placed {source : Text} {offset : Nat}
    {scanner : Scanner}
    (reached : Reached source offset scanner) :
    ∃ front gap, Placed source offset scanner front gap := by
  induction reached with
  | start started =>
      rcases placed_of_start? started with ⟨front, gap, placed, -⟩
      exact ⟨front, gap, placed⟩
  | advance reached induction =>
      rcases induction with ⟨front, gap, placed⟩
      exact exists_placed_next placed

end Scanner

end XPathScan
