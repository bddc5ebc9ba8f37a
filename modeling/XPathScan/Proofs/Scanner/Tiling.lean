import XPathScan.Proofs.Scanner.Run

/-!
# Lossless tiling

Gaps and lexemes of a run lie side by side in the source.  `Tile` collects
what holds at a single scanner: the order of the offsets, their being
boundaries, blanks in the gap and none in front of the lexeme, and that the
end is the only lexeme without characters.  `Tiled` says that every scanner of
a run is such a tile, that each tile begins where the one before it stops, and
that the tiles up to any scanner, and so up to the end, make up the source
from the offset on; `tiled_of_start?` says that this holds of every run.
-/

namespace XPathScan

namespace Scanner

/-- How gap and lexeme of a scanner lie in its source. -/
structure Tile (offset : Nat) (scanner : Scanner) : Prop where
  offset_le : offset ≤ scanner.previousStop
  previousStop_le : scanner.previousStop ≤ scanner.start
  start_le : scanner.start ≤ scanner.start + scanner.size
  stop_le : scanner.start + scanner.size ≤ Text.size scanner.source
  previousStop_boundary : scanner.source.IsBoundary scanner.previousStop
  start_boundary : scanner.source.IsBoundary scanner.start
  stop_boundary :
    scanner.source.IsBoundary (scanner.start + scanner.size)
  /-- Only blanks are skipped. -/
  gap_blank :
    ∃ gap, scanner.gap? = some gap ∧
      ∀ character ∈ gap, isBlank character = true
  /-- All blanks are skipped. -/
  start_not_blank :
    ∀ front first behind,
      scanner.source.splitAt? scanner.start =
          some (front, first :: behind) →
        isBlank first = false
  size_eq_zero_iff : scanner.size = 0 ↔ scanner.kind = .eof
  kind_eq_eof_iff :
    scanner.kind = .eof ↔ scanner.start = Text.size scanner.source

namespace Placed

variable {source front gap : Text} {offset : Nat} {scanner : Scanner}

/-- The source, cut in front of the current lexeme. -/
theorem whole_at_start
    (placed : Placed source offset scanner front gap) :
    source =
      (front ++ gap) ++ (scanner.current.text ++ scanner.unread) := by
  simpa only [List.append_assoc] using placed.whole

theorem size_front_append_gap
    (placed : Placed source offset scanner front gap) :
    Text.size (front ++ gap) = scanner.start := by
  rw [Text.size_append]
  exact placed.start_eq.symm

/-- The end is reached exactly where the source is used up. -/
theorem kind_eq_eof_iff_start
    (placed : Placed source offset scanner front gap) :
    scanner.kind = .eof ↔ scanner.start = Text.size source := by
  have total := congrArg Text.size placed.whole_at_start
  rw [Text.size_append, placed.size_front_append_gap] at total
  rw [placed.kind_eq_eof_iff]
  constructor
  · intro ended
    rw [ended, Text.size_nil] at total
    omega
  · intro ended
    apply Text.eq_nil_of_size_eq_zero
    omega

theorem size_eq_zero_iff
    (placed : Placed source offset scanner front gap) :
    scanner.size = 0 ↔ scanner.kind = .eof := by
  rw [← placed.text_eq_nil_iff]
  constructor
  · intro empty
    exact Text.eq_nil_of_size_eq_zero empty
  · intro empty
    rw [size, empty]
    rfl

/-- A placed scanner is a tile. -/
theorem tile (placed : Placed source offset scanner front gap) :
    Tile offset scanner where
  offset_le := by
    rw [placed.previousStop_eq]
    exact placed.offset_le
  previousStop_le := by
    rw [placed.previousStop_eq, placed.start_eq]
    exact Nat.le_add_right _ _
  start_le := Nat.le_add_right _ _
  stop_le := by
    rw [placed.source_eq]
    exact placed.stop_le_size
  previousStop_boundary := by
    rw [placed.source_eq]
    exact ⟨front, _, placed.whole, placed.previousStop_eq.symm⟩
  start_boundary := by
    rw [placed.source_eq]
    exact
      ⟨front ++ gap, _, placed.whole_at_start,
        placed.size_front_append_gap⟩
  stop_boundary := by
    rw [placed.source_eq]
    exact ⟨_, scanner.unread, placed.whole_at_stop, placed.stop_eq.symm⟩
  gap_blank := ⟨gap, placed.gap?_eq, placed.gap_blank⟩
  start_not_blank := by
    intro before first behind cut
    have found :
        source.splitAt? scanner.start =
          some (front ++ gap, scanner.current.text ++ scanner.unread) :=
      Text.splitAt?_eq_some_iff.2
        ⟨placed.whole_at_start, placed.size_front_append_gap⟩
    rw [placed.source_eq, found] at cut
    simp only [Option.some.injEq, Prod.mk.injEq] at cut
    apply placed.ahead_not_blank
    rw [cut.2]
    rfl
  size_eq_zero_iff := placed.size_eq_zero_iff
  kind_eq_eof_iff := by
    rw [placed.source_eq]
    exact placed.kind_eq_eof_iff_start

/-- At the end a step tells the end and moves nothing. -/
theorem advance_of_eof
    (placed : Placed source offset scanner front gap)
    (ended : scanner.kind = .eof) :
    scanner.advance = (.ok .eof, scanner) := by
  rw [advance, next_of_eof ended, placed.outcome_eq,
    placed.current_of_eof ended, ended]
  rfl

end Placed

/--
The gaps and lexemes of the first scanners of a run, each one found in the
source.
-/
def FirstPieces
    (first : Scanner) (count : Nat) (pieces : List (Text × Text)) :
    Prop :=
  (List.range count).map
      (fun step =>
        ((first.advanced step).gap?, (first.advanced step).lexeme?)) =
    pieces.map fun piece => (some piece.1, some piece.2)

/-- Gaps and lexemes one after the other. -/
def assemble (pieces : List (Text × Text)) : Text :=
  pieces.flatMap fun piece => piece.1 ++ piece.2

theorem assemble_concat
    (pieces : List (Text × Text)) (gap lexeme : Text) :
    assemble (pieces ++ [(gap, lexeme)]) =
      assemble pieces ++ (gap ++ lexeme) := by
  simp [assemble]

/-- One more scanner adds its own gap and lexeme. -/
theorem FirstPieces.concat
    {source front gap : Text} {offset count : Nat} {first : Scanner}
    {pieces : List (Text × Text)}
    (before : FirstPieces first count pieces)
    (here : Placed source offset (first.advanced count) front gap) :
    FirstPieces first (count + 1)
      (pieces ++ [(gap, (first.advanced count).current.text)]) := by
  unfold FirstPieces at *
  rw [List.range_succ, List.map_append, List.map_append, before]
  simp [here.gap?_eq, here.lexeme?_eq]

/--
The pieces in front of a scanner of a run make up the source from the place of
the first scanner on.
-/
theorem exists_firstPieces
    {source start gap : Text} {offset : Nat} {first : Scanner}
    (placed : Placed source offset first start gap)
    (count : Nat)
    (inside :
      ∀ earlier < count, (first.advanced earlier).kind ≠ .eof) :
    ∃ pieces gap,
      FirstPieces first count pieces ∧
        Placed source offset (first.advanced count)
          (start ++ assemble pieces) gap := by
  induction count with
  | zero =>
      refine ⟨[], gap, rfl, ?_⟩
      simpa [assemble, advanced] using placed
  | succ count induction =>
      rcases induction fun earlier bound => inside earlier (by omega) with
        ⟨pieces, gap, before, here⟩
      have later := here.next (inside count (by omega))
      rw [List.append_assoc, ← assemble_concat] at later
      exact ⟨_, _, before.concat here, later⟩

/--
How the scanners of a run from `first` on tile the source from the offset on.
A scanner that reports a malformed lexeme is a tile like any other.
-/
structure Tiled
    (source : Text) (offset : Nat) (first : Scanner) : Prop where
  offset_boundary : source.IsBoundary offset
  previousStop_eq : first.previousStop = offset
  source_eq : ∀ count, (first.advanced count).source = source
  tile : ∀ count, Tile offset (first.advanced count)
  /-- Each tile begins where the one before it stops. -/
  adjacent :
    ∀ count,
      (first.advanced count).kind ≠ .eof →
        (first.advanced (count + 1)).previousStop =
          (first.advanced count).start + (first.advanced count).size
  /-- At the end nothing moves. -/
  still :
    ∀ count,
      (first.advanced count).kind = .eof →
        (first.advanced count).advance =
          (.ok .eof, first.advanced count)
  /-- The tiles up to any scanner make up the source up to there. -/
  rebuilt :
    ∀ count,
      (∀ earlier < count, (first.advanced earlier).kind ≠ .eof) →
        ∃ pieces,
          FirstPieces first (count + 1) pieces ∧
            source.slice? offset (first.advanced count).stop =
              some (assemble pieces)
  /-- The end is reached, and the tiles make up all of the source. -/
  complete :
    ∃ count pieces,
      (∀ earlier < count, (first.advanced earlier).kind ≠ .eof) ∧
        (first.advanced count).kind = .eof ∧
        FirstPieces first (count + 1) pieces ∧
        source.slice? offset (Text.size source) = some (assemble pieces)

/-- The tiles up to a scanner of a run make up the source up to there. -/
theorem exists_rebuilt
    {source front gap : Text} {offset : Nat} {first : Scanner}
    (placed : Placed source offset first front gap)
    (atOffset : Text.size front = offset)
    (count : Nat)
    (inside :
      ∀ earlier < count, (first.advanced earlier).kind ≠ .eof) :
    ∃ pieces,
      FirstPieces first (count + 1) pieces ∧
        source.slice? offset (first.advanced count).stop =
          some (assemble pieces) := by
  rcases exists_firstPieces placed count inside with
    ⟨pieces, gap, before, here⟩
  refine ⟨_, before.concat here, ?_⟩
  rw [Text.slice?_eq_some_iff]
  refine ⟨front, (first.advanced count).unread, ?_, atOffset, ?_⟩
  · rw [assemble_concat]
    simpa only [List.append_assoc] using here.whole
  · rw [here.stop_eq, assemble_concat, ← atOffset, ← Text.size_append,
      List.append_assoc]

/-- Wherever scanning starts, its scanners tile the source from there on. -/
theorem tiled_of_start?
    {source : Text} {offset : Nat} {first : Scanner}
    (started : start? source offset = .ok first) :
    Tiled source offset first := by
  rcases placed_of_start? started with ⟨front, gap, placed, atOffset⟩
  have exists_placed :
      ∀ count, ∃ front gap,
        Placed source offset (first.advanced count) front gap :=
    fun count => ((Reached.start started).advanced count).exists_placed
  have rebuilt := exists_rebuilt placed atOffset
  refine
    { offset_boundary := ⟨front, _, placed.whole, atOffset⟩
      previousStop_eq := placed.previousStop_eq.trans atOffset
      source_eq := ?_
      tile := ?_
      adjacent := ?_
      still := ?_
      rebuilt := rebuilt
      complete := ?_ }
  · intro count
    rcases exists_placed count with ⟨front, gap, here⟩
    exact here.source_eq
  · intro count
    rcases exists_placed count with ⟨front, gap, here⟩
    exact here.tile
  · intro count inside
    rw [advanced_succ, next_of_ne_eof inside]
    rfl
  · intro count ended
    rcases exists_placed count with ⟨front, gap, here⟩
    exact here.advance_of_eof ended
  · rcases exists_advanced_eof first with ⟨count, ended, inside⟩
    rcases rebuilt count inside with ⟨pieces, before, whole⟩
    rcases exists_placed count with ⟨_, _, here⟩
    have stop : (first.advanced count).stop = Text.size source := by
      rw [Scanner.stop, here.size_eq_zero_iff.2 ended, Nat.add_zero]
      exact here.kind_eq_eof_iff_start.1 ended
    rw [stop] at whole
    exact ⟨count, pieces, inside, ended, before, whole⟩

/-- A run from behind a character of two bytes, over a string left open. -/
theorem tiled_over_fault :
    ∃ first,
      start? ['é', ' ', 'a', '\n', '\'', 'ü'] 2 = .ok first ∧
        first.advance.1 =
          .error
            ⟨.unclosedString, ['é', ' ', 'a', '\n', '\'', 'ü'],
              ⟨5, 8⟩⟩ ∧
        Tiled ['é', ' ', 'a', '\n', '\'', 'ü'] 2 first :=
  ⟨_, rfl, rfl, tiled_of_start? rfl⟩

end Scanner

end XPathScan
