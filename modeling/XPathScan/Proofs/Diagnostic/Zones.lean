import XPathScan.Proofs.Checked.Diagnostic
import XPathScan.Proofs.Diagnostic.Context

/-!
# Contexts of any span

A span may come from anywhere, with its ends behind the text, in the wrong order
or inside characters.  Clamping brings them into order and into the text, and
then each of the three zones of a context is shown if it lies between two
boundaries and left empty if it does not (`Layout`).  So every span has a
context, which is never longer than 113 characters and says all of a source
whose zones are short (`renderContext_shown`).
-/

namespace XPathScan

namespace Context

/-! ## Trimming -/

/-- What all ways to trim a zone have in common. -/
structure Trims (zone shown : Text) : Prop where
  whole : zone.length ≤ 32 → shown = zone
  length_le : shown.length ≤ 35
  eq_nil : shown = [] → zone = []

section

variable {zone shown : Text}

theorem trims_self (short : zone.length ≤ 32) : Trims zone zone where
  whole := fun _ => rfl
  length_le := Nat.le_trans short (by decide)
  eq_nil := id

/-- Of a long zone 32 characters are kept beside the ellipsis. -/
theorem trims_of_long (long : 32 < zone.length)
    (length : shown.length = 35) : Trims zone shown where
  whole := fun short => absurd long (Nat.not_lt_of_le short)
  length_le := Nat.le_of_eq length
  eq_nil := by
    rintro rfl
    cases length

theorem ShowsEnd.trims (shows : ShowsEnd zone shown) :
    Trims zone shown := by
  cases shows with
  | whole short => exact trims_self short
  | cut long split length => exact trims_of_long long (by simp [length])

theorem ShowsFront.trims (shows : ShowsFront zone shown) :
    Trims zone shown := by
  cases shows with
  | whole short => exact trims_self short
  | cut long split length => exact trims_of_long long (by simp [length])

theorem ShowsEnds.trims (shows : ShowsEnds zone shown) :
    Trims zone shown := by
  cases shows with
  | whole short => exact trims_self short
  | cut long split first_length last_length =>
      exact trims_of_long long (by simp [first_length, last_length])

end

/-! ## Zones -/

/--
What is shown between two offsets of a source: the part between them in some
trimming, or nothing where one of the offsets lies inside a character.
-/
inductive Zoned (shows : Text → Text → Prop) (source : Text)
    (start stop : Nat) : Text → Prop
  | between {front part back shown : Text}
      (whole : source = front ++ (part ++ back))
      (size_front : Text.size front = start)
      (size_part : start + Text.size part = stop)
      (trimmed : shows part shown) :
      Zoned shows source start stop shown
  | inside
      (split : ¬ source.IsBoundary start ∨ ¬ source.IsBoundary stop) :
      Zoned shows source start stop []

section

variable {shows : Text → Text → Prop} {source shown : Text}
  {start stop : Nat}

/-- A zone between offsets in order is shown or left empty. -/
theorem zoned_zone {trim : Text → Text}
    (trimmed : ∀ part, shows part (trim part)) (empty : trim [] = [])
    (source : Text) (order : start ≤ stop) :
    Zoned shows source start stop (trim (zone source start stop)) := by
  cases found : source.slice? start stop with
  | some part =>
      rcases Text.slice?_eq_some_iff.1 found with
        ⟨front, back, whole, size_front, size_part⟩
      rw [zone, found]
      exact .between whole size_front size_part (trimmed part)
  | none =>
      rw [zone, found, Option.getD_none, empty]
      by_cases start_boundary : source.IsBoundary start
      · refine .inside (Or.inr fun stop_boundary => ?_)
        rcases
            Text.exists_slice?_of_isBoundary order start_boundary
              stop_boundary with
          ⟨part, found'⟩
        rw [found] at found'
        cases found'
      · exact .inside (Or.inl start_boundary)

theorem Zoned.length_le
    (trims : ∀ part shown, shows part shown → Trims part shown)
    (zoned : Zoned shows source start stop shown) :
    shown.length ≤ 35 := by
  cases zoned with
  | between whole size_front size_part trimmed =>
      exact (trims _ _ trimmed).length_le
  | inside split => exact Nat.zero_le 35

/-- An offset inside a character empties the zone on either side of it. -/
theorem Zoned.eq_nil_of_split
    (zoned : Zoned shows source start stop shown)
    (split : ¬ source.IsBoundary start ∨ ¬ source.IsBoundary stop) :
    shown = [] := by
  cases zoned with
  | @between front part back _ whole size_front size_part trimmed =>
      have start_boundary : source.IsBoundary start :=
        ⟨front, part ++ back, whole, size_front⟩
      have stop_boundary : source.IsBoundary stop := by
        refine ⟨front ++ part, back, ?_, ?_⟩
        · rw [whole, List.append_assoc]
        · rw [Text.size_append, size_front, size_part]
      rcases split with split | split
      · exact absurd start_boundary split
      · exact absurd stop_boundary split
  | inside => rfl

/-- Nothing is shown between two boundaries only where there is nothing. -/
theorem Zoned.stop_eq_start
    (trims : ∀ part shown, shows part shown → Trims part shown)
    (zoned : Zoned shows source start stop [])
    (start_boundary : source.IsBoundary start)
    (stop_boundary : source.IsBoundary stop) :
    stop = start := by
  cases zoned with
  | between whole size_front size_part trimmed =>
      rw [(trims _ _ trimmed).eq_nil rfl] at size_part
      exact size_part.symm
  | inside split =>
      rcases split with split | split
      · exact absurd start_boundary split
      · exact absurd stop_boundary split

end

/-! ## Layouts -/

/--
How a context is made up of its zones: the middle one stands between two markers
and is left out if the span is empty.
-/
inductive Layout (source : Text) (covered : Span) : Text → Prop
  | unmarked {left right : Text}
      (empty : covered.start = covered.stop)
      (before : Zoned ShowsEnd source 0 covered.start left)
      (behind : Zoned ShowsFront source covered.stop source.size right) :
      Layout source covered (left ++ right)
  | marked {left middle right : Text}
      (filled : covered.start ≠ covered.stop)
      (before : Zoned ShowsEnd source 0 covered.start left)
      (between :
        Zoned ShowsEnds source covered.start covered.stop middle)
      (behind : Zoned ShowsFront source covered.stop source.size right) :
      Layout source covered
        (left ++ (" -->".toList ++ middle ++ "<-- ".toList) ++ right)

section

variable {source context : Text} {covered : Span}

/-- Three zones of 35 characters and two markers of four. -/
theorem Layout.length_le (layout : Layout source covered context) :
    context.length ≤ 113 := by
  cases layout with
  | unmarked empty before behind =>
      have left := before.length_le fun _ _ => ShowsEnd.trims
      have right := behind.length_le fun _ _ => ShowsFront.trims
      rw [List.length_append]
      omega
  | marked filled before between behind =>
      have left := before.length_le fun _ _ => ShowsEnd.trims
      have middle := between.length_le fun _ _ => ShowsEnds.trims
      have right := behind.length_le fun _ _ => ShowsFront.trims
      simp only [List.length_append, String.length_toList]
      have opening : " -->".length = 4 := rfl
      have closing : "<-- ".length = 4 := rfl
      omega

/-- A context of some text is empty only inside a character. -/
theorem Layout.eq_nil_iff (filled : source ≠ [])
    (layout : Layout source covered context) :
    context = [] ↔
      covered.start = covered.stop ∧
        ¬ source.IsBoundary covered.start := by
  cases layout with
  | unmarked empty before behind =>
      constructor
      · intro nothing
        rcases List.append_eq_nil_iff.1 nothing with ⟨rfl, rfl⟩
        refine ⟨empty, fun boundary => filled ?_⟩
        have start :=
          before.stop_eq_start (fun _ _ => ShowsEnd.trims)
            (Text.isBoundary_zero source) boundary
        rw [empty] at start boundary
        have stop :=
          behind.stop_eq_start (fun _ _ => ShowsFront.trims) boundary
            (Text.isBoundary_size source)
        exact Text.eq_nil_of_size_eq_zero (stop.trans start)
      · rintro ⟨-, split⟩
        rw [before.eq_nil_of_split (Or.inr split),
          behind.eq_nil_of_split (Or.inl (empty ▸ split))]
        rfl
  | marked nonempty before between behind =>
      apply iff_of_false
      · simp
      · intro split
        exact nonempty split.1

end

/-! ## Cuts -/

/--
Take out two markers of four characters: one behind so many characters of a
text, and one behind the covered characters that follow.
-/
def unmark (before covered : Nat) (shown : Text) : Text :=
  shown.take before ++
    ((shown.drop (before + 4)).take covered ++
      shown.drop (before + 4 + covered + 4))

theorem unmark_append (before covered behind : Text) :
    unmark before.length covered.length
        (before ++ (" -->".toList ++ covered ++ "<-- ".toList) ++ behind) =
      before ++ (covered ++ behind) := by
  have assembled :
      before ++ (" -->".toList ++ covered ++ "<-- ".toList) ++ behind =
        before ++
          (" -->".toList ++ (covered ++ ("<-- ".toList ++ behind))) := by
    simp only [List.append_assoc]
  have opened :
      (before ++
          (" -->".toList ++ (covered ++ ("<-- ".toList ++ behind)))).drop
          (before.length + 4) =
        covered ++ ("<-- ".toList ++ behind) := by
    rw [← List.drop_drop, List.drop_left]
    rfl
  have closed :
      (before ++
          (" -->".toList ++ (covered ++ ("<-- ".toList ++ behind)))).drop
          (before.length + 4 + covered.length + 4) =
        behind := by
    rw [← List.drop_drop, ← List.drop_drop, opened, List.drop_left]
    rfl
  rw [unmark, assembled, opened, closed, List.take_left, List.take_left]

/-- How a context shows the three parts into which a span cuts a source. -/
structure Parted (before covered behind context : Text) : Prop where
  /-- Without a middle part there are no markers. -/
  unmarked :
    covered = [] →
      ∃ left right,
        ShowsEnd before left ∧ ShowsFront behind right ∧
          context = left ++ right
  marked :
    covered ≠ [] →
      ∃ left middle right,
        ShowsEnd before left ∧ ShowsEnds covered middle ∧
          ShowsFront behind right ∧
          context =
            left ++ (" -->".toList ++ middle ++ "<-- ".toList) ++ right
  /-- Short parts are shown whole, so nothing but the markers is added. -/
  verbatim :
    before.length ≤ 32 → covered.length ≤ 32 → behind.length ≤ 32 →
      (covered = [] → context = before ++ (covered ++ behind)) ∧
        (covered ≠ [] →
          unmark before.length covered.length context =
            before ++ (covered ++ behind))

/-- A span between two boundaries shows the parts into which it cuts. -/
theorem parted_of_split {source before covered behind : Text}
    (whole : source = before ++ (covered ++ behind)) :
    Parted before covered behind
      (renderContext source
        ⟨Text.size before, Text.size before + Text.size covered⟩) := by
  have context := renderContext_of_split whole
  refine
    { unmarked := ?_
      marked := ?_
      verbatim := ?_ }
  · intro empty
    refine
      ⟨_, _, showsEnd_keepEnd before, showsFront_keepFront behind, ?_⟩
    rw [context, if_pos empty, List.append_nil]
  · intro filled
    refine
      ⟨_, _, _, showsEnd_keepEnd before, showsEnds_keepEnds covered,
        showsFront_keepFront behind, ?_⟩
    rw [context, if_neg filled]
    rfl
  · intro short_before short_covered short_behind
    rw [(showsEnd_keepEnd before).trims.whole short_before,
      (showsEnds_keepEnds covered).trims.whole short_covered,
      (showsFront_keepFront behind).trims.whole short_behind] at context
    constructor
    · intro empty
      rw [context, if_pos empty, empty, List.append_nil, List.nil_append]
    · intro filled
      rw [context, if_neg filled]
      exact unmark_append before covered behind

end Context

/-! ## Any span -/

open Context in
theorem layout_renderContext (source : Text) (span : Span) :
    Layout source (span.clampTo source.size)
      (renderContext source span) := by
  have order := span.start_le_stop_clampTo source.size
  have inside := span.stop_clampTo_le source.size
  have before :=
    zoned_zone showsEnd_keepEnd rfl source
      (Nat.zero_le (span.clampTo source.size).start)
  have between := zoned_zone showsEnds_keepEnds rfl source order
  have behind := zoned_zone showsFront_keepFront rfl source inside
  rw [renderContext]
  by_cases empty :
      (span.clampTo source.size).start = (span.clampTo source.size).stop
  · rw [Span.isEmpty, if_pos (beq_iff_eq.2 empty), List.append_nil]
    exact .unmarked empty before behind
  · have nonempty :
        ¬ (span.clampTo source.size).isEmpty = true := by
      rw [Span.isEmpty, beq_iff_eq]
      exact empty
    rw [if_neg nonempty]
    exact .marked empty before between behind

/-- Only the clamped span matters. -/
theorem renderContext_clampTo (source : Text) (span : Span) :
    renderContext source (span.clampTo source.size) =
      renderContext source span := by
  have clamped :
      (span.clampTo source.size).clampTo source.size =
        span.clampTo source.size :=
    Span.clampTo_eq_self (span.start_le_stop_clampTo _)
      (span.stop_clampTo_le _)
  rw [renderContext, renderContext, clamped]

open Context in
/--
Every span has a context, whatever its ends are.  It is the context of the
clamped span, and that of every complaint about the span; it has at most 113
characters, and none only if there is no source or the span is empty and inside
a character.  A span between two boundaries shows the parts into which it cuts
the source, and where an end lies inside a character, the zones on both sides of
it are empty.
-/
theorem renderContext_shown (source : Text) (span : Span) :
    Checked.renderContext source span =
        .ok (renderContext source span) ∧
      renderContext source (span.clampTo source.size) =
        renderContext source span ∧
      (∀ complaint,
        (Anchor.complain ⟨source, span⟩ complaint).context =
          renderContext source span) ∧
      (renderContext source span).length ≤ 113 ∧
      (renderContext source span = [] ↔
        source = [] ∨
          (span.clampTo source.size).isEmpty = true ∧
            ¬ source.IsBoundary (span.clampTo source.size).start) ∧
      (∀ before covered behind,
        source = before ++ (covered ++ behind) →
          Text.size before = (span.clampTo source.size).start →
            Text.size before + Text.size covered =
                (span.clampTo source.size).stop →
              Parted before covered behind
                (renderContext source span)) ∧
      Layout source (span.clampTo source.size)
        (renderContext source span) := by
  have clamped := renderContext_clampTo source span
  have layout := layout_renderContext source span
  refine
    ⟨Checked.renderContext_eq source span, clamped, fun _ => clamped,
      layout.length_le, ?_, ?_, layout⟩
  · by_cases filled : source = []
    · subst filled
      exact iff_of_true (Checked.renderContext_nil span) (Or.inl rfl)
    · rw [layout.eq_nil_iff filled, Span.isEmpty, beq_iff_eq,
        or_iff_right filled]
  · intro before covered behind whole start stop
    have parted := parted_of_split whole
    rwa [stop, start, clamped] at parted

open Context in
/-- A span in the wrong order is clamped into a character of two bytes. -/
theorem renderContext_shown_split :
    renderContext ['a', 'é', 'b'] ⟨9, 2⟩ = [] ∧
      Parted ['a'] ['é'] ['b'] (renderContext ['a', 'é', 'b'] ⟨1, 3⟩) := by
  have laws := renderContext_shown ['a', 'é', 'b']
  have split : ¬ Text.IsBoundary ['a', 'é', 'b'] 2 := by
    rw [Text.isBoundary_iff_exists_splitAt?]
    rintro ⟨front, back, cut⟩
    cases cut
  have nothing := (laws ⟨9, 2⟩).2.2.2.2.1
  have parted := (laws ⟨1, 3⟩).2.2.2.2.2.1
  exact
    ⟨nothing.2 (Or.inr ⟨rfl, split⟩),
      parted ['a'] ['é'] ['b'] rfl rfl rfl⟩

end XPathScan
