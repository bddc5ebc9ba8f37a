import XPathScan.Diagnostic.Context
import XPathScan.Proofs.Text.Boundary

/-!
# Contexts of cuts

A span between two boundaries cuts its text in three, and its context shows the
three parts.  `ShowsEnd`, `ShowsFront` and `ShowsEnds` say which characters of
a part are shown if it has too many of them, without the arithmetic by which
they are found.
-/

namespace XPathScan

namespace Context

/-! ## Zones -/

/-- A zone is shown up to its end, and whole if it is short enough. -/
inductive ShowsEnd (zone : Text) : Text → Prop
  | whole (short : zone.length ≤ 32) : ShowsEnd zone zone
  | cut {dropped kept : Text}
      (long : 32 < zone.length)
      (split : zone = dropped ++ kept)
      (length : kept.length = 32) :
      ShowsEnd zone (['.', '.', '.'] ++ kept)

/-- A zone is shown from its front on, and whole if it is short enough. -/
inductive ShowsFront (zone : Text) : Text → Prop
  | whole (short : zone.length ≤ 32) : ShowsFront zone zone
  | cut {kept dropped : Text}
      (long : 32 < zone.length)
      (split : zone = kept ++ dropped)
      (length : kept.length = 32) :
      ShowsFront zone (kept ++ ['.', '.', '.'])

/-- A zone is shown at both ends, and whole if it is short enough. -/
inductive ShowsEnds (zone : Text) : Text → Prop
  | whole (short : zone.length ≤ 32) : ShowsEnds zone zone
  | cut {first dropped last : Text}
      (long : 32 < zone.length)
      (split : zone = first ++ (dropped ++ last))
      (first_length : first.length = 16)
      (last_length : last.length = 16) :
      ShowsEnds zone (first ++ ['.', '.', '.'] ++ last)

theorem showsEnd_keepEnd (zone : Text) : ShowsEnd zone (keepEnd zone) := by
  unfold keepEnd
  split
  next short => exact .whole short
  next long =>
    rw [Nat.not_le] at long
    refine .cut long (List.take_append_drop _ _).symm ?_
    rw [List.length_drop]
    exact Nat.sub_sub_self (Nat.le_of_lt long)

theorem showsFront_keepFront (zone : Text) :
    ShowsFront zone (keepFront zone) := by
  unfold keepFront
  split
  next short => exact .whole short
  next long =>
    rw [Nat.not_le] at long
    refine .cut long (List.take_append_drop zoneLength zone).symm ?_
    rw [List.length_take]
    exact Nat.min_eq_left (Nat.le_of_lt long)

theorem showsEnds_keepEnds (zone : Text) :
    ShowsEnds zone (keepEnds zone) := by
  have half : zoneLength / 2 = 16 := rfl
  rw [keepEnds, half]
  split
  next short => exact .whole short
  next long =>
    rw [Nat.not_le, zoneLength] at long
    -- The two ends do not overlap, so the rest lies between them.
    have last :
        zone.drop (zone.length - 16) =
          (zone.drop 16).drop (zone.length - 32) := by
      rw [List.drop_drop]
      congr 1
      omega
    have split :
        zone =
          zone.take 16 ++
            ((zone.drop 16).take (zone.length - 32) ++
              zone.drop (zone.length - 16)) := by
      rw [last, List.take_append_drop, List.take_append_drop]
    refine .cut long split ?_ ?_
    · rw [List.length_take]
      omega
    · rw [List.length_drop]
      omega

/-! ## Spans -/

theorem zone_of_split {source front part back : Text}
    (whole : source = front ++ (part ++ back)) :
    zone source (Text.size front) (Text.size front + Text.size part) =
      part := by
  rw [zone, whole, Text.slice?_append]
  rfl

end Context

open Context in
/-- The context of a span between two boundaries shows the three parts. -/
theorem renderContext_of_split {source front covered behind : Text}
    (whole : source = front ++ (covered ++ behind)) :
    renderContext source
        ⟨Text.size front, Text.size front + Text.size covered⟩ =
      keepEnd front ++
          (if covered = [] then
            []
          else
            openMark ++ keepEnds covered ++ closeMark) ++
        keepFront behind := by
  have total := congrArg Text.size whole
  rw [Text.size_append, Text.size_append] at total
  have clamped :
      Span.clampTo ⟨Text.size front, Text.size front + Text.size covered⟩
          source.size =
        ⟨Text.size front, Text.size front + Text.size covered⟩ := by
    apply Span.clampTo_eq_self
    · exact Nat.le_add_right _ _
    · dsimp only
      omega
  have before : zone source 0 (Text.size front) = front := by
    have found := @zone_of_split source [] front (covered ++ behind) whole
    rwa [Text.size_nil, Nat.zero_add] at found
  have after :
      zone source (Text.size front + Text.size covered) source.size =
        behind := by
    have found :=
      @zone_of_split source (front ++ covered) behind [] (by simp [whole])
    rwa [Text.size_append, Nat.add_assoc, ← total] at found
  have empty :
      Span.isEmpty
          ⟨Text.size front, Text.size front + Text.size covered⟩ = true ↔
        covered = [] := by
    rw [Span.isEmpty, beq_iff_eq, Nat.left_eq_add]
    exact ⟨Text.eq_nil_of_size_eq_zero, fun none => none ▸ rfl⟩
  rw [renderContext, clamped]
  simp only [before, after, zone_of_split whole, empty]

end XPathScan
