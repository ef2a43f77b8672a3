import Reckoner.Log.Rotation

/-!
# Whole lines in a trimmed log

The recent bytes of a log may start inside a line. If they hold a line feed, they are kept from
behind the first one on, and so start with a line. If they hold none, they are all kept: they are
the end of a line that is longer than they are, unless they happen to start right behind the line
feed before them.
-/

namespace Reckoner

namespace Log

namespace Rotation

/-- Whether what follows a part of a log starts with a line: the part is empty, or a line feed ends
it. -/
def EndsLine (part : List UInt8) : Prop := part = [] ∨ part.getLast? = some lineFeed

instance (part : List UInt8) : Decidable (EndsLine part) := by
  unfold EndsLine
  infer_instance

theorem exists_line_of_mem {bytes : List UInt8} (member : lineFeed ∈ bytes) :
    ∃ line, lineFeed ∉ line ∧
      bytes = line ++ lineFeed :: (bytes.dropWhile (· != lineFeed)).drop 1 := by
  induction bytes with
  | nil => contradiction
  | cons byte bytes ih =>
      by_cases isLineFeed : byte = lineFeed
      · exact ⟨[], List.not_mem_nil, by simp [isLineFeed]⟩
      · rcases ih (List.mem_of_ne_of_mem (Ne.symm isLineFeed) member) with ⟨line, noLineFeed, parts⟩
        refine ⟨byte :: line, ?_, ?_⟩
        · rw [List.mem_cons, not_or]
          exact ⟨Ne.symm isLineFeed, noLineFeed⟩
        · have drops : (byte :: bytes).dropWhile (· != lineFeed) =
              bytes.dropWhile (· != lineFeed) := by
            simp [isLineFeed]
          rw [drops, List.cons_append, ← parts]

/-- What survives is the whole log, or what follows the first line feed of the recent bytes, or all
of the recent bytes if they hold no line feed. -/
theorem kept_cases (policy : Rotation) (content : List UInt8) :
    (content.length ≤ policy.keptSize ∧ policy.kept content = content) ∨
      policy.keptSize < content.length ∧
        ((∃ line, lineFeed ∉ line ∧ content.drop (content.length - policy.keptSize) =
            line ++ lineFeed :: policy.kept content) ∨
          (lineFeed ∉ policy.kept content ∧
            policy.kept content = content.drop (content.length - policy.keptSize))) := by
  simp only [kept]
  split
  · next isCut =>
    right
    exact ⟨by omega, Or.inl (exists_line_of_mem isCut.2)⟩
  · next notCut =>
    rcases Nat.lt_or_ge policy.keptSize content.length with isShorter | isLonger
    · right
      refine ⟨isShorter, Or.inr ⟨?_, rfl⟩⟩
      intro member
      exact notCut ⟨by omega, member⟩
    · left
      refine ⟨isLonger, ?_⟩
      rw [Nat.sub_eq_zero_of_le isLonger, List.drop_zero]

theorem apply_of_trimmed {policy : Rotation} {content : List UInt8}
    (isTrimmed : (policy.apply content).1 = true) :
    policy.apply content = (true, marker ++ policy.kept content) := by
  rw [apply] at *
  split at isTrimmed
  · contradiction
  · next isOver => rw [if_neg isOver]

/-- A part that is cut off where no line feed follows ends with a line if its last byte is one. -/
theorem endsLine_take_iff {content : List UInt8} {cut : Nat} (isPos : 0 < cut)
    (isLe : cut ≤ content.length) (noLineFeed : lineFeed ∉ content.drop cut) :
    EndsLine (content.take cut) ↔ lineFeed ∈ content.drop (cut - 1) := by
  have isByte : cut - 1 < content.length := by omega
  have notEmpty : content.take cut ≠ [] := by
    rw [← List.length_pos_iff, List.length_take]
    omega
  have isLast : (content.take cut).getLast? = some content[cut - 1] := by
    rw [List.getLast?_take, if_neg (Nat.ne_of_gt isPos), List.getElem?_eq_getElem isByte,
      Option.some_or]
  have next : cut - 1 + 1 = cut := by omega
  rw [List.drop_eq_getElem_cons isByte, next, List.mem_cons, EndsLine, isLast]
  simp only [notEmpty, noLineFeed, false_or, or_false, Option.some.injEq]
  exact eq_comm

/-- What follows the marker in a trimmed log is the end of the old log. It starts with a line if the
whole log is kept, or if there is a line feed in the bytes that are looked at or right before them,
and only then. Otherwise it is what was looked at, the end of one line. -/
theorem apply_keeps_whole_lines_iff (policy : Rotation) (content : List UInt8)
    (isTrimmed : (policy.apply content).1 = true) :
    ∃ cutOff kept, content = cutOff ++ kept ∧ (policy.apply content).2 = marker ++ kept ∧
      (EndsLine cutOff ↔
        content.length ≤ policy.keptSize ∨
          lineFeed ∈ content.drop (content.length - (policy.keptSize + 1))) ∧
      (¬EndsLine cutOff →
        kept = content.drop (content.length - policy.keptSize) ∧ lineFeed ∉ kept) := by
  rw [apply_of_trimmed isTrimmed]
  have whole := List.take_append_drop (content.length - policy.keptSize) content
  rcases kept_cases policy content with
    ⟨isLonger, keptEq⟩ | ⟨isShorter, ⟨line, -, parts⟩ | ⟨noLineFeed, keptEq⟩⟩
  · refine ⟨[], policy.kept content, keptEq.symm, rfl, ?_, ?_⟩
    · exact iff_of_true (Or.inl rfl) (Or.inl isLonger)
    · intro notLine
      exact absurd (Or.inl rfl) notLine
  · have endsLine : EndsLine (content.take (content.length - policy.keptSize) ++
        (line ++ [lineFeed])) := by
      right
      rw [← List.append_assoc, List.getLast?_concat]
    refine ⟨_, policy.kept content, ?_, rfl, iff_of_true endsLine (Or.inr ?_), absurd endsLine⟩
    · rw [List.append_assoc, List.append_assoc, List.singleton_append, ← parts]
      exact whole.symm
    · have looked : lineFeed ∈ content.drop (content.length - policy.keptSize) := by
        rw [parts]
        exact List.mem_append_right _ List.mem_cons_self
      exact (List.drop_subset_drop_left content (by omega)) looked
  · rw [keptEq] at noLineFeed
    have endsLineIff := endsLine_take_iff (by omega) (Nat.sub_le _ _) noLineFeed
    rw [Nat.sub_sub] at endsLineIff
    refine ⟨content.take (content.length - policy.keptSize), policy.kept content, ?_, rfl, ?_, ?_⟩
    · rw [keptEq]
      exact whole.symm
    · rw [endsLineIff]
      exact (or_iff_right (by omega)).symm
    · intro _
      rw [keptEq]
      exact ⟨rfl, noLineFeed⟩

/-- Three lines, the last of which is not ended. -/
def threeLines : List UInt8 := "ab\ncd\nef".toUTF8.toList

/-- Four bytes are looked at, and the end of a line among them is not kept. -/
theorem apply_keeps_whole_lines_of_three_lines :
    (apply ⟨4, 4⟩ threeLines).1 = true ∧
      ∃ cutOff kept, threeLines = cutOff ++ kept ∧ (apply ⟨4, 4⟩ threeLines).2 = marker ++ kept ∧
        EndsLine cutOff := by
  have isTrimmed : (apply ⟨4, 4⟩ threeLines).1 = true := by decide +kernel
  rcases apply_keeps_whole_lines_iff ⟨4, 4⟩ threeLines isTrimmed with
    ⟨cutOff, kept, parts, after, endsLineIff, -⟩
  exact ⟨isTrimmed, cutOff, kept, parts, after, endsLineIff.mpr (Or.inr (by decide +kernel))⟩

/-- A log of one line that is not ended. -/
def oneLine : List UInt8 := "abcdef".toUTF8.toList

/-- The last bytes of a line that is longer than what is looked at are kept without its
beginning. -/
theorem apply_keeps_end_of_long_line :
    (apply ⟨3, 2⟩ oneLine).1 = true ∧
      ¬∃ cutOff kept, oneLine = cutOff ++ kept ∧ (apply ⟨3, 2⟩ oneLine).2 = marker ++ kept ∧
        EndsLine cutOff := by
  have isTrimmed : (apply ⟨3, 2⟩ oneLine).1 = true := by decide +kernel
  refine ⟨isTrimmed, ?_⟩
  rintro ⟨cutOff, kept, parts, after, endsLine⟩
  rw [apply_of_trimmed isTrimmed] at after
  have keptEq : "ef".toUTF8.toList = kept := by
    rw [← List.append_cancel_left after]
    decide +kernel
  have oneLineEq : oneLine = "abcd".toUTF8.toList ++ "ef".toUTF8.toList := by decide +kernel
  rw [oneLineEq, ← keptEq] at parts
  rw [← List.append_cancel_right parts] at endsLine
  exact absurd endsLine (by decide +kernel)

end Rotation

end Log

end Reckoner
