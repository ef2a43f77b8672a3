import Reckoner.Proofs.Log.WholeLines

/-!
# A trimmed log is small

What a trim keeps is an end of the log that is no longer than the policy says. If the marker and
that much of a log are within the limit, a trimmed log is within it as well: it is not trimmed again
before something is appended, and over any history of appends and trims the log exceeds the limit by
what has been appended since the last trim only.
-/

namespace Reckoner

namespace Log

namespace Rotation

variable {policy : Rotation} {content : List UInt8}

theorem kept_suffix (policy : Rotation) (content : List UInt8) :
    policy.kept content <:+ content := by
  have tailSuffix := List.drop_suffix (content.length - policy.keptSize) content
  rcases kept_cases policy content with ⟨-, keptEq⟩ | ⟨-, ⟨line, -, parts⟩ | ⟨-, keptEq⟩⟩
  · simp only [keptEq, List.suffix_rfl]
  · rw [parts] at tailSuffix
    exact (List.suffix_cons lineFeed _).trans ((List.suffix_append line _).trans tailSuffix)
  · rw [keptEq]
    exact tailSuffix

theorem kept_of_length_le (fits : content.length ≤ policy.keptSize) :
    policy.kept content = content := by
  rcases kept_cases policy content with ⟨-, keptEq⟩ | ⟨isShorter, -⟩
  · exact keptEq
  · omega

theorem length_kept_le (policy : Rotation) (content : List UInt8) :
    (policy.kept content).length ≤ policy.keptSize := by
  have tailLength : (content.drop (content.length - policy.keptSize)).length ≤ policy.keptSize := by
    rw [List.length_drop]
    omega
  rcases kept_cases policy content with ⟨isLonger, keptEq⟩ | ⟨-, ⟨line, -, parts⟩ | ⟨-, keptEq⟩⟩
  · rw [keptEq]
    exact isLonger
  · rw [parts, List.length_append, List.length_cons] at tailLength
    omega
  · rw [keptEq]
    exact tailLength

/-- Whether a trimmed log is within the limit for logs that are left alone. -/
def Fits (policy : Rotation) : Prop := marker.length + policy.keptSize ≤ policy.greatestSize

instance (policy : Rotation) : Decidable policy.Fits := by
  unfold Fits
  infer_instance

/-! ## Log files -/

/-- The size of a file, which is zero if there is none. -/
def fileSize (file : Option (List UInt8)) : Nat := (file.getD []).length

theorem applyToFile_of_small {file : Option (List UInt8)}
    (isSmall : fileSize file ≤ policy.greatestSize) :
    policy.applyToFile file = (false, file) := by
  cases file with
  | none => rfl
  | some content =>
      have isSmall : content.length ≤ policy.greatestSize := isSmall
      simp only [applyToFile, apply, if_pos isSmall]

theorem applyToFile_of_large (isLarge : policy.greatestSize < content.length) :
    policy.applyToFile (some content) = (true, some (marker ++ policy.kept content)) := by
  simp only [applyToFile, apply, if_neg (Nat.not_le.mpr isLarge)]

theorem fileSize_applyToFile_le (fits : policy.Fits) (file : Option (List UInt8)) :
    fileSize (policy.applyToFile file).2 ≤ policy.greatestSize := by
  rcases Nat.lt_or_ge policy.greatestSize (fileSize file) with isLarge | isSmall
  · cases file with
    | none => exact absurd isLarge (Nat.not_lt_zero _)
    | some content =>
        have isLarge : policy.greatestSize < content.length := isLarge
        have keptLe := length_kept_le policy content
        rw [applyToFile_of_large isLarge]
        simp only [fileSize, Option.getD_some, List.length_append, Fits] at fits ⊢
        omega
  · rw [applyToFile_of_small isSmall]
    exact isSmall

/-! ## Histories -/

/-- What happens to a log file. -/
inductive Change where
  /-- Bytes are written behind its end; if there is no file, one is created. -/
  | append (bytes : List UInt8)
  /-- It is trimmed if it is over the limit. -/
  | trim

/-- The file after a change. -/
def Change.applyTo (policy : Rotation) (file : Option (List UInt8)) :
    Change → Option (List UInt8)
  | append bytes => some (file.getD [] ++ bytes)
  | trim => (policy.applyToFile file).2

/-- The greatest size after a change of a file that had at most a given size. -/
def Change.sizeLimit (policy : Rotation) (limit : Nat) : Change → Nat
  | append bytes => limit + bytes.length
  | trim => policy.greatestSize

/-- The file after a history of changes. -/
def fileAfter (policy : Rotation) (file : Option (List UInt8)) (changes : List Change) :
    Option (List UInt8) :=
  changes.foldl (Change.applyTo policy) file

theorem Change.fileSize_applyTo_le (fits : policy.Fits) {file : Option (List UInt8)} {limit : Nat}
    (change : Change) (within : fileSize file ≤ limit) :
    fileSize (change.applyTo policy file) ≤ change.sizeLimit policy limit := by
  cases change with
  | append bytes =>
      simp only [applyTo, sizeLimit, fileSize, Option.getD_some, List.length_append] at within ⊢
      omega
  | trim => exact fileSize_applyToFile_le fits file

/-- Over a history, the limit grows by what is appended and is reset by every trim. -/
theorem fileSize_fileAfter_le (fits : policy.Fits) {file : Option (List UInt8)} {limit : Nat}
    (changes : List Change) (within : fileSize file ≤ limit) :
    fileSize (policy.fileAfter file changes) ≤ changes.foldl (Change.sizeLimit policy) limit := by
  induction changes generalizing file limit with
  | nil => exact within
  | cons change changes ih => exact ih (change.fileSize_applyTo_le fits within)

/-- A log that is missing or within the limit is left alone, and any other is replaced by the marker
and an end of it that is no longer than the policy says, and by all of it if it is no longer itself.
If the marker and that much of a log are within the limit, a trimmed log is not trimmed again, and
after any history that ends with a trim the log is within the limit. -/
theorem applyToFile_bounds_size (policy : Rotation) :
    policy.applyToFile none = (false, none) ∧
      (∀ content, content.length ≤ policy.greatestSize →
        policy.applyToFile (some content) = (false, some content)) ∧
      (∀ content, policy.greatestSize < content.length →
        ∃ kept, policy.applyToFile (some content) = (true, some (marker ++ kept)) ∧
          kept <:+ content ∧ kept.length ≤ policy.keptSize ∧
          (content.length ≤ policy.keptSize → kept = content)) ∧
      (policy.Fits →
        (∀ file, policy.applyToFile (policy.applyToFile file).2 =
          (false, (policy.applyToFile file).2)) ∧
        ∀ file changes,
          fileSize (policy.fileAfter file (changes ++ [.trim])) ≤ policy.greatestSize) := by
  refine ⟨rfl, ?_, ?_, ?_⟩
  · intro content isSmall
    exact applyToFile_of_small isSmall
  · intro content isLarge
    exact ⟨policy.kept content, applyToFile_of_large isLarge, kept_suffix policy content,
      length_kept_le policy content, kept_of_length_le⟩
  · intro fits
    refine ⟨?_, ?_⟩
    · intro file
      exact applyToFile_of_small (fileSize_applyToFile_le fits file)
    · intro file changes
      have within := fileSize_fileAfter_le fits (changes ++ [.trim]) (Nat.le_refl (fileSize file))
      rw [List.foldl_append] at within
      exact within

example : Fits standard := by decide +kernel

/-- A log of three lines over and over. -/
def longLog : List UInt8 := (List.replicate 10 threeLines).flatten

/-- A log that is trimmed, appended to and trimmed again stays within the limit. -/
theorem applyToFile_bounds_size_of_long_log :
    Fits ⟨64, 16⟩ ∧ 64 < longLog.length ∧
      (∃ kept, applyToFile ⟨64, 16⟩ (some longLog) = (true, some (marker ++ kept)) ∧
        kept <:+ longLog ∧ kept.length ≤ 16) ∧
      applyToFile ⟨64, 16⟩ (applyToFile ⟨64, 16⟩ (some longLog)).2 =
        (false, (applyToFile ⟨64, 16⟩ (some longLog)).2) ∧
      fileSize (fileAfter ⟨64, 16⟩ (some longLog) [.trim, .append threeLines, .trim]) ≤ 64 := by
  have fits : Fits ⟨64, 16⟩ := by decide +kernel
  have isLarge : 64 < longLog.length := by decide +kernel
  rcases applyToFile_bounds_size ⟨64, 16⟩ with ⟨-, -, trims, settles⟩
  rcases trims longLog isLarge with ⟨kept, after, isEnd, isShort, -⟩
  exact ⟨fits, isLarge, ⟨kept, after, isEnd, isShort⟩, (settles fits).1 (some longLog),
    (settles fits).2 (some longLog) [.trim, .append threeLines]⟩

end Rotation

end Log

end Reckoner
