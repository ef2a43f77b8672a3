import Reckoner.Proofs.Expression.Soundness

/-!
# Which texts are accepted

A text is accepted exactly if its lexemes are an expression of the flat grammar. Its program is then
the postorder of the one tree that the layered grammar gives to its lexemes, and the mark for the
unknown is set exactly if the program refers to the unknown.
-/

namespace Reckoner

namespace Expression

variable {mode : Mode}

namespace Conversion

/-- The mark for the unknown says whether the unknown has been put out. -/
def MarksUnknown (state : Conversion) : Prop :=
  state.hasUnknown = true ↔ Instruction.unknown ∈ state.output.toList

theorem unknown_notMem_instructions (pending : List Pending) :
    Instruction.unknown ∉ pending.filterMap Pending.instruction? := by
  rw [List.mem_filterMap]
  rintro ⟨entry, -, isUnknown⟩
  cases entry <;> simp [Pending.instruction?] at isUnknown

/-- Every lexeme keeps the mark for the unknown right. -/
theorem MarksUnknown.step {state next : Conversion} {lexeme : Lexeme} {next? : Option Lexeme}
    (marks : state.MarksUnknown) (takes : Takes mode state lexeme next? next) :
    next.MarksUnknown := by
  have noUnknown := unknown_notMem_instructions
  cases takes with
  | number numeral _ => simpa [MarksUnknown, operand] using marks
  | unknown _ _ => simp [MarksUnknown, operand]
  | operator symbol _ => simpa [MarksUnknown, operator, noUnknown] using marks
  | closeBrace _ _ _ => simpa [MarksUnknown, noUnknown] using marks
  | closeCall _ _ => simpa [MarksUnknown, noUnknown] using marks
  | sign _ _ | function _ _ | openBrace _ => exact marks

theorem MarksUnknown.of_visits {lexemes : List Lexeme} {next? : Option Lexeme} {state : Conversion}
    (visits : Visits mode lexemes next? state) : state.MarksUnknown := by
  induction visits with
  | start => simp [MarksUnknown, start]
  | step _ steps ih => exact ih.step (.of_step steps)

theorem MarksUnknown.finish {state : Conversion} {expression : Expression}
    (marks : state.MarksUnknown)
    (finishes : state.finish = .ok expression) :
    expression.hasUnknown = true ↔ Instruction.unknown ∈ expression.program := by
  simp only [Conversion.finish] at finishes
  split at finishes
  · contradiction
  split at finishes
  · contradiction
  split at finishes
  · contradiction
  cases finishes
  simp only [Array.toList_appendList, List.mem_append, unknown_notMem_instructions, or_false]
  exact marks

end Conversion

theorem parse_eq_ok_iff {text : List Char} {expression : Expression} :
    parse mode text = .ok expression ↔
      (Lexeme.readAll text).fault = none ∧
        ∃ final, Conversion.start.run mode (Lexeme.readAll text).lexemes = .ok final ∧
          final.finish = .ok expression := by
  simp only [parse, ofReading]
  cases Conversion.start.run mode (Lexeme.readAll text).lexemes with
  | error fault => simp
  | ok final => cases (Lexeme.readAll text).fault <;> simp

/-- The lexemes of an accepted text stand for a tree, and the program is its postorder. -/
theorem exists_tree_of_parse {text : List Char} {expression : Expression}
    (accepted : parse mode text = .ok expression) :
    ∃ tree, Reads mode .additive (Lexeme.readAll text).lexemes tree ∧
      expression.program = tree.program := by
  rcases parse_eq_ok_iff.mp accepted with ⟨-, final, runs, finishes⟩
  exact (Visits.of_run runs).reaches.finish finishes

theorem exists_parse_of_reads {text : List Char} {tree : Tree}
    (noFault : (Lexeme.readAll text).fault = none)
    (reads : Reads mode .additive (Lexeme.readAll text).lexemes tree) :
    ∃ expression, parse mode text = .ok expression ∧ expression.program = tree.program := by
  rcases reads.ofReading_eq with ⟨expression, converts, program⟩
  refine ⟨expression, ?_, program⟩
  rw [← converts, ← noFault]
  rfl

/-- The program of an accepted text refers to the unknown exactly if it is marked so. -/
theorem hasUnknown_iff_of_parse {text : List Char} {expression : Expression}
    (accepted : parse mode text = .ok expression) :
    expression.hasUnknown = true ↔ Instruction.unknown ∈ expression.program := by
  rcases parse_eq_ok_iff.mp accepted with ⟨-, final, runs, finishes⟩
  exact (Conversion.MarksUnknown.of_visits (.of_run runs)).finish finishes

/-- Exactly the texts without lexical fault whose lexemes are an expression of the flat grammar are
accepted. The program of an accepted text is the postorder of its only tree in the layered grammar,
and it is marked for the unknown exactly if it refers to the unknown. -/
theorem parse_accepts_expressions (mode : Mode) (text : List Char) :
    ((∃ expression, parse mode text = .ok expression) ↔
      (Lexeme.readAll text).fault = none ∧
        Derives mode .expression (Lexeme.readAll text).lexemes) ∧
    ∀ expression, parse mode text = .ok expression →
      (∃ tree, Reads mode .additive (Lexeme.readAll text).lexemes tree ∧
        (∀ other, Reads mode .additive (Lexeme.readAll text).lexemes other → other = tree) ∧
        expression.program = tree.program) ∧
      (expression.hasUnknown = true ↔ Instruction.unknown ∈ expression.program) := by
  refine ⟨⟨?_, ?_⟩, ?_⟩
  · rintro ⟨expression, accepted⟩
    rcases exists_tree_of_parse accepted with ⟨tree, reads, -⟩
    exact ⟨(parse_eq_ok_iff.mp accepted).1, reads.derives.1⟩
  · rintro ⟨noFault, derives⟩
    rcases Reads.exists_of_derives derives with ⟨tree, reads⟩
    rcases exists_parse_of_reads noFault reads with ⟨expression, accepted, -⟩
    exact ⟨expression, accepted⟩
  · intro expression accepted
    rcases exists_tree_of_parse accepted with ⟨tree, reads, program⟩
    exact ⟨⟨tree, reads, fun other otherReads => otherReads.tree_unique reads, program⟩,
      hasUnknown_iff_of_parse accepted⟩

/-- The sign of `-2^3^x` belongs to the number behind it, and the powers group to the right. -/
theorem parse_accepts_powers_of_signed_number :
    parse .equation ['-', '2', '^', '3', '^', 'x'] =
        .ok ⟨[.number 2.0, .sign .minus, .number 3.0, .unknown, .operator .power,
          .operator .power], true⟩ ∧
      ∃ tree,
        Reads .equation .additive (Lexeme.readAll ['-', '2', '^', '3', '^', 'x']).lexemes tree ∧
        tree.program =
          [.number 2.0, .sign .minus, .number 3.0, .unknown, .operator .power,
            .operator .power] := by
  have accepted : parse .equation ['-', '2', '^', '3', '^', 'x'] =
      .ok ⟨[.number 2.0, .sign .minus, .number 3.0, .unknown, .operator .power, .operator .power],
        true⟩ := by
    decide +kernel
  rcases ((parse_accepts_expressions .equation _).2 _ accepted).1 with ⟨tree, reads, -, program⟩
  exact ⟨accepted, tree, reads, program.symm⟩

end Expression

end Reckoner
