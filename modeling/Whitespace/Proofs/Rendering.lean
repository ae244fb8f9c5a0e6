import Whitespace.Proofs.Decoding
import Whitespace.Proofs.LineByLine

/-!
# Assembled programs in every style

A program is written as characters of a style or, one line an instruction, as
letters.  Reading either form back gives the same program, with the digits that
the assembly text spelled.
-/

namespace Whitespace
namespace Program

theorem symbols_singleton (instruction : Instruction) :
    Program.symbols #[instruction] = instruction.symbols := by
  simp [symbols]

theorem decode_remap_render (program : Program) (style : Style) :
    Program.decode .lenient (style.remap (style.render program.symbols)) =
      .ok ⟨program, none⟩ := by
  rw [Style.remap_render]
  exact decode_symbols program

/-!
# Lines of letters
-/

theorem decode_letters (instruction : Instruction) :
    Program.decode .lenient (ofLetters (letters instruction.symbols)) =
      .ok ⟨#[instruction], none⟩ := by
  rw [ofLetters_letters, ← symbols_singleton]
  exact decode_symbols #[instruction]

theorem join_lines_ofInstructions (instructions : List Instruction) :
    String.join (Assembly.ofInstructions instructions).lines =
      letters (Assembly.ofInstructions instructions).symbols := by
  apply String.toList_injective
  rw [String.toList_join, Assembly.ofInstructions, List.flatMap_map, letters,
    String.toList_ofList, Assembly.symbols, symbols, List.map_flatMap]
  simp [letters]

/-!
# Assembly, rendering and reading
-/

theorem assemble_render_decode {source : String} (hassembles : (assemble source).isOk = true)
    (style : Style) :
    exists assembly : Assembly, assemble source = .ok assembly ∧
      Program.decode .lenient (style.remap (assembly.render style)) =
        .ok ⟨assembly.program, none⟩ ∧
      assembly.lines.length = assembly.program.size ∧
      (forall (i : Nat) (hi : i < assembly.program.size), exists line : String,
        assembly.lines[i]? = some line ∧
          Program.decode .lenient (ofLetters line) = .ok ⟨#[assembly.program[i]], none⟩) ∧
      String.join assembly.lines = letters assembly.symbols := by
  cases hassemble : assemble source with
  | error error =>
      rw [hassemble] at hassembles
      cases hassembles
  | ok assembly =>
      rcases assemble_eq_ok_iff.mp hassemble with ⟨instructions, _hlines, hassembly⟩
      rw [← hassembly]
      refine ⟨_, rfl, decode_remap_render _ style, by simp [Assembly.ofInstructions], ?_,
        join_lines_ofInstructions instructions⟩
      intro i hi
      have hlength : i < instructions.length := hi
      exact ⟨letters instructions[i].symbols, by simp [Assembly.ofInstructions, hlength],
        decode_letters instructions[i]⟩

/-- Empty and padded digits, written in a style with two characters for a symbol. -/
theorem assemble_render_decode_padded :
    exists style : Style, Style.ofSpec ⟨"dots", ".:", "-_", "|"⟩ = .ok style ∧
      assemble "PUSH b\nMARK b001\nEND\n" =
        .ok ⟨#[.number .push ⟨[]⟩, .label .mark ⟨[false, false, true]⟩, .plain .halt],
          ["SSL", "LSSSSTL", "LLL"]⟩ ∧
      Program.decode .lenient (style.remap (style.render (Program.symbols
        #[.number .push ⟨[]⟩, .label .mark ⟨[false, false, true]⟩, .plain .halt]))) =
          .ok ⟨#[.number .push ⟨[]⟩, .label .mark ⟨[false, false, true]⟩, .plain .halt], none⟩ := by
  have hassembles : assemble "PUSH b\nMARK b001\nEND\n" =
      .ok ⟨#[.number .push ⟨[]⟩, .label .mark ⟨[false, false, true]⟩, .plain .halt],
        ["SSL", "LSSSSTL", "LLL"]⟩ := by
    decide
  refine ⟨_, rfl, hassembles, ?_⟩
  rcases assemble_render_decode (by decide : (assemble "PUSH b\nMARK b001\nEND\n").isOk = true) _
    with ⟨assembly, hassemble, hdecode, _⟩
  rw [hassembles] at hassemble
  cases hassemble
  exact hdecode

end Program
end Whitespace
