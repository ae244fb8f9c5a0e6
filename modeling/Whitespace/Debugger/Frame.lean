import Whitespace.Debugger
import Whitespace.Debugger.Screen
import Whitespace.Text.Lines
import Whitespace.Text.Wrap

/-!
# Frames

A frame shows the debugger on a screen.  On the left stand the program around
the next instruction, the state of control and the last notice; on the right the
stack, the heap, the output and a list of keys.
-/

namespace Whitespace
namespace Debugger

def valuePaint (value : Int) : Paint :=
  if value < 0 then Paint.of .red else if 0 < value then Paint.of .green else Paint.of .gray

def statusPaint : Status -> Paint
  | .running => Paint.of .green
  | .halted => Paint.of .cyan
  | .finished => Paint.of .cyan
  | .interrupted => Paint.of .red
  | .failed => Paint.of .red

/-!
# The left column
-/

def windowRow (debugger : Debugger) (line : WindowLine) : ContentRow :=
  let marked := debugger.breakpoints.contains line.index
  let paint : Paint :=
    if line.current then ⟨some .yellow, true⟩
    else if marked then Paint.of .red
    else Paint.plain
  ContentRow.filled paint
    ((if marked then "● " else "  ") ++ (if line.current then "▶ " else "  ") ++
      Program.indexText line.index ++ ": " ++ line.instruction.text)

def programPanel (debugger : Debugger) (width height : Nat) : Screen :=
  Screen.panel width height (Paint.of .cyan) Paint.plain " Program "
    ((debugger.window (height - 2)).map debugger.windowRow)

def machinePanel (debugger : Debugger) (width height : Nat) : Screen :=
  let machine := debugger.machine
  Screen.panel width height (Paint.of .green) Paint.plain " Machine "
    [ ContentRow.spans
        [ (Paint.plain, "PC: "), (Paint.of .yellow, toString machine.pc),
          (Paint.plain, "   Steps: "), (Paint.of .cyan, toString machine.steps) ],
      ContentRow.spans [(Paint.plain, "Calls: "), (Paint.of .white, machine.callsText)],
      ContentRow.spans
        [(Paint.plain, "State: "), (statusPaint machine.status, machine.status.name)] ]

def statusPanel (debugger : Debugger) (width height : Nat) : Screen :=
  Screen.panel width height (Paint.of .white) (Paint.of .white) " Status "
    [ContentRow.ofGlyphs (Paint.of .white)
      (Text.cut (width - 2) (Text.glyphs debugger.notice.text.toList))]

/-!
# The right column
-/

def stackPanel (debugger : Debugger) (width height : Nat) : Screen :=
  let stack := debugger.machine.memory.stack
  Screen.panel width height (Paint.of .magenta) Paint.plain s!" Stack ({stack.depth}) "
    ((stack.items.take (height - 2)).zipIdx.map fun entry =>
      ContentRow.filled (valuePaint entry.1)
        (Text.padLeft 3 ' ' (toString entry.2) ++ ": " ++ toString entry.1))

def heapPanel (debugger : Debugger) (width height : Nat) : Screen :=
  let heap := debugger.machine.memory.heap
  Screen.panel width height (Paint.of .magenta) Paint.plain s!" Heap ({heap.size}) "
    ((heap.toList.drop debugger.heapScroll).map fun cell =>
      ContentRow.filled (valuePaint cell.2) s!"{cell.1} = {cell.2}")

def outputPanel (debugger : Debugger) (width height : Nat) : Screen :=
  let lines := Text.lines debugger.machine.memory.output.text.toList
  Screen.panel width height Paint.plain Paint.plain " Output "
    ((lines.flatMap (Text.wrap (width - 2))).map (ContentRow.ofGlyphs Paint.plain))

def helpPanel (width height : Nat) : Screen :=
  Screen.panel width height (Paint.of .darkGray) (Paint.of .darkGray) " Help "
    [ ContentRow.filled (Paint.of .darkGray) "s: Step  r: Run  p: Pause  b: Breakpoint",
      ContentRow.filled (Paint.of .darkGray) "x: Reset  ↑↓: Scroll heap  q: Quit" ]

/-!
# The whole screen

The left column takes 55 of 100 columns; the stack takes 40 and the heap 30 of
100 rows.
-/

def leftColumn (debugger : Debugger) (width height : Nat) : Screen :=
  debugger.programPanel width (height - 9) ++ debugger.machinePanel width 6 ++
    debugger.statusPanel width 3

def rightColumn (debugger : Debugger) (width height : Nat) : Screen :=
  let stackHeight := height * 40 / 100
  let heapHeight := height * 30 / 100
  debugger.stackPanel width stackHeight ++ debugger.heapPanel width heapHeight ++
    debugger.outputPanel width (height - stackHeight - heapHeight - 4) ++ helpPanel width 4

def frame (debugger : Debugger) (width height : Nat) : Screen :=
  let leftWidth := width * 55 / 100
  (Screen.beside (debugger.leftColumn leftWidth height)
    (debugger.rightColumn (width - leftWidth) height)).shown

end Debugger
end Whitespace
