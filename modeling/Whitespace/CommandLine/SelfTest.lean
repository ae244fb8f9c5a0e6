import Whitespace.Assembly
import Whitespace.Machine.Snapshot
import Whitespace.Program.Listing

/-!
# The self-test

A few checks of literals, arithmetic, execution and listings, each with a name.
-/

namespace Whitespace
namespace SelfTest

def finalState? (source : String) (registry : Registry) : Option Snapshot :=
  match assemble source with
  | .error _ => none
  | .ok assembly =>
      match ((Machine.start assembly.program "").withHost ⟨registry, false⟩).run with
      | (.ok _, stopped) => some stopped.snapshot
      | (.error _, _) => none

def roundTrips (n : Int) : Bool :=
  match decodeNumber (encodeNumber n) with
  | .ok m => m == n
  | .error _ => false

def dividesTo (left right quotient remainder : Int) : Bool :=
  match floorDivMod left right with
  | .ok result => result == (quotient, remainder)
  | .error _ => false

def multiply : HostFunction where
  name := "mul"
  arity := 2
  call
    | left :: right :: _ => .ok (.integer (left * right))
    | _ => .ok .unit

def reassembles (source : String) : Bool :=
  match assemble source with
  | .error _ => false
  | .ok assembly =>
      match assemble assembly.program.disassembly with
      | .error _ => false
      | .ok again => again.program.agrees assembly.program

def checks : List (String × Bool) :=
  [ ("Literal codec roundtrip", [-1000, -5, -1, 0, 1, 5, 1000].all roundTrips),
    ("Floor division sign law", dividesTo (-7) 2 (-4) 1),
    ("push 1; push 3; add",
      finalState? "PUSH 1\nPUSH 3\nADD" Registry.empty == some ⟨[4], []⟩),
    ("push 1; push 2; store",
      finalState? "PUSH 1\nPUSH 2\nSTORE" Registry.empty == some ⟨[], [(1, 2)]⟩),
    ("store then retrieve",
      finalState? "PUSH 3\nPUSH 1\nSTORE\nPUSH 3\nRETRIEVE" Registry.empty ==
        some ⟨[1], [(3, 1)]⟩),
    ("Foreign multiply",
      ((finalState? "PUSH 3\nPUSH 2\nFFI 1" (Registry.empty.register 1 multiply)).bind
        Snapshot.top?) == some 6),
    ("Forward label reference",
      finalState? "JUMP 1\nPUSH 9\nMARK 1\nPUSH 7" Registry.empty == some ⟨[7], []⟩),
    ("Disassembly reassembles", reassembles "PUSH -3\nMARK 2\nCALL 2\nPUSHS \"ok\"\nEND") ]

def resultLine (check : String × Bool) : String :=
  check.1 ++ "... " ++ (if check.2 then "✓" else "✗") ++ "\n"

def report (checks : List (String × Bool)) : String × Bool :=
  let passed := (checks.filter (·.2)).length
  let failed := checks.length - passed
  ("━━━ wspace Self-Test ━━━\n\n" ++ String.join (checks.map resultLine) ++
      "\n━━━━━━━━━━━━━━━━━━━━━━━━━━━━━━\n" ++ s!"Results: {passed} passed, {failed} failed\n" ++
      (if failed = 0 then "✓ All tests passed!\n" else ""),
    failed = 0)

end SelfTest
end Whitespace
