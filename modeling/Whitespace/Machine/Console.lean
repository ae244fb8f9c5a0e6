/-!
# Input and output

Input is a sequence of bytes that is taken line by line.  Output goes to a
destination with a state of its own: it may keep text back until it is flushed,
it may refuse a text or a flush, and what it answers may differ from one request
to the next.
-/

namespace Whitespace

structure Input where
  bytes : List UInt8
  deriving DecidableEq, Inhabited

namespace Input

def ofString (text : String) : Input :=
  ⟨text.toUTF8.toList⟩

def feed (input : Input) (bytes : List UInt8) : Input :=
  ⟨input.bytes ++ bytes⟩

/-- The bytes of the next line, its line feed included; none at the end of input. -/
def takeLine? (input : Input) : Option (List UInt8 × Input) :=
  match input.bytes with
  | [] => none
  | bytes =>
      let line := bytes.takeWhile (· != 10)
      match bytes.dropWhile (· != 10) with
      | [] => some (line, ⟨[]⟩)
      | lineFeed :: rest => some (line ++ [lineFeed], ⟨rest⟩)

end Input

def decodeUtf8? (bytes : List UInt8) : Option (List Char) :=
  (String.fromUTF8? ⟨bytes.toArray⟩).map String.toList

/-- How a destination of text takes requests in each of its states, which are numbered: why it
refuses, if it does, and the state it is in afterwards. -/
structure Destination where
  write : Nat -> String -> Option String × Nat
  flush : Nat -> Option String × Nat

def Destination.steady (writeFault flushFault : Option String) : Destination :=
  ⟨fun state _text => (writeFault, state), fun state => (flushFault, state)⟩

structure Output where
  destination : Destination
  state : Nat
  text : String

namespace Output

def empty : Output := ⟨.steady none none, 0, ""⟩

instance : Inhabited Output := ⟨empty⟩

def write (output : Output) (text : String) : Except String Unit × Output :=
  match output.destination.write output.state text with
  | (none, state) => (.ok (), { output with state := state, text := output.text ++ text })
  | (some fault, state) => (.error fault, { output with state := state })

def flush (output : Output) : Except String Unit × Output :=
  match output.destination.flush output.state with
  | (none, state) => (.ok (), { output with state := state })
  | (some fault, state) => (.error fault, { output with state := state })

def flushFault (output : Output) : Option String :=
  (output.destination.flush output.state).1

theorem flush_of_accepted {output : Output} (haccepted : output.flushFault = none) :
    output.flush.1 = .ok () := by
  unfold flush
  split
  · rfl
  · next hflush =>
      rw [flushFault, hflush] at haccepted
      cases haccepted

theorem flush_of_refused {output : Output} {fault : String}
    (hrefused : output.flushFault = some fault) : output.flush.1 = .error fault := by
  unfold flush
  split
  · next hflush =>
      rw [flushFault, hflush] at hrefused
      cases hrefused
  · next hflush =>
      rw [flushFault, hflush] at hrefused
      cases hrefused
      rfl

theorem write_snd (output : Output) (text : String) :
    (output.write text).2 =
      { output with
        state := (output.destination.write output.state text).2
        text := (output.write text).2.text } := by
  unfold write
  split
  · next hwrite => rw [hwrite]
  · next hwrite => rw [hwrite]

theorem flush_snd (output : Output) :
    output.flush.2 = { output with state := (output.destination.flush output.state).2 } := by
  unfold flush
  split
  · next hflush => rw [hflush]
  · next hflush => rw [hflush]

end Output
end Whitespace
