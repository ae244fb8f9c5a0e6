import Whitespace.Proofs.Steps

/-!
# Other places and other names

A program can be changed so that its instructions stand at other places, or so
that its labels have other names.  A machine for the changed program stays beside
one for the old program: their memories are equal, control stands at
corresponding places, and corresponding labels lead to corresponding places.
-/

namespace Whitespace

/-- A change of a program: to which place control goes instead, and how labels are called. -/
structure Relocation where
  place : Nat -> Nat
  name : Nat -> Nat

namespace Flow

def label? : Flow -> Option Nat
  | jump label => some label
  | call label => some label
  | _ => none

def rename (name : Nat -> Nat) : Flow -> Flow
  | jump label => jump (name label)
  | call label => call (name label)
  | flow => flow

theorem rename_of_label?_eq_none {flow : Flow} (name : Nat -> Nat) (hnone : flow.label? = none) :
    flow.rename name = flow := by
  cases flow with
  | jump label => cases hnone
  | call label => cases hnone
  | next => rfl
  | ret => rfl
  | halt => rfl
  | unbound label => rfl

theorem map_rename_id (result : Except MachineError Flow) : result.map (rename id) = result := by
  cases result with
  | error error => rfl
  | ok flow => cases flow <;> rfl

theorem transfer_of_label? {instruction : Instruction} {flow : Flow} {label : Nat}
    (hfits : flow.Fits instruction) (hlabel : flow.label? = some label) :
    exists op operand, instruction = .label op operand ∧ op.transfers = true ∧
      operand.value = label := by
  cases flow with
  | jump other =>
      cases hlabel
      exact hfits
  | call other =>
      cases hlabel
      rcases hfits with ⟨operand, hcall, hvalue⟩
      exact ⟨.call, operand, hcall, rfl, hvalue⟩
  | next => cases hlabel
  | ret => cases hlabel
  | halt => cases hlabel
  | unbound other => cases hlabel

end Flow

namespace Machine

structure Beside (relocation : Relocation) (left right : Machine) : Prop where
  host : right.host = left.host
  memory : right.memory = left.memory
  status : right.status = left.status
  calls : right.calls = left.calls.map relocation.place
  pc : right.pc = relocation.place left.pc

def Leads (relocation : Relocation) (left right : Machine) (label : Nat) : Prop :=
  right.labels[relocation.name label]?.map (· + 1) =
    left.labels[label]?.map fun index => relocation.place (index + 1)

theorem target_beside {relocation : Relocation} {left right : Machine} {label : Nat}
    (hleads : Leads relocation left right label) :
    left.target label = .error (.undefinedLabel label) ∧
        right.target (relocation.name label) =
          .error (.undefinedLabel (relocation.name label)) ∨
      exists pc, left.target label = .ok pc ∧
        right.target (relocation.name label) = .ok (relocation.place pc) := by
  unfold Leads at hleads
  cases hleft : left.labels[label]? with
  | none =>
      rw [hleft, Option.map_none, Option.map_eq_none_iff] at hleads
      exact Or.inl ⟨by simp only [target, hleft], by simp only [target, hleads]⟩
  | some index =>
      rw [hleft, Option.map_some, Option.map_eq_some_iff] at hleads
      rcases hleads with ⟨other, hright, hplace⟩
      refine Or.inr ⟨index + 1, ?_, ?_⟩
      · simp only [target, hleft]
      · simp only [target, hright, hplace]

/-!
# Following flows
-/

inductive FollowsBeside (relocation : Relocation) (flow : Flow) :
    Except MachineError Machine -> Except MachineError Machine -> Prop where
  | astray (label : Nat) (hlabel : flow.label? = some label) :
      FollowsBeside relocation flow (.error (.undefinedLabel label))
        (.error (.undefinedLabel (relocation.name label)))
  | beside (left right : Machine) (hbeside : Beside relocation left right) :
      FollowsBeside relocation flow (.ok left) (.ok right)

theorem follow_beside {relocation : Relocation} {left right : Machine} {flow : Flow}
    (hbeside : Beside relocation left right)
    (hleads : forall label, flow.label? = some label -> Leads relocation left right label) :
    FollowsBeside relocation flow (left.follow flow)
      (right.follow (flow.rename relocation.name)) := by
  cases flow with
  | next => exact .beside left right hbeside
  | jump label =>
      rcases target_beside (hleads label rfl) with ⟨hleft, hright⟩ | ⟨pc, hleft, hright⟩
      · simp only [follow, Flow.rename, hleft, hright]
        exact .astray label rfl
      · simp only [follow, Flow.rename, hleft, hright]
        exact .beside _ _ { hbeside with pc := rfl }
  | call label =>
      rcases target_beside (hleads label rfl) with ⟨hleft, hright⟩ | ⟨pc, hleft, hright⟩
      · simp only [follow, Flow.rename, hleft, hright]
        exact .astray label rfl
      · simp only [follow, Flow.rename, hleft, hright]
        refine .beside _ _ { hbeside with pc := rfl, calls := ?_ }
        rw [List.map_cons, hbeside.pc, hbeside.calls]
  | ret =>
      have hcalls := hbeside.calls
      cases hleft : left.calls with
      | nil =>
          rw [hleft, List.map_nil] at hcalls
          simp only [follow, Flow.rename, hleft, hcalls]
          exact .beside _ _ { hbeside with }
      | cons address calls =>
          rw [hleft, List.map_cons] at hcalls
          simp only [follow, Flow.rename, hleft, hcalls]
          exact .beside _ _ { hbeside with pc := rfl, calls := rfl }
  | halt => exact .beside _ _ { hbeside with status := rfl }
  | unbound label => exact .beside _ _ { hbeside with }

/-!
# Executing instructions
-/

structure Retains (machine other : Machine) : Prop where
  program : other.program = machine.program
  labels : other.labels = machine.labels
  interrupt : other.interrupt = machine.interrupt
  steps : other.steps = machine.steps

theorem retains_of_follow {machine followed : Machine} {pc : Nat} {memory : Memory} {flow : Flow}
    (hfollow : follow { machine with pc := pc, memory := memory } flow = .ok followed) :
    Retains machine followed := by
  rw [eq_of_follow hfollow]
  exact ⟨rfl, rfl, rfl, rfl⟩

/-- What comes of executing corresponding instructions on two machines: the same failure, a
transfer for which both find no mark, or machines beside each other that are to be completed. -/
inductive ExecutesBeside (relocation : Relocation) (left right : Machine)
    (instruction other : Instruction) :
    Except MachineError Instruction × Machine -> Except MachineError Instruction × Machine ->
      Prop where
  | refused (error : MachineError) (memory : Memory)
      (hperform : instruction.perform left.host left.memory = (.error error, memory)) :
      ExecutesBeside relocation left right instruction other
        (.error error, { left with pc := left.pc + 1, memory := memory }.fail)
        (.error error, { right with pc := right.pc + 1, memory := memory }.fail)
  | astray (op : LabelOp) (operand : Label) (memory : Memory)
      (hinstruction : instruction = .label op operand) (htransfers : op.transfers = true) :
      ExecutesBeside relocation left right instruction other
        (.error (.undefinedLabel operand.value),
          { left with pc := left.pc + 1, memory := memory }.fail)
        (.error (.undefinedLabel (relocation.name operand.value)),
          { right with pc := right.pc + 1, memory := memory }.fail)
  | done (first second : Machine) (hbeside : Beside relocation first second)
      (hleft : Retains left first) (hright : Retains right second) :
      ExecutesBeside relocation left right instruction other
        (.ok instruction, first.complete instruction) (.ok other, second.complete other)

theorem execute_beside {relocation : Relocation} {left right : Machine}
    {instruction other : Instruction}
    (hbeside : Beside relocation { left with pc := left.pc + 1 }
      { right with pc := right.pc + 1 })
    (hperform : other.perform left.host left.memory =
      ((instruction.perform left.host left.memory).1.map (Flow.rename relocation.name),
        (instruction.perform left.host left.memory).2))
    (hleads : forall op operand, instruction = .label op operand -> op.transfers = true ->
      Leads relocation left right operand.value) :
    ExecutesBeside relocation left right instruction other (left.execute instruction)
      (right.execute other) := by
  have hhost : right.host = left.host := hbeside.host
  have hmemory : right.memory = left.memory := hbeside.memory
  cases hleft : instruction.perform left.host left.memory with
  | mk result memory =>
      have hright : other.perform right.host right.memory =
          (result.map (Flow.rename relocation.name), memory) := by
        rw [hhost, hmemory, hperform, hleft]
      cases result with
      | error error =>
          rw [execute_of_refused hleft, execute_of_refused hright]
          exact .refused error memory hleft
      | ok flow =>
          have hfits := Instruction.fits_of_perform left.host instruction _ _ _ hleft
          have hmoved : Beside relocation { left with pc := left.pc + 1, memory := memory }
              { right with pc := right.pc + 1, memory := memory } :=
            ⟨hbeside.host, rfl, hbeside.status, hbeside.calls, hbeside.pc⟩
          have hfollows := follow_beside hmoved fun label hlabel => by
            rcases Flow.transfer_of_label? hfits hlabel with
              ⟨op, operand, hinstruction, htransfers, hvalue⟩
            rw [← hvalue]
            exact hleads op operand hinstruction htransfers
          generalize hfirst : follow { left with pc := left.pc + 1, memory := memory } flow =
            first at hfollows
          generalize hsecond : follow { right with pc := right.pc + 1, memory := memory }
            (flow.rename relocation.name) = second at hfollows
          cases hfollows with
          | astray label hlabel =>
              rcases Flow.transfer_of_label? hfits hlabel with
                ⟨op, operand, hinstruction, htransfers, hvalue⟩
              rw [execute_of_astray hleft hfirst, execute_of_astray hright hsecond, ← hvalue]
              exact .astray op operand memory hinstruction htransfers
          | beside first second hafter =>
              rw [execute_of_done hleft hfirst, execute_of_done hright hsecond]
              exact .done first second hafter (retains_of_follow hfirst)
                (retains_of_follow hsecond)

end Machine
end Whitespace
