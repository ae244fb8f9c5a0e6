import Mathlib.Data.Nat.Init
import Whitespace.Machine.Snapshot
import Whitespace.Proofs.Steps

/-!
# Calls and returns

Between a call and the return that ends it anything may happen: nested and
recursive calls, jumps into and out of subroutines, returns of inner calls.  The
addresses that were pending when the call was made stay untouched below its own,
and the first step that takes the call stack back to its old height is the return
to the place behind the call.
-/

namespace Whitespace
namespace Machine

/-!
# Single steps

Pending addresses are held with the newest one first, so the part that a call
leaves alone is a suffix.
-/

theorem calls_of_step_ok {machine next : Machine} {instruction : Instruction}
    (hstep : machine.step = (.ok instruction, next)) :
    next.calls = machine.calls ∨ next.calls = (machine.pc + 1) :: machine.calls ∨
      instruction = .plain .ret ∧ machine.calls = next.pc :: next.calls := by
  cases reaction_of_step_ok hstep with
  | next memory log => exact Or.inl rfl
  | jumped memory label index hlabel => exact Or.inl rfl
  | called memory operand index hcall hlabel => exact Or.inr (Or.inl rfl)
  | returned memory address calls hret hcalls => exact Or.inr (Or.inr ⟨hret, hcalls⟩)
  | halted memory hhalt => exact Or.inl rfl

/-- A step keeps a pending address and all below it, or it is the return to that address. -/
theorem frame_of_step_ok {machine next : Machine} {instruction : Instruction} {address : Nat}
    {below : List Nat} (hframe : address :: below <:+ machine.calls)
    (hstep : machine.step = (.ok instruction, next)) :
    address :: below <:+ next.calls ∨
      instruction = .plain .ret ∧ next.calls = below ∧ next.pc = address := by
  rcases calls_of_step_ok hstep with hsame | hpushed | ⟨hret, hpopped⟩
  · rw [hsame]
    exact Or.inl hframe
  · rw [hpushed]
    exact Or.inl (hframe.trans (List.suffix_cons _ _))
  · rw [hpopped] at hframe
    rcases List.suffix_cons_iff.mp hframe with htop | hinner
    · injection htop with haddress hbelow
      exact Or.inr ⟨hret, hbelow.symm, haddress.symm⟩
    · exact Or.inl hinner

theorem step_call {machine : Machine} {operand : Label} {index : Nat}
    (hrunning : machine.status = .running)
    (hcall : machine.program[machine.pc]? = some (.label .call operand))
    (hdefined : machine.labels[operand.value]? = some index) :
    machine.step =
      (.ok (.label .call operand),
        { machine with
          pc := index + 1
          calls := (machine.pc + 1) :: machine.calls }.complete (.label .call operand)) := by
  have hperform : (Instruction.label .call operand).perform machine.host machine.memory =
      (.ok (.call operand.value), machine.memory) := rfl
  rw [step_of_running hrunning hcall, execute, hperform]
  simp only [follow, target, hdefined]
  rfl

theorem step_ret_of_empty {machine : Machine} (hrunning : machine.status = .running)
    (hret : machine.program[machine.pc]? = some (.plain .ret)) (hempty : machine.calls = []) :
    machine.step =
      (.ok (.plain .ret),
        ({ machine with pc := machine.pc + 1 }.warn (.emptyReturn machine.pc)).complete
          (.plain .ret)) := by
  have hperform : (Instruction.plain .ret).perform machine.host machine.memory =
      (.ok .ret, machine.memory) := rfl
  rw [step_of_running hrunning hret, execute, hperform]
  simp only [follow, hempty]
  rfl

/-!
# Runs

A path lists the machines of a run of successful steps.  The invariant along it
is that the address of the call and all below it are still pending; it can only
end in the return that takes the call stack back to its old height.
-/

def IsPath (path : Nat -> Machine) (length : Nat) : Prop :=
  forall k, k < length ->
    exists instruction, (path k).step = (.ok instruction, path (k + 1))

theorem frame_of_path {path : Nat -> Machine} {length address : Nat} {below : List Nat}
    (hpath : IsPath path length) (hentered : address :: below <:+ (path 1).calls)
    {k : Nat} (hfirst : 1 ≤ k) (hlast : k ≤ length)
    (hheight : forall j, 1 ≤ j -> j ≤ k -> (path j).calls.length ≠ below.length) :
    address :: below <:+ (path k).calls := by
  induction k, hfirst using Nat.le_induction with
  | base => exact hentered
  | succ k hfirst ih =>
      have hframe : address :: below <:+ (path k).calls := by
        apply ih (Nat.le_of_succ_le hlast)
        intro j hj hjk
        exact hheight j hj (Nat.le_succ_of_le hjk)
      rcases hpath k hlast with ⟨instruction, hstep⟩
      rcases frame_of_step_ok hframe hstep with hkept | ⟨_hret, hbelow, _haddress⟩
      · exact hkept
      · have hnext := hheight (k + 1) (Nat.le_add_left 1 k) (Nat.le_refl _)
        rw [hbelow] at hnext
        exact absurd rfl hnext

theorem return_of_path {path : Nat -> Machine} {length address : Nat} {below : List Nat}
    (hpath : IsPath path length) (hentered : address :: below <:+ (path 1).calls)
    {k : Nat} (hfirst : 1 ≤ k) (hlast : k < length)
    (hheight : forall j, 1 ≤ j -> j ≤ k -> (path j).calls.length ≠ below.length)
    (hback : (path (k + 1)).calls.length = below.length) :
    (path k).step = (.ok (.plain .ret), path (k + 1)) ∧
      (path (k + 1)).calls = below ∧ (path (k + 1)).pc = address := by
  have hframe := frame_of_path hpath hentered hfirst (Nat.le_of_lt hlast) hheight
  rcases hpath k hlast with ⟨instruction, hstep⟩
  rcases frame_of_step_ok hframe hstep with hkept | ⟨hret, hbelow, haddress⟩
  · have hlonger := hkept.length_le
    rw [hback, List.length_cons] at hlonger
    omega
  · rw [hret] at hstep
    exact ⟨hstep, hbelow, haddress⟩

/-!
# The discipline of calls
-/

theorem call_discipline {machine : Machine} {operand : Label} {index : Nat}
    (hrunning : machine.status = .running)
    (hcall : machine.program[machine.pc]? = some (.label .call operand))
    (hdefined : machine.labels[operand.value]? = some index) :
    (exists next, machine.step = (.ok (.label .call operand), next) ∧
      next.callAddresses = machine.callAddresses ++ [machine.pc + 1] ∧ next.pc = index + 1) ∧
    (forall (path : Nat -> Machine) (length : Nat), path 0 = machine -> IsPath path length ->
      forall k, 1 ≤ k -> k ≤ length ->
        ((forall j, 1 ≤ j -> j ≤ k ->
            machine.callAddresses.length < (path j).callAddresses.length) ->
          machine.callAddresses ++ [machine.pc + 1] <+: (path k).callAddresses) ∧
        ((forall j, 1 ≤ j -> j < k ->
            (path j).callAddresses.length ≠ machine.callAddresses.length) ->
          (path k).callAddresses.length = machine.callAddresses.length ->
          (path (k - 1)).step = (.ok (.plain .ret), path k) ∧
            (path k).callAddresses = machine.callAddresses ∧
              (path k).pc = machine.pc + 1)) ∧
    (forall other : Machine, other.status = .running ->
      other.program[other.pc]? = some (.plain .ret) -> other.callAddresses = [] ->
      exists next, other.step = (.ok (.plain .ret), next) ∧
        next.memory.stack = other.memory.stack ∧ next.memory.heap = other.memory.heap ∧
          next.callAddresses = [] ∧ next.pc = other.pc + 1) := by
  have hstep := step_call hrunning hcall hdefined
  refine ⟨?_, ?_, ?_⟩
  · refine ⟨_, hstep, ?_, rfl⟩
    exact List.reverse_cons
  · intro path length hstart hpath k hfirst hlast
    have hentered : (machine.pc + 1) :: machine.calls <:+ (path 1).calls := by
      rcases hpath 0 (Nat.lt_of_lt_of_le hfirst hlast) with ⟨instruction, hpathStep⟩
      rw [hstart, hstep] at hpathStep
      injection hpathStep with _hinstruction hnext
      rw [← hnext]
      exact List.suffix_refl _
    simp only [callAddresses, List.length_reverse]
    constructor
    · intro hheight
      rw [← List.reverse_cons, List.reverse_prefix]
      apply frame_of_path hpath hentered hfirst hlast
      intro j hj hjk
      exact Nat.ne_of_gt (hheight j hj hjk)
    · intro hheight hback
      -- The step of the call itself makes the call stack longer.
      have hlater : k ≠ 1 := by
        intro hk
        rw [hk] at hback
        have hlonger := hentered.length_le
        rw [hback, List.length_cons] at hlonger
        omega
      rcases Nat.exists_eq_add_of_le (by omega : 2 ≤ k) with ⟨more, hmore⟩
      have hk : k = (1 + more) + 1 := by omega
      rw [hk] at hlast hheight hback ⊢
      rw [Nat.add_sub_cancel]
      rcases return_of_path hpath hentered (Nat.le_add_right 1 more) hlast
        (fun j hj hjk => hheight j hj (Nat.lt_succ_of_le hjk)) hback with
        ⟨hret, hcalls, hpc⟩
      exact ⟨hret, congrArg List.reverse hcalls, hpc⟩
  · intro other hother hret hempty
    have hcalls : other.calls = [] := List.reverse_eq_nil_iff.mp hempty
    exact ⟨_, step_ret_of_empty hother hret hcalls, rfl, rfl, hempty, rfl⟩

/-- A call of a subroutine that calls another one, and a return with nothing pending. -/
def nestedCalls : Machine :=
  withConsole
    #[.label .call ⟨[false]⟩, .plain .ret, .label .mark ⟨[false]⟩, .label .call ⟨[true]⟩,
      .plain .ret, .label .mark ⟨[true]⟩, .plain .ret]
    (Input.ofString "") Output.empty

theorem call_discipline_nestedCalls :
    exists path : Nat -> Machine, path 0 = nestedCalls ∧ IsPath path 4 ∧
      (path 2).callAddresses = [1, 4] ∧
      nestedCalls.callAddresses ++ [nestedCalls.pc + 1] <+: (path 2).callAddresses ∧
      (path 3).step = (.ok (.plain .ret), path 4) ∧
      (path 4).callAddresses = nestedCalls.callAddresses ∧
      (path 4).pc = nestedCalls.pc + 1 ∧
      exists next, (path 4).step = (.ok (.plain .ret), next) ∧
        next.memory.stack = (path 4).memory.stack ∧ next.memory.heap = (path 4).memory.heap ∧
          next.callAddresses = [] ∧ next.pc = (path 4).pc + 1 := by
  have hpath : IsPath (fun k => (advance k nestedCalls).2) 4 := by
    intro k hk
    match k, hk with
    | 0, _ => exact ⟨_, rfl⟩
    | 1, _ => exact ⟨_, rfl⟩
    | 2, _ => exact ⟨_, rfl⟩
    | 3, _ => exact ⟨_, rfl⟩
  have hcall := call_discipline (rfl : nestedCalls.status = .running)
    (rfl : nestedCalls.program[nestedCalls.pc]? = some (.label .call ⟨[false]⟩))
    (rfl : nestedCalls.labels[Label.value ⟨[false]⟩]? = some 2)
  have hdiscipline := hcall.right.left _ 4 rfl hpath
  have hinside : forall j, 1 ≤ j -> j ≤ 3 ->
      nestedCalls.callAddresses.length <
        ((fun k => (advance k nestedCalls).2) j).callAddresses.length := by
    intro j hfirst hlast
    match j, hfirst, hlast with
    | 1, _, _ => decide
    | 2, _, _ => decide
    | 3, _, _ => decide
  refine ⟨_, rfl, hpath, rfl, ?_, ?_⟩
  · apply (hdiscipline 2 (by decide) (by decide)).left
    intro j hfirst hlast
    exact hinside j hfirst (Nat.le_succ_of_le hlast)
  · have hreturn := (hdiscipline 4 (by decide) (by decide)).right
      (fun j hfirst hlast => Nat.ne_of_gt (hinside j hfirst (Nat.le_of_lt_succ hlast))) rfl
    exact ⟨hreturn.left, hreturn.right.left, hreturn.right.right,
      hcall.right.right _ rfl rfl rfl⟩

end Machine
end Whitespace
