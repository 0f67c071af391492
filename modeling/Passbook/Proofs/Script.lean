import Passbook.Proofs.Agreement
import Passbook.Script

/-!
# The commands of a script

A row gives a command or a fault, and the commands of a script are those of its
rows that are in order. Reading in batches finds the same commands: a batch
takes up to its size of them and leaves the rest, and no batch is empty before
there are none left.

A row gives the kind of an account by its name, so every kind in a script has
been made and is valid.

## Main results

* `kindMade_commands` — the kinds in the commands of a script.
* `flatten_batches` — the batches of a script have its commands.
-/

namespace Passbook.Script

open Transact

/-! ## Kinds -/

/-- A row makes kinds by their names. -/
theorem kindMade_of_operation {row : Row} {verb : Verb} {operation : Operation}
    (reads : row.operation verb = .ok operation) : operation.KindMade := by
  cases verb with
  | openAccount =>
    obtain ⟨parameter, -, reads⟩ := bind_eq_ok reads
    obtain ⟨account, -, reads⟩ := bind_eq_ok reads
    obtain ⟨owner_text, -, reads⟩ := bind_eq_ok reads
    obtain ⟨owner, -, reads⟩ := bind_eq_ok reads
    obtain ⟨kind_text, -, reads⟩ := bind_eq_ok reads
    obtain ⟨kind, made, reads⟩ := bind_eq_ok reads
    cases reads
    exact .parse made
  | close =>
    obtain ⟨account, -, reads⟩ := bind_eq_ok reads
    cases reads
    trivial
  | deposit | withdraw | setLimit =>
    obtain ⟨account, -, reads⟩ := bind_eq_ok reads
    obtain ⟨amount, -, reads⟩ := bind_eq_ok reads
    cases reads
    trivial
  | transfer =>
    obtain ⟨source, -, reads⟩ := bind_eq_ok reads
    obtain ⟨destination_text, -, reads⟩ := bind_eq_ok reads
    obtain ⟨destination, -, reads⟩ := bind_eq_ok reads
    obtain ⟨amount, -, reads⟩ := bind_eq_ok reads
    cases reads
    trivial
  | interest =>
    obtain ⟨account, -, reads⟩ := bind_eq_ok reads
    cases reads
    trivial

theorem kindMade_of_toCommand {row : Row} {command : Command}
    (reads : row.toCommand = .ok command) : command.operation.KindMade := by
  obtain ⟨principal, -, reads⟩ := bind_eq_ok reads
  cases named : Verb.ofName? row.command with
  | none =>
    rw [named] at reads
    cases reads
  | some verb =>
    rw [named] at reads
    obtain ⟨operation, operation_reads, reads⟩ := bind_eq_ok reads
    cases reads
    exact kindMade_of_operation operation_reads

theorem kindMade_of_result {row : Except Csv.Problem Row} {index : Nat}
    {command : Command} (reads : result row index = .ok command) :
    command.operation.KindMade := by
  unfold result at reads
  split at reads
  · cases reads
  · rename_i row
    cases row_reads : row.toCommand with
    | error fault =>
      rw [row_reads] at reads
      cases reads
    | ok read =>
      rw [row_reads] at reads
      cases reads
      exact kindMade_of_toCommand row_reads

/-- The commands of a script have kinds that were made by their names. -/
theorem kindMade_commands (content : Content) :
    ∀ command ∈ commands content.results, command.operation.KindMade := by
  intro command mem
  obtain ⟨given, given_mem, given_eq⟩ := List.mem_filterMap.1 mem
  cases given with
  | error fault => cases given_eq
  | ok read =>
    cases given_eq
    cases content with
    | read bytes =>
      obtain ⟨⟨row, index⟩, -, reads⟩ := List.mem_map.1 given_mem
      exact kindMade_of_result reads
    | unreadable reason =>
      cases List.mem_singleton.1 given_mem

/-! ## Batches -/

/-- A batch, and the commands behind it, are the commands there are. -/
theorem takeBatch_append (size : Nat) (results : List (Except Fault Command)) :
    (takeBatch size results).1 ++ commands (takeBatch size results).2 =
      commands results := by
  fun_induction takeBatch size results with
  | case1 rest => rfl
  | case2 size => rfl
  | case3 size command rest batch behind eq ih =>
    rw [eq] at ih
    exact congrArg (command :: ·) ih
  | case4 size fault rest ih => exact ih

/-- There is no command left where a batch stays empty. -/
theorem commands_of_takeBatch_nil {size : Nat} (positive : 0 < size)
    {results : List (Except Fault Command)}
    (empty : (takeBatch size results).1 = []) : commands results = [] := by
  fun_induction takeBatch size results with
  | case1 rest => cases positive
  | case2 size => rfl
  | case3 size command rest batch behind eq ih => cases empty
  | case4 size fault rest ih => exact ih positive empty

/-- The batches of a script have its commands, in order. -/
theorem flatten_batches {size : Nat} (positive : 0 < size)
    (results : List (Except Fault Command)) :
    (batches size results).flatten = commands results := by
  fun_induction batches size results with
  | case1 results empty => exact (commands_of_takeBatch_nil positive empty).symm
  | case2 results some_left ih =>
    rw [List.flatten_cons, ih, takeBatch_append]

end Passbook.Script
