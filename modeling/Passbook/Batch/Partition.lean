import Passbook.Batch.Forest
import Passbook.Operation

/-!
# Groups of commands that touch common accounts

Commands are linked if they share an account of their footprints. `partition`
splits a list of commands into the groups that links tie together: a command
joins the tree of the first command that named one of its accounts, and the
trees are the groups. Groups come in the order of their first commands, and each
keeps the order of the list.
-/

namespace Passbook.Batch

/-- The forest so far, and the first command that named each account. -/
structure Links where
  forest : Forest
  firstSeen : List (AccountId × Nat)

namespace Links

/-- Links a command to the first one that named the account, or remembers it as
that one. -/
def see (index : Nat) (links : Links) (account : AccountId) : Links :=
  match links.firstSeen.lookup account with
  | some other => { links with forest := links.forest.union index other }
  | none => { links with firstSeen := (account, index) :: links.firstSeen }

/-- Links a command through all accounts of its footprint. -/
def seeCommand (links : Links) (indexed : Command × Nat) : Links :=
  (indexed.1.operation.footprint.getD []).foldl (see indexed.2) links

/-- The links among commands. -/
def ofCommands (commands : List Command) : Links :=
  commands.zipIdx.foldl seeCommand ⟨.singletons commands.length, []⟩

end Links

/-- The root of each of the first `n` indices. -/
def roots (forest : Forest) (n : Nat) : Array Nat :=
  ((List.range n).foldl (fun (found, forest) i =>
    let (root, forest) := forest.find i
    (found.push root, forest)) ((#[] : Array Nat), forest)).1

/-- The items with each of the keys, in order. -/
def groupBy {α : Type} (keys : List Nat) (keyed : List (α × Nat)) :
    List (List α) :=
  keys.map fun key => (keyed.filter (·.2 == key)).map (·.1)

/-- The groups of commands that are linked, in the order of their first
commands. -/
def partition (commands : List Command) : List (List Command) :=
  let roots := roots (Links.ofCommands commands).forest commands.length
  let keyed := commands.zip roots.toList
  groupBy ((List.range commands.length).filter fun i => roots[i]? == some i)
    keyed

end Passbook.Batch
