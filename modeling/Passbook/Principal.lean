import Passbook.Identifier

/-!
# Principals: on whose behalf a command runs

A principal is an administrator, the holder of an account, or nobody in
particular.
-/

namespace Passbook

/-- On whose behalf a command runs. -/
inductive Principal where
  | administrator
  | holder (owner : OwnerId)
  | anonymous
deriving DecidableEq

namespace Principal

/-- Whether the principal is an administrator. -/
def isAdministrator : Principal → Bool
  | administrator => true
  | _ => false

/-- The customer that the principal acts for. -/
def owner? : Principal → Option OwnerId
  | holder owner => some owner
  | _ => none

/-- How a principal is written. -/
def text : Principal → String
  | administrator => "admin"
  | holder owner => s!"holder:{owner}"
  | anonymous => "anonymous"

instance : ToString Principal := ⟨text⟩

/--
Reads a principal from trimmed characters: a keyword in any letter case, or
`holder`, a colon and an owner id with blanks allowed around it.
-/
def ofChars (cs : List Char) : Except Fault Principal :=
  let word := Text.lowerChars cs
  if word = [] ∨ word = "anonymous".toList then .ok anonymous
  else if word = "admin".toList ∨ word = "administrator".toList then
    .ok administrator
  else
    let role := cs.takeWhile (· != ':')
    match cs.dropWhile (· != ':') with
    | _ :: owner =>
      if Text.lowerChars role = "holder".toList then
        (OwnerId.parse (String.ofList (Text.trimChars owner))).map holder
      else .error (.malformedPrincipal (String.ofList cs))
    | [] => .error (.malformedPrincipal (String.ofList cs))

/-- Reads a principal, blanks around it aside. -/
def parse (s : String) : Except Fault Principal :=
    ofChars (Text.trimChars s.toList)

end Principal

end Passbook
