import EmbeddingLatency.Text.Blank

/-!
# Accounts

The account that a program runs under has a number, which the status of the program names, and a
home directory, which a list of all accounts names. An account that is not listed has no home.
-/

set_option autoImplicit false

namespace EmbeddingLatency.Host

open EmbeddingLatency.Text (lines words splitBy)

/-- The number of the account, as it stands in the status of a program. -/
def accountNumber? (status : String) : Option (List Char) :=
  (lines status.toList).findSome? fun line =>
    match words line with
    | label :: number :: _ => if label = "Uid:".toList then some number else none
    | _ => none

/-- The home directory in a line of the list, if the line is about the account with this number and
    names one. -/
def homeIn? (number line : List Char) : Option String :=
  match splitBy (· = ':') line with
  | [_, _, listed, _, _, home, _] =>
    if listed = number ∧ home ≠ [] then some (String.ofList home) else none
  | _ => none

/-- The home directory of the account that a program runs under. -/
def accountHome? (status accounts : String) : Option String :=
  (accountNumber? status).bind fun number => (lines accounts.toList).findSome? (homeIn? number)

example :
    accountHome? "Name:\tx\nUid:\t7\t7\t7\t7\n" "a:x:0:0::/a:/bin/a\nb:x:7:7:B:/home/b:/bin/b\n" =
      some "/home/b" := by decide +kernel

end EmbeddingLatency.Host
