/-!
What a run reports beside its result, by cause, in the order it happens.
-/

namespace ReplayFlow

inductive Level where
  | info
  | warning
  | error
  deriving DecidableEq

inductive Notice where
  | unrecognisedFormat (tcode : String)
  | unknownReference (step reference key following : String)
  | notExitStep (step : String)
  | aliasConflict (name : String) (tcodes : List String)
  | skipped (source reason : String)
  | replaced (tcode source : String)
  | violation (tcode message step : String)
  | unreadableAliases (path place : String)
  | unreadableFlow (file place : String)
  | notInteger (name rawText : String) (default : Nat)
  | compilationFailed (message : String)
  | compiled (files : Nat) (directory : String) (skipped violating : Nat)
  deriving DecidableEq

namespace Notice

def level : Notice → Level
  | unrecognisedFormat _ => .info
  | compiled .. => .info
  | compilationFailed _ => .error
  | _ => .warning

def message : Notice → String
  | unrecognisedFormat tcode =>
    "Unrecognised recording format for " ++ tcode ++ ", falling back to legacy"
  | unknownReference step reference key following =>
    "Step " ++ step ++ " references unknown step " ++ reference ++ " via " ++ key ++
      ", redirecting to " ++ following
  | notExitStep step => "Step " ++ step ++ " is not an exit step, forcing terminal action"
  | aliasConflict name tcodes =>
    "Alias " ++ name ++ " maps to different paths in " ++ ", ".intercalate tcodes ++
      ", keeping it per transaction"
  | skipped source reason => "Skipping " ++ source ++ ": " ++ reason
  | replaced tcode source =>
    "Transaction " ++ tcode ++ " from " ++ source ++ " replaces an earlier recording"
  | violation tcode message step => tcode ++ ": " ++ message ++ " (" ++ step ++ ")"
  | unreadableAliases path place => "Ignoring unreadable " ++ path ++ ": " ++ place
  | unreadableFlow file place => "Skipping unreadable flow " ++ file ++ ": " ++ place
  | notInteger name rawText default =>
    "Ignoring non-integer " ++ name ++ "=" ++ rawText ++ ", using " ++ toString default
  | compilationFailed message => "Compilation failed: " ++ message
  | compiled files directory passed violating =>
    "Wrote " ++ toString files ++ " files to " ++ directory ++ " (" ++ toString passed ++
      " skipped, " ++ toString violating ++ " flows with violations)"

end Notice

end ReplayFlow
