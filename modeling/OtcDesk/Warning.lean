namespace OtcDesk

/-- A remark for the log. -/
inductive Warning where
  | demoKey
  | unreadableFile (path : String)
  | malformedRecord (key : String)
  | severalJobs (run : String) (count : Nat) (shown : String)
  | fetchFailed (run message : String)
  deriving DecidableEq, Repr

/-- The words of a remark. -/
def Warning.text : Warning → String
  | .demoKey => "No intent encryption key configured; using the demo key"
  | .unreadableFile path => "Ignoring unreadable session file " ++ path
  | .malformedRecord key => "Discarding malformed session record under " ++ key
  | .severalJobs run count shown =>
    "Run " ++ run ++ " has " ++ toString count ++ " proof jobs; showing " ++ shown
  | .fetchFailed run message => "Proof job fetch for " ++ run ++ " failed: " ++ message

end OtcDesk
