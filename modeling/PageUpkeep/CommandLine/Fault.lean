import PageUpkeep.Terminal.Style

/-! What can be wrong with the words of a command line. -/

set_option autoImplicit false

namespace PageUpkeep.CommandLine

inductive ValueFault where
  | empty
  | refused (message : String)
  deriving DecidableEq, Repr

/-- Why a command line is not understood. Arguments are named as the manual shows them. -/
inductive UsageFault where
  | unknownArgument (written : String)
  | unknownCommand (written : String)
  | missingArguments
  | missingCommand (path : String)
  | missingValue (argument : String)
  | invalidValue (written argument message : String)
  | unexpectedValue (written argument : String)
  | repeatedArgument (argument : String)
  deriving DecidableEq, Repr

namespace UsageFault

def headline (fault : UsageFault) : String :=
  let written (text : String) := "'" ++ Style.yellow.paint true text ++ "'"
  let wanted (text : String) := "'" ++ Style.bold.paint true text ++ "'"
  Style.boldRed.paint true "error:" ++ " " ++
    match fault with
    | unknownArgument text => "unexpected argument " ++ written text ++ " found"
    | unknownCommand text => "unrecognized subcommand " ++ written text
    | missingArguments => "the following required arguments were not provided:"
    | missingCommand path => written path ++ " requires a subcommand but one was not provided"
    | missingValue argument => "a value is required for " ++ written argument ++ " but none was supplied"
    | invalidValue text argument message =>
      "invalid value " ++ written text ++ " for " ++ wanted argument ++ ": " ++ message
    | unexpectedValue text argument =>
      "unexpected value " ++ written text ++ " for " ++ wanted argument ++
        " found; no more were expected"
    | repeatedArgument argument =>
      "the argument " ++ written argument ++ " cannot be used multiple times"

def report (fault : UsageFault) : String :=
  fault.headline ++ "\n\nFor more information, try '" ++ Style.bold.paint true "--help" ++ "'.\n"

end UsageFault

end PageUpkeep.CommandLine
