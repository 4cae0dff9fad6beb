/-!
# Errors

What can go wrong in a filter, in a render and in a configuration, by cause.
`message` gives the wording.
-/

namespace BraceTemplate

inductive FilterError where
  | invalidInput (filter reason : String)
  /-- An argument is absent; positions count from one. -/
  | missingArgument (filter : String) (position : Nat)
  | invalidArgument (filter argument reason : String)
  | unknown (name : String)
  | methodNotFound (method : String)
  deriving DecidableEq, Repr

namespace FilterError

def message : FilterError → String
  | invalidInput filter reason =>
      "Filter '" ++ filter ++ "' cannot process the input: " ++ reason
  | missingArgument filter position =>
      "Filter '" ++ filter ++ "' is missing argument " ++ toString position
  | invalidArgument filter argument reason =>
      "Filter '" ++ filter ++ "' received an invalid argument '" ++ argument ++ "': " ++ reason
  | unknown name => "Unknown filter: " ++ name
  | methodNotFound method => "Method not found: " ++ method

end FilterError

inductive RenderError where
  /-- A filter failed and the policy does not let that pass. -/
  | filter (name : String) (cause : FilterError)
  /-- Nodes are nested deeper than the limit. -/
  | depthLimit (limit : Nat)
  | templateTooLarge (size limit : Nat)
  deriving DecidableEq, Repr

namespace RenderError

def message : RenderError → String
  | filter name cause => "Filter '" ++ name ++ "' failed: " ++ cause.message
  | depthLimit limit => "Render depth limit of " ++ toString limit ++ " exceeded"
  | templateTooLarge size limit =>
      "Template size " ++ toString size ++ " bytes exceeds limit of " ++ toString limit ++ " bytes"

end RenderError

inductive ConfigError where
  /-- The text is not a configuration. -/
  | parse
  /-- A field has a value that cannot be used. -/
  | invalid (field reason : String)
  deriving DecidableEq, Repr

namespace ConfigError

def message : ConfigError → String
  | parse => "Failed to parse configuration"
  | invalid field reason => "Invalid configuration value for " ++ field ++ ": " ++ reason

end ConfigError

end BraceTemplate
