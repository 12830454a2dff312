/-!
# What can go wrong with schemas

A message names the place that the error is about, an address or a location, as it is printed.
-/

namespace JsonTypes

inductive SchemaError where
  | invalidDocument (address reason : String)
  | unresolvableAddress (address : String)
  | fetch (address message : String)
  | unresolvedPointer (reference reason : String)
  | circularReference (location : String)
  | unsupported (location reason : String)
  | io
  /-- The run was given fewer steps than it needs. -/
  | outOfSteps
deriving DecidableEq, Repr

def SchemaError.message : SchemaError → String
  | invalidDocument address reason => "Invalid schema document at " ++ address ++ ": " ++ reason
  | unresolvableAddress address => "Cannot resolve schema address: " ++ address
  | fetch address message => "Failed to fetch schema " ++ address ++ ": " ++ message
  | unresolvedPointer reference reason =>
    "Reference " ++ reference ++ " does not resolve: " ++ reason
  | circularReference location => "Circular reference at " ++ location
  | unsupported location reason => "Unsupported schema at " ++ location ++ ": " ++ reason
  | io => "IO error"
  | outOfSteps => "Out of steps"

end JsonTypes
