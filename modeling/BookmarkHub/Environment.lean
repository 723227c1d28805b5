/-!
# The environment of a run

A run is in production, in development or under test, as the variable
`GEEKMARKS_ENV` says.
-/

set_option autoImplicit false

namespace BookmarkHub

abbrev Variables := List (String × String)

inductive Environment where
  | production
  | development
  | test
  deriving DecidableEq, Repr, Inhabited

namespace Environment

/-- The environment that the variables select; without a known name it is
production. -/
def ofVariables (bindings : Variables) : Environment :=
  match bindings.lookup "GEEKMARKS_ENV" with
  | some "test" => .test
  | some "development" => .development
  | some "dev" => .development
  | _ => .production

def name : Environment → String
  | .production => "production"
  | .development => "development"
  | .test => "test"

def isTest (environment : Environment) : Bool := environment == .test

def isDevelopment (environment : Environment) : Bool := environment == .development

end Environment

end BookmarkHub
