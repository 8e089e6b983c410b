/-!
# Errors

Everything that can go wrong, from reading a scenario to checking a response, in one type.  Each
constructor is one way to fail; what exactly was wrong is worked out by the part of the library
where it happened and carried as text.  `kind` sorts errors into the few classes a caller tells
apart, and `message` is the text a user sees.
-/

namespace HttpScenario

/-- An error. -/
inductive Error where
  /-- A request could not be made. -/
  | build (message : String)
  /-- A request could not be sent, or was not answered. -/
  | transport (message : String)
  /-- The body of an answer could not be read. -/
  | bodyRead (message : String)
  /-- The body of an answer is not the object that was expected. -/
  | parse (message : String)
  /-- An answer is not as expected. -/
  | expectation (message : String)
  /-- An expression cannot be checked at all. -/
  | evaluator (message : String)
  /-- A configuration cannot be used. -/
  | config (message : String)
  /-- A configuration file cannot be read as one. -/
  | configParse (message : String)
  | io (message : String)
  | fileRead (path message : String)
  | json (message : String)
  | yaml (message : String)
  deriving DecidableEq, Repr

/-- The classes of errors. -/
inductive ErrorKind where
  | build
  | transport
  | io
  | parse
  | expectation
  | evaluator
  | config
  deriving DecidableEq, Repr

namespace Error

/-- The class of an error. -/
def kind : Error → ErrorKind
  | .build _ => .build
  | .transport _ => .transport
  | .bodyRead _ => .io
  | .io _ => .io
  | .fileRead _ _ => .io
  | .parse _ => .parse
  | .json _ => .parse
  | .yaml _ => .parse
  | .expectation _ => .expectation
  | .evaluator _ => .evaluator
  | .config _ => .config
  | .configParse _ => .config

/-- The text of an error. -/
def message : Error → String
  | .build m => "Failed to create request: " ++ m
  | .transport m => "Failed to execute request: " ++ m
  | .bodyRead m => "Failed to get response body: " ++ m
  | .parse m => "Failed to parse response body into map: " ++ m
  | .expectation m => "Expectation failed. " ++ m
  | .evaluator m => "Failed to get evaluator: " ++ m
  | .config m => "Configuration error: " ++ m
  | .configParse m => "Invalid configuration file: " ++ m
  | .io m => "IO error: " ++ m
  | .fileRead path m => "Failed to read file '" ++ path ++ "': " ++ m
  | .json m => "JSON error: " ++ m
  | .yaml m => "YAML error: " ++ m

/-- An answer has another status than the one expected. -/
def statusMismatch (expected actual : UInt16) : Error :=
  .expectation ("Expect status: " ++ toString expected.toNat ++ ", got: " ++ toString actual.toNat)

end Error

end HttpScenario
