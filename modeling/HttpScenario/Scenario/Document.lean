import HttpScenario.Error
import HttpScenario.Scenario.Basic
import HttpScenario.Scenario.Format
import HttpScenario.Shape.Reader
import HttpScenario.Yaml.Printer
import HttpScenario.Yaml.Reader
/-!
# Scenario documents

A scenario is read from a text in one of the formats and written as one.  Both formats keep the same
fields; the cache of a scenario is kept by neither.
-/

namespace HttpScenario

/-- The value of a text in a format, read by a shape. -/
def Format.read (format : Format) (shape : Shape) (text : String) : Except Error Json :=
  match format with
  | .json => (Shape.parseText shape text).mapError fun fault => .json fault.message
  | .yaml => (Yaml.parseText shape text).mapError fun fault => .yaml fault.message

/-- The text of a value in a format. -/
def Format.write (format : Format) (value : Json) : String :=
  match format with
  | .json => value.pretty
  | .yaml => Yaml.render value

namespace Scenario

/-- Reads a scenario; its cache is empty. -/
def parse (format : Format) (text : String) : Except Error Scenario :=
  (format.read shape text).map ofJson

/-- Writes a scenario; its cache is left out. -/
def encode (format : Format) (scenario : Scenario) : String :=
  format.write scenario.toJson

end Scenario

end HttpScenario
