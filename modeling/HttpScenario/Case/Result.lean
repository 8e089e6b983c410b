import HttpScenario.Case.Basic
import HttpScenario.Http.Reply
/-!
# Results

The result of running a case is a flat record, so that many results can be put into one table.  It
starts from what the case says, not yet successful, and is filled in while the case runs.
-/

namespace HttpScenario

/-- The result of running a case. -/
structure TestResult where
  /-- When the case was started, in nanoseconds since 1970. -/
  timestamp : Int64
  scenarioName : String
  testCaseOrder : UInt32
  testCaseName : String
  requestMethod : String
  requestUrl : String
  responseCode : UInt16 := 0
  responseSize : UInt64 := 0
  timing : Timing := {}
  success : Bool := false
  expectedCode : UInt16
  message : String := ""
  deriving DecidableEq, Repr, Inhabited

namespace TestResult

/-- The result of a case that has just been started. -/
def begin (startedAt : Int64) (scenarioName : String) (case : TestCase) : TestResult :=
  { timestamp := startedAt
    scenarioName := scenarioName
    testCaseOrder := case.order
    testCaseName := case.name
    requestMethod := case.request.method
    requestUrl := case.request.url
    expectedCode := case.expect.statusCode }

/-- Ends a result as a failure. -/
def fail (message : String) (result : TestResult) : TestResult :=
  { result with success := false, message := message }

/-- Ends a result as a success. -/
def succeed (message : String) (result : TestResult) : TestResult :=
  { result with success := true, message := message }

/-- The fields of a result. -/
def shape : Shape :=
  .record "TestResult" [
    ("timestamp", .signed64, none),
    ("scenario_name", .text, none),
    ("test_case_order", .word32, none),
    ("test_case_name", .text, none),
    ("request_method", .text, none),
    ("request_url", .text, none),
    ("response_code", .word16, none),
    ("response_size", .word64, none),
    ("timing_dns", .real, none),
    ("timing_handshake", .real, none),
    ("timing_connected", .real, none),
    ("timing_first_byte", .real, none),
    ("timing_total", .real, none),
    ("success", .flag, none),
    ("expected_code", .word16, none),
    ("message", .text, none)]

/-- The result that a document read by the shape stands for. -/
def ofJson (value : Json) : TestResult :=
  { timestamp := Int64.ofInt (value.field "timestamp").toInt
    scenarioName := (value.field "scenario_name").toText
    testCaseOrder := UInt32.ofNat (value.field "test_case_order").toNat
    testCaseName := (value.field "test_case_name").toText
    requestMethod := (value.field "request_method").toText
    requestUrl := (value.field "request_url").toText
    responseCode := UInt16.ofNat (value.field "response_code").toNat
    responseSize := UInt64.ofNat (value.field "response_size").toNat
    timing :=
      { dns := (value.field "timing_dns").toReal
        tlsHandshake := (value.field "timing_handshake").toReal
        connect := (value.field "timing_connected").toReal
        firstByte := (value.field "timing_first_byte").toReal
        total := (value.field "timing_total").toReal }
    success := (value.field "success").toFlag
    expectedCode := UInt16.ofNat (value.field "expected_code").toNat
    message := (value.field "message").toText }

/-- The document of a result. -/
def toJson (r : TestResult) : Json :=
  .obj [
    ("timestamp", .int r.timestamp.toInt),
    ("scenario_name", .str r.scenarioName),
    ("test_case_order", .int r.testCaseOrder.toNat),
    ("test_case_name", .str r.testCaseName),
    ("request_method", .str r.requestMethod),
    ("request_url", .str r.requestUrl),
    ("response_code", .int r.responseCode.toNat),
    ("response_size", .int r.responseSize.toNat),
    ("timing_dns", .num (.real r.timing.dns)),
    ("timing_handshake", .num (.real r.timing.tlsHandshake)),
    ("timing_connected", .num (.real r.timing.connect)),
    ("timing_first_byte", .num (.real r.timing.firstByte)),
    ("timing_total", .num (.real r.timing.total)),
    ("success", .bool r.success),
    ("expected_code", .int r.expectedCode.toNat),
    ("message", .str r.message)]

end TestResult

end HttpScenario
