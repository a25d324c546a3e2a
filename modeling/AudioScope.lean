import AudioScope.Main
import AudioScope.Report.Json.Read
import AudioScope.Session.Step
import AudioScope.Proofs.History.Truncation
import AudioScope.Proofs.Session.Answers
import AudioScope.Proofs.Session.Reading
import AudioScope.Proofs.Session.Run
import AudioScope.Proofs.Session.Lockstep
import AudioScope.Proofs.Session.Consumption
import AudioScope.Proofs.Session.Agreement
import AudioScope.Proofs.Session.ClosedForm
import AudioScope.Proofs.Session.Batch
import AudioScope.Proofs.Device.Opening
import AudioScope.Proofs.Device.Transfers
import AudioScope.Proofs.Device.Claiming
import AudioScope.Proofs.Device.Polling
import AudioScope.Proofs.Device.Refinement
import AudioScope.Proofs.Device.EndpointSearch
import AudioScope.Proofs.Device.Choosing
import AudioScope.Proofs.Device.InForce
import AudioScope.Proofs.Monitor.Wording
import AudioScope.Proofs.Monitor.Ending
import AudioScope.Proofs.Report.Record
import AudioScope.Proofs.Report.LittleEndian
import AudioScope.Proofs.Report.Layout
import AudioScope.Proofs.FixedWidth.Text
import AudioScope.Proofs.Report.Text
import AudioScope.Proofs.Json.Number
import AudioScope.Proofs.Json.Text
import AudioScope.Proofs.Report.Json.FieldValue
import AudioScope.Proofs.Report.Json.RoundTrip
import AudioScope.Proofs.Monitor.Output
import AudioScope.Proofs.Monitor.NonInterference
import AudioScope.Proofs.Report.Json.Acceptance
import AudioScope.Proofs.CommandLine.Value
import AudioScope.Proofs.CommandLine.Assignment
import AudioScope.Proofs.Tone.Generation
import AudioScope.Proofs.CommandLine.Tone
import AudioScope.C.ArrayDefinition
import AudioScope.Proofs.Tone.Period
import AudioScope.Proofs.Tone.Text
import AudioScope.Proofs.Tone.Definition
import AudioScope.Proofs.CommandLine.Settings
import AudioScope.Proofs.CommandLine.Printed
import AudioScope.Proofs.Json.Numeral
import AudioScope.Proofs.Report.Json.Offence
import AudioScope.Proofs.Json.Recognition
import AudioScope.Proofs.Report.Json.Recognition
import AudioScope.Proofs.Report.Json.FirstProblem
import AudioScope.Report.Json.Offence
