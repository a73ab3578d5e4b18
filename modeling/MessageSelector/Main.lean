import MessageSelector.Command.Line
import MessageSelector.Regex.Plain

/-! The program: it reads the command line, prints the report and exits with its code. -/

open MessageSelector

/-- Prints the log and the error to the error stream, and the output to the output stream. -/
def main (arguments : List String) : IO UInt32 := do
  match Arguments.ofList arguments with
  | .error error =>
    IO.eprintln s!"error: {error.message}"
    return 2
  | .ok arguments =>
    let report := Command.run arguments
    for record in report.shownRecords arguments.debug do
      IO.eprintln s!"{record.level.text}: {record.message}"
    for line in report.output do
      IO.println line
    if let some error := report.error then
      IO.eprintln s!"error: {error.message}"
    return report.exitCode.toUInt32
