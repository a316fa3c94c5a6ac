import StreamWatch.Main
import StreamWatch.Proofs.Poll.Rounds
import StreamWatch.Proofs.Runner.Evidence
import StreamWatch.Sample.Scripts
import StreamWatch.Proofs.Link.Codec
import StreamWatch.Proofs.Link.Splitting
import StreamWatch.Proofs.Stream.Links
import StreamWatch.Proofs.Poll.Schedule
import StreamWatch.Proofs.Browser.Lifetime
import StreamWatch.Proofs.Runner.Closing
import StreamWatch.Proofs.Session.Endurance
import StreamWatch.Proofs.Runner.Isolation
import StreamWatch.Proofs.Runner.TwoBrowsers
import StreamWatch.Proofs.Runner.Shortfall
import StreamWatch.Proofs.Runner.Consistency
import StreamWatch.Proofs.Report.RoundTrip
import StreamWatch.Proofs.Runner.Blindness
import StreamWatch.Proofs.Runner.Discipline
import StreamWatch.Proofs.CommandLine.Exit
import StreamWatch.Proofs.Link.Joining
import StreamWatch.Proofs.Runner.Preparation
import StreamWatch.Proofs.Poll.Sparing
import StreamWatch.Proofs.Poll.Relaxing
import StreamWatch.Proofs.Scenario.Judgement
import StreamWatch.Proofs.Verdict.Matching
import StreamWatch.Proofs.Poll.Precedence
import StreamWatch.Proofs.Sample.Tolerance
import StreamWatch.Proofs.Runner.Tolerance
import StreamWatch.Proofs.Runner.Pictures
import StreamWatch.Proofs.Verdict.Growth
import StreamWatch.Proofs.Verdict.Arrangement
import StreamWatch.Proofs.Runner.Leniency
import StreamWatch.Proofs.Stream.Handshake
import StreamWatch.Proofs.Stream.Salt
import StreamWatch.Proofs.Runner.Reportable
import StreamWatch.Proofs.Console.Stripping
import StreamWatch.Proofs.Stream.Encodings
import StreamWatch.Proofs.Link.Setting
