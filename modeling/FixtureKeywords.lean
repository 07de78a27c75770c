import FixtureKeywords.Main
import FixtureKeywords.Process.Runner
import FixtureKeywords.Random.Request
import FixtureKeywords.Random.Scripted
import FixtureKeywords.Integers.Builder
import FixtureKeywords.Temporal.Builder
import FixtureKeywords.Proofs.Text.Spelling
import FixtureKeywords.Proofs.Keyword.Split
import FixtureKeywords.Proofs.Keyword.Braces
import FixtureKeywords.Proofs.Strings.Addition
import FixtureKeywords.Proofs.Text.Numeral
import FixtureKeywords.Proofs.Strings.Length
import FixtureKeywords.Proofs.Keyword.Envelope
import FixtureKeywords.Proofs.Strings.Written
import FixtureKeywords.Proofs.Strings.Elimination
import FixtureKeywords.Proofs.Strings.RoundTrip
import FixtureKeywords.Proofs.Calendar.Date
import FixtureKeywords.Proofs.Zone.Atlas
import FixtureKeywords.Proofs.Zone.Basic
import FixtureKeywords.Proofs.Zone.Id
import FixtureKeywords.Proofs.Temporal.Offset
import FixtureKeywords.Proofs.Temporal.Resolve
import FixtureKeywords.Proofs.Temporal.SystemZone
import FixtureKeywords.Proofs.Temporal.Braces
import FixtureKeywords.Proofs.Keyword.Parsing
import FixtureKeywords.Proofs.Keyword.Conservation
import FixtureKeywords.Proofs.Keyword.Tiling
import FixtureKeywords.Proofs.Keyword.Sequence
import FixtureKeywords.Proofs.Keyword.Elimination
import FixtureKeywords.Proofs.Keyword.Flat
import FixtureKeywords.Proofs.Temporal.Written
import FixtureKeywords.Proofs.Temporal.RoundTrip
import FixtureKeywords.Proofs.Text.Significant
import FixtureKeywords.Proofs.Temporal.Totals
import FixtureKeywords.Proofs.Process.Chronicle
import FixtureKeywords.Proofs.Integers.Written
import FixtureKeywords.Proofs.Integers.RoundTrip
import FixtureKeywords.Proofs.Integers.Builder
import FixtureKeywords.Proofs.Settings.Load
import FixtureKeywords.Proofs.Command.Run
import FixtureKeywords.Proofs.Strings.Calls
import FixtureKeywords.Proofs.Integers.Calls
import FixtureKeywords.Proofs.Temporal.Calls
import FixtureKeywords.Proofs.Command.Loading
import FixtureKeywords.Proofs.Integers.Parity
import FixtureKeywords.Proofs.Process.Household
import FixtureKeywords.Proofs.Integers.Reach
import FixtureKeywords.Proofs.Command.Rounds
import FixtureKeywords.Proofs.Settings.Precedence
import FixtureKeywords.Proofs.Strings.Pattern
import FixtureKeywords.Proofs.Strings.Payload
import FixtureKeywords.Proofs.Strings.Drawn
import FixtureKeywords.Proofs.Temporal.Clock
import FixtureKeywords.Proofs.Temporal.Start
import FixtureKeywords.Proofs.Temporal.Refusal
import FixtureKeywords.Proofs.Keyword.Numerals
import FixtureKeywords.Proofs.Temporal.Printed
import FixtureKeywords.Proofs.Text.Decomposed
import FixtureKeywords.Proofs.Text.Composed
import FixtureKeywords.Proofs.Text.Lowercase
import FixtureKeywords.Proofs.Text.Phrase
import FixtureKeywords.Proofs.Random.Seed
import FixtureKeywords.Proofs.Text.Letters
import FixtureKeywords.Proofs.Keyword.Dispatch
import FixtureKeywords.Proofs.Text.Recased
import FixtureKeywords.Proofs.Keyword.Recased
import FixtureKeywords.Proofs.Strings.Recased
import FixtureKeywords.Proofs.Keyword.Casing
import FixtureKeywords.Proofs.Settings.Overlay
import FixtureKeywords.Proofs.Text.Words
import FixtureKeywords.Proofs.Process.Program
import FixtureKeywords.Proofs.Random.SeedText
import FixtureKeywords.Proofs.Command.Seeding
