import CucumberExpression.Main
import CucumberExpression.Proofs.CommandLine.Agreement
import CucumberExpression.Proofs.Expression.RoundTrip
import CucumberExpression.Proofs.Node.OnePassReading
import CucumberExpression.Proofs.Node.Verdict
import CucumberExpression.Proofs.Node.Emission
import CucumberExpression.Proofs.Token.Encoding
import CucumberExpression.Proofs.Node.Runs
import CucumberExpression.Proofs.Node.Reparse
import CucumberExpression.Proofs.Node.Grammatical
import CucumberExpression.Proofs.Node.Ending
import CucumberExpression.Proofs.Node.Juxtaposition
import CucumberExpression.Proofs.Node.Mending
import CucumberExpression.Proofs.Node.Nesting
import CucumberExpression.Proofs.Node.Lettering
import CucumberExpression.Proofs.Token.Resumption
import CucumberExpression.Proofs.Node.Frame
import CucumberExpression.Proofs.Node.Recovery
import CucumberExpression.Proofs.Node.Data
import CucumberExpression.Proofs.Span.ByteRange
import CucumberExpression.Proofs.Report.Label
import CucumberExpression.Proofs.CommandLine.Gathering
import CucumberExpression.Proofs.CommandLine.Listing
import CucumberExpression.Proofs.Node.Margins
import CucumberExpression.Proofs.Node.Elements
import CucumberExpression.Proofs.Node.PlainText
