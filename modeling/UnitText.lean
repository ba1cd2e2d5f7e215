import UnitText.Decimal.Numeral
import UnitText.Proofs.JsonLines
import UnitText.Proofs.MatchedParts
import UnitText.Proofs.RoundTrip
import UnitText.Proofs.Splitting
import UnitText.Proofs.TrimmedAffixes
import UnitText.Proofs.SessionRuns
import UnitText.Text.UnitTable
import UnitText.Proofs.Joining
import UnitText.Proofs.UnitSegments
import UnitText.Proofs.EdgeRuns
import UnitText.Proofs.BothAffixes
import UnitText.Proofs.TruthWords
import UnitText.Proofs.HashPolynomial
import UnitText.Proofs.PlacedJoins
import UnitText.Proofs.EntryLists
import UnitText.Proofs.EscapeForms
import UnitText.Proofs.BlankVariables
import UnitText.Proofs.ByteForms
import UnitText.Proofs.Padding
import UnitText.Proofs.NamedValues
