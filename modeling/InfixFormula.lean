import InfixFormula.Engine.Configuration
import InfixFormula.Main
import InfixFormula.Proofs.Bracket.Sightings
import InfixFormula.Proofs.Bracket.Stripping
import InfixFormula.Proofs.Engine.AngleUnit
import InfixFormula.Proofs.Engine.Calculation
import InfixFormula.Proofs.Engine.DepthLimit
import InfixFormula.Proofs.Engine.Difference
import InfixFormula.Proofs.Engine.EqualsFault
import InfixFormula.Proofs.Engine.Juxtaposition
import InfixFormula.Proofs.Engine.Meaning
import InfixFormula.Proofs.Engine.Numerals
import InfixFormula.Proofs.Engine.OuterBrackets
import InfixFormula.Proofs.Engine.Products
import InfixFormula.Proofs.Engine.RoundTrip
import InfixFormula.Proofs.Engine.SavedSettings
import InfixFormula.Proofs.Formula.Overflow
import InfixFormula.Proofs.Formula.Parts
import InfixFormula.Proofs.Number.Guards
import InfixFormula.Proofs.Number.Infinities
import InfixFormula.Proofs.Settings.Loading
import InfixFormula.Proofs.Settings.Saving
import InfixFormula.Proofs.Term.Blame
