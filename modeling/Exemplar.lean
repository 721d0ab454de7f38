import Exemplar.Draw.Scripted
import Exemplar.Log.Logger
import Exemplar.Machine.Standin
import Exemplar.Main
import Exemplar.Proofs.Anchors
import Exemplar.Proofs.Call.Build
import Exemplar.Proofs.CommandLine
import Exemplar.Proofs.Console.Printed
import Exemplar.Proofs.Docstring.Decorated
import Exemplar.Proofs.Docstring.Sections
import Exemplar.Proofs.Hint.Bindings
import Exemplar.Proofs.Hint.Keeps
import Exemplar.Proofs.Hint.Opaque
import Exemplar.Proofs.Hint.Union
import Exemplar.Proofs.Hint.Unmodelled
import Exemplar.Proofs.LineIndex.RoundTrip
import Exemplar.Proofs.Literal.Keys
import Exemplar.Proofs.Literal.ReadBack
import Exemplar.Proofs.Sandbox.Limits
import Exemplar.Proofs.Serial.Text
import Exemplar.Proofs.Session.Appended
import Exemplar.Proofs.Shape.Describe
import Exemplar.Proofs.Standin.Decorators
import Exemplar.Proofs.Standin.Endless
import Exemplar.Proofs.Standin.Iteration
import Exemplar.Proofs.Worker
