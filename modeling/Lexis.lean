import Lexis.CommandLine.Run
import Lexis.Main
import Lexis.Proofs.CommandLine.Failures
import Lexis.Proofs.Console.Agreement
import Lexis.Proofs.Console.Composition
import Lexis.Proofs.Console.InputFaults
import Lexis.Proofs.Console.OutputFaults
import Lexis.Proofs.Console.Quitting
import Lexis.Proofs.Console.Records
import Lexis.Proofs.Cursor.Progress
import Lexis.Proofs.Tokens.Grammar
import Lexis.Proofs.Tokens.Reprint
import Lexis.Proofs.Tokens.Words
import Lexis.Proofs.Tree.Copy
import Lexis.Proofs.Tree.Form
import Lexis.Proofs.Tree.Wrapping
