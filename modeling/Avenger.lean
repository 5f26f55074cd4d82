import Avenger.Main
import Avenger.Proofs.Coupling
import Avenger.Proofs.Coupling.Rule
import Avenger.Proofs.Coupling.Primitive
import Avenger.Proofs.Coupling.Evaluation
import Avenger.Proofs.Termination.Counted
import Avenger.Proofs.Termination.Weight
import Avenger.Proofs.Heap
import Avenger.Proofs.Termination.Rule
import Avenger.Proofs.Termination
import Avenger.Proofs.Guards
import Avenger.Proofs.Locality.Lockstep
import Avenger.Proofs.Locality
import Avenger.Proofs.Printing.Printer
import Avenger.Proofs.Printing.Rule
import Avenger.Proofs.Printing.Level
import Avenger.Proofs.Printing.Expression
import Avenger.Proofs.Printing.Statement
import Avenger.Proofs.Printing.Action
import Avenger.Proofs.Printing
import Avenger.Proofs.Lexing
import Avenger.Proofs.Lexing.Writing
import Avenger.Proofs.Grammar
import Avenger.Proofs.Constants.Invariant
import Avenger.Proofs.Outline
import Avenger.Proofs.Composition
import Avenger.Proofs.Change
import Avenger.Proofs.Trail
import Avenger.Proofs.Constants
import Avenger.Proofs.Joining
import Avenger.Proofs.EndGame
import Avenger.Proofs.Counting
import Avenger.Proofs.Owners
import Avenger.Proofs.Teams
import Avenger.Proofs.Characters
import Avenger.Proofs.CallDepth
import Avenger.Proofs.Lookahead
import Avenger.Proofs.Decoding
import Avenger.Proofs.Forgetting
import Avenger.Proofs.Recoding.Evaluation
import Avenger.Proofs.DeadCode
import Avenger.Proofs.Lines
import Avenger.Proofs.LoopFor
import Avenger.Proofs.Multiverse
import Avenger.Proofs.Updates
import Avenger.Proofs.Unfolding
import Avenger.Proofs.Exactness
import Avenger.Proofs.Naturals
import Avenger.Proofs.Positions
import Avenger.Proofs.Digits
import Avenger.Proofs.Radixes
import Avenger.Proofs.TextOrder
import Avenger.Proofs.WrittenLimits
import Avenger.Proofs.LineSession
import Avenger.Proofs.Literals
import Avenger.Proofs.Progress
import Avenger.Proofs.Indexing
