import GrammarMachine.Command.Directory
import GrammarMachine.Frame.Debug
import GrammarMachine.Json.Reader
import GrammarMachine.Main
import GrammarMachine.Production.Debug
import GrammarMachine.Stream.Expectation
import GrammarMachine.Tree.Codec
import GrammarMachine.Proofs.Machine.Moves
import GrammarMachine.Proofs.Stream.Begun
import GrammarMachine.Proofs.Machine.Layers
import GrammarMachine.Proofs.Machine.Sound
import GrammarMachine.Proofs.Stream.Check
import GrammarMachine.Proofs.Machine.Accepted
import GrammarMachine.Proofs.Machine.Attempt
import GrammarMachine.Proofs.Machine.Redefine
import GrammarMachine.Proofs.Machine.Speculation
import GrammarMachine.Proofs.Text.Ranges
import GrammarMachine.Proofs.Pattern.Program
import GrammarMachine.Proofs.Source.Reading
import GrammarMachine.Proofs.Machine.Leads
import GrammarMachine.Proofs.Arithmetic.Syntax
import GrammarMachine.Proofs.Arithmetic.Membership
import GrammarMachine.Proofs.Arithmetic.Tags
import GrammarMachine.Proofs.Arithmetic.Steps
import GrammarMachine.Proofs.Arithmetic.Bodies
import GrammarMachine.Proofs.Arithmetic.Recognition
import GrammarMachine.Proofs.Machine.Intact
import GrammarMachine.Proofs.Machine.Strict
import GrammarMachine.Proofs.Machine.Gapless
import GrammarMachine.Proofs.Tree.Adds
import GrammarMachine.Proofs.Arithmetic.Tree
import GrammarMachine.Proofs.Tree.Adoption
import GrammarMachine.Proofs.Machine.Holds
import GrammarMachine.Proofs.Machine.TailCall
import GrammarMachine.Proofs.Machine.Outline
import GrammarMachine.Proofs.Machine.Permission
import GrammarMachine.Proofs.Machine.Places
import GrammarMachine.Proofs.Machine.Starts
import GrammarMachine.Proofs.Machine.Branches
import GrammarMachine.Proofs.Machine.Calls
import GrammarMachine.Proofs.Machine.Protocol
import GrammarMachine.Proofs.Draft.Transactions
import GrammarMachine.Proofs.Draft.Bookkeeping
import GrammarMachine.Proofs.Machine.Extents
import GrammarMachine.Proofs.Machine.Misses
import GrammarMachine.Proofs.Machine.Failure
import GrammarMachine.Proofs.Tree.Linear
import GrammarMachine.Proofs.Tree.Shift
import GrammarMachine.Proofs.Arithmetic.Depth
import GrammarMachine.Proofs.Stream.References
import GrammarMachine.Proofs.Tree.Placeholders
import GrammarMachine.Proofs.Machine.Termination
import GrammarMachine.Proofs.Machine.LeftRecursion
import GrammarMachine.Proofs.Language.Index
import GrammarMachine.Proofs.Slot.Chains
import GrammarMachine.Proofs.Machine.Slots
import GrammarMachine.Proofs.Machine.Writes
import GrammarMachine.Proofs.Machine.Scopes
import GrammarMachine.Proofs.Tag.Codec
