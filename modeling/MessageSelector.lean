import MessageSelector.Main
import MessageSelector.Proofs.Command.Unseen
import MessageSelector.Proofs.Expr.Composition
import MessageSelector.Proofs.Expr.Expansion
import MessageSelector.Proofs.Expr.Questions
import MessageSelector.Proofs.Expr.Stability
import MessageSelector.Proofs.Leaves
import MessageSelector.Proofs.LikePattern
import MessageSelector.Proofs.Message
import MessageSelector.Proofs.Phrase.FaultPlace
import MessageSelector.Proofs.Phrase.FirstFault
import MessageSelector.Proofs.SelectorCache
import MessageSelector.Proofs.Token.Coverage
import MessageSelector.Proofs.Text.Blank
import MessageSelector.Proofs.Expr.Like
import MessageSelector.Proofs.Expr.Identifiers
import MessageSelector.Proofs.Decimal.Integer
import MessageSelector.Proofs.Expr.NumberValue
import MessageSelector.Proofs.Assignment
import MessageSelector.Proofs.Token.NumberSpan
import MessageSelector.Proofs.StringSet
import MessageSelector.Proofs.Token.Reserved
import MessageSelector.Proofs.Phrase.Procedure
import MessageSelector.Proofs.Phrase.Progress
