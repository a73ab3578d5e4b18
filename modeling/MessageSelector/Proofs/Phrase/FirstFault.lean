import MessageSelector.Proofs.LikePattern
import MessageSelector.Proofs.Phrase.Acceptance
import MessageSelector.Proofs.Token.Coverage
import MessageSelector.Regex.Plain

/-! A fault of grammar is told at the first token that no selector can have in its place. -/

namespace MessageSelector

namespace Expr

section

variable [Regex.Engine]

end

end Expr

end MessageSelector
